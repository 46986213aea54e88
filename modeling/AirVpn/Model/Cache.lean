import AirVpn.Model.Api

/-! # The on-disk profile cache

`nm-airvpn-cache.c`: one directory per connection UUID under the state
directory, with the profile in `config.ovpn` and the metadata that vouches for
it in `meta.ini`. The two files are replaced one after the other, each
atomically; which of the operations succeed is the environment's choice. A
process that stops between two operations leaves what it would leave if the
remaining ones failed.
-/

namespace AirVpn

/-- The UUID of a connection, as libnm accepts it: usable as one component of a
path. -/
structure Uuid where
  val : String
  path_safe : val ≠ "" ∧ '/' ∉ val.toList ∧ val ≠ "." ∧ val ≠ ".." := by decide
  deriving DecidableEq

/-- The group `airvpn-cache` of a `meta.ini`. -/
structure CacheMeta where
  paramsHash : String
  fetched : Int
  stale : Bool
  deriving DecidableEq, Repr

inductive File where
  | text (contents : String)
  | keyFile (contents : CacheMeta)
  deriving DecidableEq, Repr

/-- The regular files under the state directory, by path. -/
abbrev Disk := String → Option File

/-- `g_file_set_contents` with success. -/
def Disk.write (disk : Disk) (path : String) (file : File) : Disk :=
  fun q => if q = path then some file else disk q

theorem Disk.write_same (disk : Disk) (path : String) (file : File) :
    disk.write path file path = some file := if_pos rfl

theorem Disk.write_of_ne {path q : String} (h : q ≠ path) (disk : Disk) (file : File) :
    disk.write path file q = disk q := if_neg h

/-- Which directory creations and file replacements go through; a failing one
gives the text of its error. -/
structure FileOps where
  mkdirWithParents : String → Option String
  setContents : String → Option String

/-! ## Paths and keys -/

def configFileName : String := "config.ovpn"
def metaFileName : String := "meta.ini"

def cacheDir (statedir : String) (uuid : Uuid) : String := gBuildFilename [statedir, uuid.val]

def nmAirvpnCacheGetConfigPath (statedir : String) (uuid : Uuid) : String :=
  gBuildFilename [statedir, uuid.val, configFileName]

def metaPath (statedir : String) (uuid : Uuid) : String :=
  gBuildFilename [cacheDir statedir uuid, metaFileName]

theorem configPath_toList (statedir : String) (uuid : Uuid) :
    (nmAirvpnCacheGetConfigPath statedir uuid).toList =
      statedir.toList ++ '/' :: uuid.val.toList ++ "/config.ovpn".toList := by
  have h : nmAirvpnCacheGetConfigPath statedir uuid =
      statedir ++ "/" ++ uuid.val ++ "/" ++ configFileName := rfl
  simp [h, configFileName]

theorem metaPath_toList (statedir : String) (uuid : Uuid) :
    (metaPath statedir uuid).toList =
      statedir.toList ++ '/' :: uuid.val.toList ++ "/meta.ini".toList := by
  have h : metaPath statedir uuid = statedir ++ "/" ++ uuid.val ++ "/" ++ metaFileName := rfl
  simp [h, metaFileName]

theorem metaPath_ne_configPath (statedir : String) (u v : Uuid) :
    metaPath statedir u ≠ nmAirvpnCacheGetConfigPath statedir v := by
  intro h
  have hl := congrArg (fun path => path.toList.getLast?) h
  simp only [metaPath_toList, configPath_toList, List.getLast?_append] at hl
  exact absurd (show some 'i' = some 'n' from hl) (by decide)

theorem Uuid.ext_val {u v : Uuid} (h : u.val = v.val) : u = v := by
  cases u
  cases v
  cases h
  rfl

theorem metaPath_inj {statedir : String} {u v : Uuid}
    (h : metaPath statedir u = metaPath statedir v) : u = v := by
  have hl := congrArg String.toList h
  simp only [metaPath_toList, List.append_cancel_right_eq, List.append_cancel_left_eq,
    List.cons.injEq, true_and, String.toList_inj] at hl
  exact Uuid.ext_val hl

theorem configPath_inj {statedir : String} {u v : Uuid}
    (h : nmAirvpnCacheGetConfigPath statedir u = nmAirvpnCacheGetConfigPath statedir v) :
    u = v := by
  have hl := congrArg String.toList h
  simp only [configPath_toList, List.append_cancel_right_eq, List.append_cancel_left_eq,
    List.cons.injEq, true_and, String.toList_inj] at hl
  exact Uuid.ext_val hl

def joinedParams (params : NMAirvpnGeneratorParams) : String :=
  orEmpty params.server ++ "|" ++ orEmpty params.device ++ "|" ++ orEmpty params.protocol ++ "|" ++
    orEmpty params.port ++ "|" ++ orEmpty params.customDirectives

def cacheMaxAgeSeconds : Int := 90 * 24 * 3600

section

/- `g_compute_checksum_for_string` with `G_CHECKSUM_SHA256`, and the state
directory. -/
variable (sha256 : String → String) (statedir : String)

def paramsHash (params : NMAirvpnGeneratorParams) : String := sha256 (joinedParams params)

/-! ## Reading -/

def loadMeta (uuid : Uuid) (disk : Disk) : Option CacheMeta :=
  match disk (metaPath statedir uuid) with
  | some (.keyFile m) => some m
  | _ => none

def checkCache (uuid : Uuid) (params : NMAirvpnGeneratorParams) (acceptStale : Bool) (now : Int)
    (disk : Disk) : Bool :=
  if (disk (nmAirvpnCacheGetConfigPath statedir uuid)).isNone then false
  else
    match loadMeta statedir uuid disk with
    | none => false
    | some m =>
        if m.paramsHash ≠ paramsHash sha256 params then false
        else if acceptStale then true
        else if m.stale then false
        else if m.fetched ≤ 0 || now - m.fetched > cacheMaxAgeSeconds then false
        else true

def nmAirvpnCacheIsValid (uuid : Uuid) (params : NMAirvpnGeneratorParams) (now : Int)
    (disk : Disk) : Bool :=
  checkCache sha256 statedir uuid params false now disk

/-- The clock is not looked at when stale entries are accepted. -/
def nmAirvpnCacheExists (uuid : Uuid) (params : NMAirvpnGeneratorParams) (disk : Disk) : Bool :=
  checkCache sha256 statedir uuid params true 0 disk

/-! ## Writing -/

def writeFile0600 (io : FileOps) (path : String) (file : File) (disk : Disk) :
    Disk × Except GError Unit :=
  match io.setContents path with
  | some message => (disk, .error ⟨.fileError, message⟩)
  | none => (disk.write path file, .ok ())

def nmAirvpnCacheStore (io : FileOps) (uuid : Uuid) (params : NMAirvpnGeneratorParams)
    (config : String) (now : Int) (disk : Disk) : Disk × Except GError Unit :=
  match io.mkdirWithParents (cacheDir statedir uuid) with
  | some strerror =>
      (disk, .error ⟨.fileError, "Could not create cache directory “" ++ cacheDir statedir uuid ++
        "”: " ++ strerror⟩)
  | none =>
      match writeFile0600 io (nmAirvpnCacheGetConfigPath statedir uuid) (.text config) disk with
      | (disk, .error e) => (disk, .error e)
      | (disk, .ok ()) =>
          writeFile0600 io (metaPath statedir uuid)
            (.keyFile ⟨paramsHash sha256 params, now, false⟩) disk

def nmAirvpnCacheMarkStale (io : FileOps) (uuid : Uuid) (disk : Disk) : Disk :=
  match loadMeta statedir uuid disk with
  | none => disk
  | some m => (writeFile0600 io (metaPath statedir uuid) (.keyFile { m with stale := true }) disk).1

/-- The store stops between its two writes. -/
def storeCut (io : FileOps) (uuid : Uuid) : Bool :=
  (io.mkdirWithParents (cacheDir statedir uuid)).isNone &&
    (io.setContents (nmAirvpnCacheGetConfigPath statedir uuid)).isNone &&
    (io.setContents (metaPath statedir uuid)).isSome

theorem store_cases (io : FileOps) (uuid : Uuid) (params : NMAirvpnGeneratorParams)
    (config : String) (now : Int) (disk : Disk) :
    let stored := nmAirvpnCacheStore sha256 statedir io uuid params config now disk
    let written := disk.write (nmAirvpnCacheGetConfigPath statedir uuid) (.text config)
    (storeCut statedir io uuid = false ∧ stored.1 = disk ∧ stored.2 ≠ .ok ()) ∨
      (storeCut statedir io uuid = true ∧ stored.1 = written ∧ stored.2 ≠ .ok ()) ∨
      (storeCut statedir io uuid = false ∧
        stored.1 = written.write (metaPath statedir uuid)
          (.keyFile ⟨paramsHash sha256 params, now, false⟩)) := by
  unfold nmAirvpnCacheStore storeCut
  cases io.mkdirWithParents (cacheDir statedir uuid) with
  | some _ => exact .inl ⟨rfl, rfl, by simp⟩
  | none =>
      dsimp only [writeFile0600]
      cases io.setContents (nmAirvpnCacheGetConfigPath statedir uuid) with
      | some _ => exact .inl ⟨rfl, rfl, by simp⟩
      | none =>
          dsimp only
          cases io.setContents (metaPath statedir uuid) with
          | some _ => exact .inr (.inl ⟨rfl, rfl, by simp⟩)
          | none => exact .inr (.inr ⟨rfl, rfl⟩)

theorem markStale_cases (statedir : String) (io : FileOps) (uuid : Uuid) (disk : Disk) :
    nmAirvpnCacheMarkStale statedir io uuid disk = disk ∨
      ∃ m, loadMeta statedir uuid disk = some m ∧
        nmAirvpnCacheMarkStale statedir io uuid disk =
          disk.write (metaPath statedir uuid) (.keyFile { m with stale := true }) := by
  unfold nmAirvpnCacheMarkStale
  cases hm : loadMeta statedir uuid disk with
  | none => exact .inl rfl
  | some m =>
      dsimp only [writeFile0600]
      cases io.setContents (metaPath statedir uuid) with
      | some _ => exact .inl rfl
      | none => exact .inr ⟨m, rfl, rfl⟩

theorem markStale_of_ne {statedir path : String} {uuid : Uuid} (h : path ≠ metaPath statedir uuid)
    (io : FileOps) (disk : Disk) :
    nmAirvpnCacheMarkStale statedir io uuid disk path = disk path := by
  rcases markStale_cases statedir io uuid disk with heq | ⟨m, _, heq⟩
  · rw [heq]
  · rw [heq, Disk.write_of_ne h]

end

section

variable {sha256 : String → String} {statedir : String}

/-! ## What is accepted -/

theorem exists_iff {uuid : Uuid} {params : NMAirvpnGeneratorParams} {disk : Disk} :
    nmAirvpnCacheExists sha256 statedir uuid params disk = true ↔
      (disk (nmAirvpnCacheGetConfigPath statedir uuid)).isSome = true ∧
        ∃ m, loadMeta statedir uuid disk = some m ∧ m.paramsHash = paramsHash sha256 params := by
  unfold nmAirvpnCacheExists checkCache
  cases disk (nmAirvpnCacheGetConfigPath statedir uuid) with
  | none => simp
  | some _ =>
      cases loadMeta statedir uuid disk with
      | none => simp
      | some m => by_cases h : m.paramsHash = paramsHash sha256 params <;> simp [h]

theorem exists_of_checkCache {uuid : Uuid} {params : NMAirvpnGeneratorParams} {acceptStale : Bool}
    {now : Int} {disk : Disk}
    (h : checkCache sha256 statedir uuid params acceptStale now disk = true) :
    nmAirvpnCacheExists sha256 statedir uuid params disk = true := by
  rw [exists_iff]
  unfold checkCache at h
  cases hd : disk (nmAirvpnCacheGetConfigPath statedir uuid) with
  | none => simp [hd] at h
  | some _ =>
      cases hm : loadMeta statedir uuid disk with
      | none => simp [hd, hm] at h
      | some m =>
          by_cases hh : m.paramsHash = paramsHash sha256 params
          · exact ⟨rfl, m, rfl, hh⟩
          · simp [hd, hm, hh] at h

theorem exists_of_valid {uuid : Uuid} {params : NMAirvpnGeneratorParams} {now : Int} {disk : Disk}
    (h : nmAirvpnCacheIsValid sha256 statedir uuid params now disk = true) :
    nmAirvpnCacheExists sha256 statedir uuid params disk = true := exists_of_checkCache h

/-! ## The metadata after a write -/

theorem loadMeta_write_config {disk : Disk} (u v : Uuid) (file : File) :
    loadMeta statedir u (disk.write (nmAirvpnCacheGetConfigPath statedir v) file) =
      loadMeta statedir u disk := by
  unfold loadMeta
  rw [Disk.write_of_ne (metaPath_ne_configPath statedir u v)]

theorem loadMeta_write_same {disk : Disk} (u : Uuid) (m : CacheMeta) :
    loadMeta statedir u (disk.write (metaPath statedir u) (.keyFile m)) = some m := by
  unfold loadMeta
  rw [Disk.write_same]

theorem loadMeta_write_of_ne {disk : Disk} {u v : Uuid} (h : u ≠ v) (file : File) :
    loadMeta statedir u (disk.write (metaPath statedir v) file) = loadMeta statedir u disk := by
  unfold loadMeta
  rw [Disk.write_of_ne fun heq => h (metaPath_inj heq)]

theorem loadMeta_markStale {disk : Disk} (io : FileOps) (u v : Uuid) {m : CacheMeta}
    (h : loadMeta statedir u (nmAirvpnCacheMarkStale statedir io v disk) = some m) :
    ∃ m', loadMeta statedir u disk = some m' ∧ m'.paramsHash = m.paramsHash := by
  rcases markStale_cases statedir io v disk with heq | ⟨m', hm', heq⟩
  · exact ⟨m, heq ▸ h, rfl⟩
  · rw [heq] at h
    by_cases huv : u = v
    · subst huv
      rw [loadMeta_write_same] at h
      cases h
      exact ⟨m', hm', rfl⟩
    · rw [loadMeta_write_of_ne huv] at h
      exact ⟨m, h, rfl⟩

/-- A store that succeeds leaves a profile and metadata for its own
parameters. -/
theorem files_of_store_ok {io : FileOps} {uuid : Uuid} {params : NMAirvpnGeneratorParams}
    {config : String} {now : Int} {disk : Disk}
    (h : (nmAirvpnCacheStore sha256 statedir io uuid params config now disk).2 = .ok ()) :
    let stored := (nmAirvpnCacheStore sha256 statedir io uuid params config now disk).1
    stored (nmAirvpnCacheGetConfigPath statedir uuid) = some (.text config) ∧
      loadMeta statedir uuid stored = some ⟨paramsHash sha256 params, now, false⟩ := by
  rcases store_cases sha256 statedir io uuid params config now disk with
    ⟨_, _, hfail⟩ | ⟨_, _, hfail⟩ | ⟨_, hdisk⟩
  · exact absurd h hfail
  · exact absurd h hfail
  · dsimp only at hdisk ⊢
    rw [hdisk, loadMeta_write_same, Disk.write_of_ne (metaPath_ne_configPath _ _ _).symm,
      Disk.write_same]
    exact ⟨rfl, rfl⟩

end

/-! ## A sample connection's cache -/

def sampleUuid : Uuid := { val := "6f1b0a52-1d5e-4c7e-9a3f-2b8d4e6c7a90" }

def sampleStatedir : String := "/var/lib/nm-airvpn"

def sampleParams (server : String) : NMAirvpnGeneratorParams :=
  ⟨some server, none, none, none, none⟩

def sampleSha256 (joined : String) : String :=
  if joined = "ch||||" then "48a61b6679d5766c176be7762f5c2de54265fc191309e0b6a72bf7b9c5b2c2a4"
  else if joined = "nl||||" then "b04409788c093266b8682043dcae4cb04c45123036955d934a329b7d98a614f2"
  else ""

def sampleFileOps (failing : List String) : FileOps where
  mkdirWithParents := fun _ => none
  setContents := fun path => if failing.contains path then some "No space left on device" else none

example : nmAirvpnCacheIsValid sampleSha256 sampleStatedir sampleUuid (sampleParams "ch") 2000
    (nmAirvpnCacheStore sampleSha256 sampleStatedir (sampleFileOps []) sampleUuid
      (sampleParams "ch") "client" 1000 fun _ => none).1 = true := by decide +kernel

end AirVpn
