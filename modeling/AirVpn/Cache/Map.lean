import Mathlib.Logic.Function.Basic
import AirVpn.Lib.History
import AirVpn.Model.Cache

/-! # The cache as a map

While the file operations go through, the two files of a connection stand for one
entry of a map from UUIDs. Stores and stale marks do to the files what they do to
the map, and the map is read off the calls that were made.
-/

namespace AirVpn.Cache

/-! ## The map -/

/-- What `meta.ini` says, and the profile it says it of. -/
structure Entry where
  paramsHash : String
  profile : String
  fetched : Int
  stale : Bool

abbrev CacheMap := Uuid → Option Entry

/-- What a store is given, with the time it reads from the clock. -/
structure StoreArgs where
  params : NMAirvpnGeneratorParams
  config : String
  now : Int

inductive Op where
  | store (uuid : Uuid) (args : StoreArgs)
  | markStale (uuid : Uuid)

def Op.uuid : Op → Uuid
  | .store uuid _ => uuid
  | .markStale uuid => uuid

namespace CacheMap

def apply (sha256 : String → String) (m : CacheMap) : Op → CacheMap
  | .store uuid args =>
      Function.update m uuid
        (some ⟨paramsHash sha256 args.params, args.config, args.now, false⟩)
  | .markStale uuid =>
      Function.update m uuid ((m uuid).map fun entry => { entry with stale := true })

theorem apply_of_ne (sha256 : String → String) (m : CacheMap) {op : Op} {uuid : Uuid}
    (h : uuid ≠ op.uuid) : m.apply sha256 op uuid = m uuid := by
  cases op with
  | store v args => exact Function.update_of_ne h _ _
  | markStale v => exact Function.update_of_ne h _ _

def Has (m : CacheMap) (uuid : Uuid) (hash : String) : Prop :=
  ∃ entry, m uuid = some entry ∧ entry.paramsHash = hash

/-- It is also not stale, and not too old at a time. -/
def HasFresh (m : CacheMap) (uuid : Uuid) (hash : String) (now : Int) : Prop :=
  ∃ entry, m uuid = some entry ∧ entry.paramsHash = hash ∧ entry.stale = false ∧
    0 < entry.fetched ∧ now - entry.fetched ≤ cacheMaxAgeSeconds

end CacheMap

/-! ## The files -/

def writable : FileOps := ⟨fun _ => none, fun _ => none⟩

section

variable (sha256 : String → String) (statedir : String)

def applyOp (disk : Disk) : Op → Disk
  | .store uuid args =>
      (nmAirvpnCacheStore sha256 statedir writable uuid args.params args.config args.now disk).1
  | .markStale uuid => nmAirvpnCacheMarkStale statedir writable uuid disk

def applyOps (disk : Disk) (ops : List Op) : Disk := ops.foldl (applyOp sha256 statedir) disk

def NoProfiles (disk : Disk) : Prop :=
  ∀ uuid, disk (nmAirvpnCacheGetConfigPath statedir uuid) = none

/-- The files of one connection stand for its entry. Metadata without a profile
are no entry. -/
def Stands (disk : Disk) (uuid : Uuid) : Option Entry → Prop
  | none => disk (nmAirvpnCacheGetConfigPath statedir uuid) = none
  | some entry =>
      disk (nmAirvpnCacheGetConfigPath statedir uuid) = some (.text entry.profile) ∧
        loadMeta statedir uuid disk = some ⟨entry.paramsHash, entry.fetched, entry.stale⟩

def Represents (disk : Disk) (m : CacheMap) : Prop := ∀ uuid, Stands statedir disk uuid (m uuid)

end

variable {sha256 : String → String} {statedir : String}

theorem store_writable (uuid : Uuid) (args : StoreArgs) (disk : Disk) :
    applyOp sha256 statedir disk (.store uuid args) =
      (disk.write (nmAirvpnCacheGetConfigPath statedir uuid) (.text args.config)).write
        (metaPath statedir uuid) (.keyFile ⟨paramsHash sha256 args.params, args.now, false⟩) := rfl

theorem markStale_writable {uuid : Uuid} {disk : Disk} {m : CacheMeta}
    (h : loadMeta statedir uuid disk = some m) :
    applyOp sha256 statedir disk (.markStale uuid) =
      disk.write (metaPath statedir uuid) (.keyFile { m with stale := true }) := by
  simp [applyOp, nmAirvpnCacheMarkStale, h, writeFile0600, writable]

theorem applyOp_of_ne {op : Op} {uuid : Uuid} (h : uuid ≠ op.uuid) (disk : Disk) :
    applyOp sha256 statedir disk op (nmAirvpnCacheGetConfigPath statedir uuid) =
        disk (nmAirvpnCacheGetConfigPath statedir uuid) ∧
      loadMeta statedir uuid (applyOp sha256 statedir disk op) = loadMeta statedir uuid disk := by
  cases op with
  | store v args =>
      have hne : uuid ≠ v := h
      have hpath : nmAirvpnCacheGetConfigPath statedir uuid ≠
          nmAirvpnCacheGetConfigPath statedir v := fun heq => hne (configPath_inj heq)
      rw [store_writable]
      constructor
      · rw [Disk.write_of_ne (metaPath_ne_configPath statedir v uuid).symm,
          Disk.write_of_ne hpath]
      · rw [loadMeta_write_of_ne hne, loadMeta_write_config]
  | markStale v =>
      have hne : uuid ≠ v := h
      constructor
      · exact markStale_of_ne (metaPath_ne_configPath statedir v uuid).symm writable disk
      · show loadMeta statedir uuid (nmAirvpnCacheMarkStale statedir writable v disk) = _
        rcases markStale_cases statedir writable v disk with heq | ⟨m, _, heq⟩
        · rw [heq]
        · rw [heq, loadMeta_write_of_ne hne]

theorem Stands.congr {disk disk' : Disk} {uuid : Uuid} {entry : Option Entry}
    (h : Stands statedir disk uuid entry)
    (hconfig : disk' (nmAirvpnCacheGetConfigPath statedir uuid) =
      disk (nmAirvpnCacheGetConfigPath statedir uuid))
    (hmeta : loadMeta statedir uuid disk' = loadMeta statedir uuid disk) :
    Stands statedir disk' uuid entry := by
  cases entry with
  | none => exact hconfig.trans h
  | some entry => exact ⟨hconfig.trans h.1, hmeta.trans h.2⟩

/-- One call does to the files what it does to the map. -/
theorem Represents.applyOp {disk : Disk} {m : CacheMap} (h : Represents statedir disk m)
    (op : Op) : Represents statedir (applyOp sha256 statedir disk op) (m.apply sha256 op) := by
  intro uuid
  by_cases hne : uuid ≠ op.uuid
  · rw [CacheMap.apply_of_ne sha256 m hne]
    exact (h uuid).congr (applyOp_of_ne hne disk).1 (applyOp_of_ne hne disk).2
  · have heq : uuid = op.uuid := not_not.mp hne
    subst heq
    cases op with
    | store v args =>
        simp only [Op.uuid, CacheMap.apply, Function.update_self, Stands, store_writable]
        constructor
        · rw [Disk.write_of_ne (metaPath_ne_configPath statedir v v).symm, Disk.write_same]
        · rw [loadMeta_write_same]
    | markStale v =>
        have hconfig : Cache.applyOp sha256 statedir disk (.markStale v)
            (nmAirvpnCacheGetConfigPath statedir v) =
              disk (nmAirvpnCacheGetConfigPath statedir v) :=
          markStale_of_ne (metaPath_ne_configPath statedir v v).symm writable disk
        have hv := h v
        simp only [Op.uuid, CacheMap.apply, Function.update_self]
        cases hm : m v with
        | none =>
            rw [hm] at hv
            exact hconfig.trans hv
        | some entry =>
            rw [hm] at hv
            refine ⟨hconfig.trans hv.1, ?_⟩
            rw [markStale_writable hv.2, loadMeta_write_same]

theorem Represents.applyOps {disk : Disk} {m : CacheMap} (h : Represents statedir disk m)
    (ops : List Op) :
    Represents statedir (applyOps sha256 statedir disk ops)
      (ops.foldl (CacheMap.apply sha256) m) := by
  induction ops generalizing disk m with
  | nil => exact h
  | cons op ops ih => exact ih (h.applyOp op)

theorem NoProfiles.represents {disk : Disk} (h : NoProfiles statedir disk) :
    Represents statedir disk fun _ => none := h

/-! ## What the files answer -/

theorem Represents.exists_iff {disk : Disk} {m : CacheMap} (h : Represents statedir disk m)
    (uuid : Uuid) (params : NMAirvpnGeneratorParams) :
    nmAirvpnCacheExists sha256 statedir uuid params disk = true ↔
      m.Has uuid (paramsHash sha256 params) := by
  have hu := h uuid
  unfold CacheMap.Has
  rw [AirVpn.exists_iff]
  cases hm : m uuid with
  | none =>
      rw [hm] at hu
      simp [show disk _ = none from hu]
  | some entry =>
      rw [hm] at hu
      simp [hu.1, hu.2]

theorem Represents.valid_iff {disk : Disk} {m : CacheMap} (h : Represents statedir disk m)
    (uuid : Uuid) (params : NMAirvpnGeneratorParams) (now : Int) :
    nmAirvpnCacheIsValid sha256 statedir uuid params now disk = true ↔
      m.HasFresh uuid (paramsHash sha256 params) now := by
  have hu := h uuid
  unfold CacheMap.HasFresh nmAirvpnCacheIsValid checkCache
  cases hm : m uuid with
  | none =>
      rw [hm] at hu
      simp [show disk _ = none from hu]
  | some entry =>
      rw [hm] at hu
      by_cases hh : entry.paramsHash = paramsHash sha256 params
      · cases hstale : entry.stale <;> simp [hu.1, hu.2, hh, hstale]
      · simp [hu.1, hu.2, hh]

/-! ## What the calls say -/

def Op.Stores (uuid : Uuid) (op : Op) : Prop := ∃ args, op = .store uuid args

/-- The last store for a connection was given `args`, and `after` are the calls
that came later. -/
def LastStore (uuid : Uuid) (ops : List Op) (args : StoreArgs) (after : List Op) : Prop :=
  History.LastAt (Op.Stores uuid) ops (.store uuid args) after

def replay (sha256 : String → String) (ops : List Op) : CacheMap :=
  ops.foldl (CacheMap.apply sha256) fun _ => none

theorem replay_append (sha256 : String → String) (ops : List Op) (op : Op) :
    replay sha256 (ops ++ [op]) = (replay sha256 ops).apply sha256 op := by
  simp [replay]

def StoreArgs.entry (sha256 : String → String) (args : StoreArgs) (stale : Bool) : Entry :=
  ⟨paramsHash sha256 args.params, args.config, args.now, stale⟩

def marked (uuid : Uuid) (after : List Op) : Bool :=
  after.any fun | .store _ _ => false | .markStale v => v = uuid

theorem marked_iff {uuid : Uuid} {after : List Op} :
    marked uuid after = true ↔ .markStale uuid ∈ after := by
  unfold marked
  rw [List.any_eq_true]
  constructor
  · rintro ⟨op, hop, h⟩
    cases op with
    | store v args => cases h
    | markStale v =>
        have hv : v = uuid := by simpa using h
        exact hv ▸ hop
  · intro h
    exact ⟨_, h, by simp⟩

theorem marked_append_of_ne {uuid : Uuid} {op : Op} (h : uuid ≠ op.uuid) (after : List Op) :
    marked uuid (after ++ [op]) = marked uuid after := by
  cases op with
  | store v args => simp [marked]
  | markStale v =>
      have hv : ¬ v = uuid := fun heq => h heq.symm
      simp [marked, hv]

/-- The map holds what the last store was given, stale when a mark came later. -/
theorem replay_eq_some (sha256 : String → String) (ops : List Op) (uuid : Uuid) (entry : Entry) :
    replay sha256 ops uuid = some entry ↔
      ∃ args after, LastStore uuid ops args after ∧
        entry = args.entry sha256 (marked uuid after) := by
  induction ops using List.reverseRecOn generalizing entry with
  | nil => simp [replay, LastStore, History.not_lastAt_nil]
  | append_singleton ops op ih =>
      rw [replay_append]
      unfold LastStore
      by_cases huv : uuid ≠ op.uuid
      · have hnot : ¬ op.Stores uuid := by
          rintro ⟨args, rfl⟩
          exact huv rfl
        rw [CacheMap.apply_of_ne sha256 _ huv, ih]
        simp only [History.lastAt_append_of_not hnot]
        constructor
        · rintro ⟨args, after, hlast, rfl⟩
          exact ⟨args, _, ⟨after, rfl, hlast⟩, by rw [marked_append_of_ne huv]⟩
        · rintro ⟨args, _, ⟨after, rfl, hlast⟩, rfl⟩
          exact ⟨args, after, hlast, by rw [marked_append_of_ne huv]⟩
      · have heq : uuid = op.uuid := not_not.mp huv
        subst heq
        cases op with
        | store v args =>
            simp only [Op.uuid, CacheMap.apply, Function.update_self, Option.some.injEq,
              History.lastAt_append_of (p := Op.Stores v) ⟨args, rfl⟩, Op.store.injEq, true_and]
            constructor
            · rintro rfl
              exact ⟨args, [], ⟨rfl, rfl⟩, rfl⟩
            · rintro ⟨_, _, ⟨rfl, rfl⟩, rfl⟩
              rfl
        | markStale v =>
            have hnot : ¬ Op.Stores v (.markStale v) := by
              rintro ⟨args, h⟩
              cases h
            simp only [Op.uuid] at ih
            simp only [Op.uuid, CacheMap.apply, Function.update_self, Option.map_eq_some_iff, ih,
              History.lastAt_append_of_not hnot]
            constructor
            · rintro ⟨_, ⟨args, after, hlast, rfl⟩, rfl⟩
              exact ⟨args, _, ⟨after, rfl, hlast⟩, by simp [marked, StoreArgs.entry]⟩
            · rintro ⟨args, _, ⟨after, rfl, hlast⟩, rfl⟩
              exact ⟨_, ⟨args, after, hlast, rfl⟩, by simp [marked, StoreArgs.entry]⟩

/-! ## Every sequence of calls -/

/-- The files answer as a map from UUIDs does that a list of calls has made. -/
structure ImplementsMap (sha256 : String → String) (statedir : String) (ops : List Op)
    (disk : Disk) : Prop where
  exists_iff : ∀ uuid params, nmAirvpnCacheExists sha256 statedir uuid params disk = true ↔
    ∃ args after, LastStore uuid ops args after ∧
      paramsHash sha256 args.params = paramsHash sha256 params
  valid_iff : ∀ uuid params now,
    nmAirvpnCacheIsValid sha256 statedir uuid params now disk = true ↔
      ∃ args after, LastStore uuid ops args after ∧
        paramsHash sha256 args.params = paramsHash sha256 params ∧ .markStale uuid ∉ after ∧
          0 < args.now ∧ now - args.now ≤ cacheMaxAgeSeconds
  profile : ∀ uuid args after, LastStore uuid ops args after →
    disk (nmAirvpnCacheGetConfigPath statedir uuid) = some (.text args.config)

/-- A stale mark changes nothing but the stale bit, for any connection. -/
structure MarkKeeps (sha256 : String → String) (statedir : String) (disk disk' : Disk) :
    Prop where
  answer : ∀ uuid params, nmAirvpnCacheExists sha256 statedir uuid params disk' =
    nmAirvpnCacheExists sha256 statedir uuid params disk
  profile : ∀ uuid, disk' (nmAirvpnCacheGetConfigPath statedir uuid) =
    disk (nmAirvpnCacheGetConfigPath statedir uuid)
  metadata : ∀ uuid,
    (loadMeta statedir uuid disk').map (fun m => (m.paramsHash, m.fetched)) =
      (loadMeta statedir uuid disk).map fun m => (m.paramsHash, m.fetched)

structure Unaffected (sha256 : String → String) (statedir : String) (uuid : Uuid)
    (disk disk' : Disk) : Prop where
  answer : ∀ params, nmAirvpnCacheExists sha256 statedir uuid params disk' =
    nmAirvpnCacheExists sha256 statedir uuid params disk
  valid : ∀ params now, nmAirvpnCacheIsValid sha256 statedir uuid params now disk' =
    nmAirvpnCacheIsValid sha256 statedir uuid params now disk
  profile : disk' (nmAirvpnCacheGetConfigPath statedir uuid) =
    disk (nmAirvpnCacheGetConfigPath statedir uuid)

theorem Represents.implementsMap {disk : Disk} {ops : List Op}
    (h : Represents statedir disk (replay sha256 ops)) :
    ImplementsMap sha256 statedir ops disk where
  exists_iff uuid params := by
    rw [h.exists_iff]
    unfold CacheMap.Has
    simp only [replay_eq_some]
    constructor
    · rintro ⟨_, ⟨args, after, hlast, rfl⟩, hhash⟩
      exact ⟨args, after, hlast, hhash⟩
    · rintro ⟨args, after, hlast, hhash⟩
      exact ⟨_, ⟨args, after, hlast, rfl⟩, hhash⟩
  valid_iff uuid params now := by
    rw [h.valid_iff]
    unfold CacheMap.HasFresh
    simp only [replay_eq_some, ← marked_iff, Bool.not_eq_true]
    constructor
    · rintro ⟨_, ⟨args, after, hlast, rfl⟩, hfresh⟩
      exact ⟨args, after, hlast, hfresh⟩
    · rintro ⟨args, after, hlast, hfresh⟩
      exact ⟨_, ⟨args, after, hlast, rfl⟩, hfresh⟩
  profile uuid args after hlast := by
    have hu := h uuid
    rw [(replay_eq_some sha256 ops uuid _).mpr ⟨args, after, hlast, rfl⟩] at hu
    exact hu.1

theorem markKeeps (uuid : Uuid) (disk : Disk) :
    MarkKeeps sha256 statedir disk (applyOp sha256 statedir disk (.markStale uuid)) := by
  have hprofile : ∀ v, applyOp sha256 statedir disk (.markStale uuid)
      (nmAirvpnCacheGetConfigPath statedir v) = disk (nmAirvpnCacheGetConfigPath statedir v) :=
    fun v => markStale_of_ne (metaPath_ne_configPath statedir uuid v).symm writable disk
  have hmeta : ∀ v,
      (loadMeta statedir v (applyOp sha256 statedir disk (.markStale uuid))).map
          (fun m => (m.paramsHash, m.fetched)) =
        (loadMeta statedir v disk).map fun m => (m.paramsHash, m.fetched) := by
    intro v
    by_cases hne : v ≠ uuid
    · have hop : v ≠ (Op.markStale uuid).uuid := hne
      rw [(applyOp_of_ne hop disk).2]
    · have heq : v = uuid := not_not.mp hne
      subst heq
      cases hm : loadMeta statedir v disk with
      | none => simp [applyOp, nmAirvpnCacheMarkStale, hm]
      | some m =>
          rw [markStale_writable hm, loadMeta_write_same]
          rfl
  refine ⟨fun v params => ?_, hprofile, hmeta⟩
  have hash : ∀ disk : Disk,
      (∃ m, loadMeta statedir v disk = some m ∧ m.paramsHash = paramsHash sha256 params) ↔
        ((loadMeta statedir v disk).map fun m => (m.paramsHash, m.fetched)).map Prod.fst =
          some (paramsHash sha256 params) := by
    intro disk
    simp [Option.map_eq_some_iff]
  rw [Bool.eq_iff_iff, AirVpn.exists_iff, AirVpn.exists_iff, hprofile, hash, hash, hmeta]

theorem unaffected {op : Op} {uuid : Uuid} (h : uuid ≠ op.uuid) (disk : Disk) :
    Unaffected sha256 statedir uuid disk (applyOp sha256 statedir disk op) := by
  obtain ⟨hprofile, hmeta⟩ := @applyOp_of_ne sha256 statedir op uuid h disk
  refine ⟨fun params => ?_, fun params now => ?_, hprofile⟩
  · unfold nmAirvpnCacheExists checkCache
    rw [hprofile, hmeta]
  · unfold nmAirvpnCacheIsValid checkCache
    rw [hprofile, hmeta]

/-- From a state directory without profiles, every list of calls leaves files that
answer as the map it makes; a later mark keeps all but the stale bit, and a later
call for one connection keeps the answers for every other one. -/
theorem cache_implements_map (sha256 : String → String) (statedir : String) (disk : Disk)
    (hdisk : NoProfiles statedir disk) (ops : List Op) :
    ImplementsMap sha256 statedir ops (applyOps sha256 statedir disk ops) ∧
      (∀ uuid, MarkKeeps sha256 statedir (applyOps sha256 statedir disk ops)
        (applyOps sha256 statedir disk (ops ++ [.markStale uuid]))) ∧
      ∀ op uuid, uuid ≠ op.uuid →
        Unaffected sha256 statedir uuid (applyOps sha256 statedir disk ops)
          (applyOps sha256 statedir disk (ops ++ [op])) := by
  have hsnoc : ∀ op, applyOps sha256 statedir disk (ops ++ [op]) =
      applyOp sha256 statedir (applyOps sha256 statedir disk ops) op := by
    intro op
    simp [applyOps]
  refine ⟨(hdisk.represents.applyOps ops).implementsMap, fun uuid => ?_, fun op uuid hne => ?_⟩
  · rw [hsnoc]
    exact markKeeps uuid _
  · rw [hsnoc]
    exact unaffected hne _

def sampleOps : List Op :=
  [.store sampleUuid ⟨sampleParams "ch", "client\nremote 192.0.2.7 443", 1750000000⟩,
    .markStale sampleUuid,
    .store sampleUuid ⟨sampleParams "nl", "client\nremote 198.51.100.7 443", 1750000060⟩]

theorem cache_implements_map_sample :
    ImplementsMap sampleSha256 sampleStatedir sampleOps
        (applyOps sampleSha256 sampleStatedir (fun _ => none) sampleOps) :=
  (cache_implements_map sampleSha256 sampleStatedir (fun _ => none) (fun _ => rfl) sampleOps).1

end AirVpn.Cache
