import AirVpn.Lib.Machine
import AirVpn.Model.Cache

/-! # What the cache vouches for

The cache as a machine of its own: stores and stale marks in any order, each with
its own failures. A store writes the profile before the metadata that vouch for
it, so one that is cut between the two leaves the new profile under the old
metadata.
-/

namespace AirVpn.Cache

open Machine

/-- A call, with the file operations that go through during it. -/
inductive Call where
  | store (io : FileOps) (uuid : Uuid) (params : NMAirvpnGeneratorParams) (config : String)
      (now : Int)
  | markStale (io : FileOps) (uuid : Uuid)

structure Stored where
  uuid : Uuid
  params : NMAirvpnGeneratorParams
  config : String

structure State where
  disk : Disk
  history : List Stored

def start : State := ⟨fun _ => none, []⟩

section

variable (sha256 : String → String) (statedir : String)

def call (s : State) : Call → State
  | .store io uuid params config now =>
      ⟨(nmAirvpnCacheStore sha256 statedir io uuid params config now s.disk).1,
        ⟨uuid, params, config⟩ :: s.history⟩
  | .markStale io uuid => { s with disk := nmAirvpnCacheMarkStale statedir io uuid s.disk }

/-- Every call can be made at any time. -/
def step (s : State) (c : Call) : Option State := some (call sha256 statedir s c)

/-- The profile on the disk was passed to a store for the connection, with
parameters of this digest. -/
def ProfileOf (uuid : Uuid) (hash : String) (s : State) : Prop :=
  ∃ x ∈ s.history, x.uuid = uuid ∧ paramsHash sha256 x.params = hash ∧
    s.disk (nmAirvpnCacheGetConfigPath statedir uuid) = some (.text x.config)

/-- What the cache accepts is a profile of the parameters it is accepted for. -/
def Vouched (s : State) : Prop :=
  ∀ uuid params,
    ((∃ now, nmAirvpnCacheIsValid sha256 statedir uuid params now s.disk = true) ∨
      nmAirvpnCacheExists sha256 statedir uuid params s.disk = true) →
    ProfileOf sha256 statedir uuid (paramsHash sha256 params) s

/-- A store that is cut finds no metadata, or metadata of parameters with which the
same profile has been passed to a store for the connection. -/
def CutUnderOwn (t : Transition State Call) : Prop :=
  ∀ io uuid params config now, t.event = .store io uuid params config now →
    storeCut statedir io uuid = true → ∀ m, loadMeta statedir uuid t.before.disk = some m →
      ∃ x ∈ ⟨uuid, params, config⟩ :: t.before.history,
        x.uuid = uuid ∧ paramsHash sha256 x.params = m.paramsHash ∧ x.config = config

end

variable {sha256 : String → String} {statedir : String}

/-! ## One call -/

def HashesStored (sha256 : String → String) (statedir : String) (s : State) : Prop :=
  ∀ uuid m, loadMeta statedir uuid s.disk = some m →
    ∃ params, m.paramsHash = paramsHash sha256 params

theorem vouched_iff {s : State} (h : HashesStored sha256 statedir s) :
    Vouched sha256 statedir s ↔
      ∀ uuid m, (s.disk (nmAirvpnCacheGetConfigPath statedir uuid)).isSome = true →
        loadMeta statedir uuid s.disk = some m → ProfileOf sha256 statedir uuid m.paramsHash s := by
  constructor
  · intro hv uuid m hd hm
    obtain ⟨params, hp⟩ := h uuid m hm
    rw [hp]
    exact hv uuid params (.inr (exists_iff.mpr ⟨hd, m, hm, hp⟩))
  · intro hv uuid params hok
    have he : nmAirvpnCacheExists sha256 statedir uuid params s.disk = true := by
      rcases hok with ⟨now, hvalid⟩ | he
      · exact exists_of_valid hvalid
      · exact he
    obtain ⟨hd, m, hm, hp⟩ := exists_iff.mp he
    rw [← hp]
    exact hv uuid m hd hm

theorem ProfileOf.mono {s s' : State} {uuid : Uuid} {hash : String}
    (h : ProfileOf sha256 statedir uuid hash s) (hh : ∀ x ∈ s.history, x ∈ s'.history)
    (hd : s'.disk (nmAirvpnCacheGetConfigPath statedir uuid) =
      s.disk (nmAirvpnCacheGetConfigPath statedir uuid)) :
    ProfileOf sha256 statedir uuid hash s' := by
  obtain ⟨x, hx, hu, hp, hc⟩ := h
  exact ⟨x, hh x hx, hu, hp, hd.trans hc⟩

theorem hashesStored_call {s : State} (h : HashesStored sha256 statedir s) (c : Call) :
    HashesStored sha256 statedir (call sha256 statedir s c) := by
  intro uuid m hm
  cases c with
  | markStale io v =>
      obtain ⟨m', hm', hh⟩ := loadMeta_markStale io uuid v hm
      rw [← hh]
      exact h uuid m' hm'
  | store io v params config now =>
      simp only [call] at hm
      rcases store_cases sha256 statedir io v params config now s.disk with
        ⟨_, heq, _⟩ | ⟨_, heq, _⟩ | ⟨_, heq⟩
      · exact h uuid m (heq ▸ hm)
      · rw [heq, loadMeta_write_config] at hm
        exact h uuid m hm
      · rw [heq] at hm
        by_cases huv : uuid = v
        · subst huv
          rw [loadMeta_write_same] at hm
          cases hm
          exact ⟨params, rfl⟩
        · rw [loadMeta_write_of_ne huv, loadMeta_write_config] at hm
          exact h uuid m hm

theorem hashesStored_inductive (sha256 : String → String) (statedir : String) :
    Inductive (step sha256 statedir) start (HashesStored sha256 statedir) where
  start := fun _ _ h => by cases h
  next h hs := by
    cases hs
    exact hashesStored_call h _

theorem vouched_markStale {s : State} (hi : HashesStored sha256 statedir s)
    (h : Vouched sha256 statedir s) (io : FileOps) (v : Uuid) :
    Vouched sha256 statedir (call sha256 statedir s (.markStale io v)) := by
  rw [vouched_iff hi] at h
  rw [vouched_iff (hashesStored_call hi _)]
  intro uuid m hd hm
  have hc : (call sha256 statedir s (.markStale io v)).disk
      (nmAirvpnCacheGetConfigPath statedir uuid) =
        s.disk (nmAirvpnCacheGetConfigPath statedir uuid) :=
    markStale_of_ne (metaPath_ne_configPath statedir v uuid).symm io s.disk
  obtain ⟨m', hm', hh⟩ := loadMeta_markStale io uuid v hm
  rw [hc] at hd
  rw [← hh]
  exact (h uuid m' hd hm').mono (fun _ hx => hx) hc

theorem vouched_store_iff {s : State} (hi : HashesStored sha256 statedir s)
    (h : Vouched sha256 statedir s) (io : FileOps) (v : Uuid) (params : NMAirvpnGeneratorParams)
    (config : String) (now : Int) :
    Vouched sha256 statedir (call sha256 statedir s (.store io v params config now)) ↔
      (storeCut statedir io v = true → ∀ m, loadMeta statedir v s.disk = some m →
        ∃ x ∈ ⟨v, params, config⟩ :: s.history,
          x.uuid = v ∧ paramsHash sha256 x.params = m.paramsHash ∧ x.config = config) := by
  rw [vouched_iff hi] at h
  rw [vouched_iff (hashesStored_call hi _)]
  -- the entries of the other connections are as before
  have other : ∀ {disk : Disk} {uuid : Uuid} {m : CacheMeta}, uuid ≠ v →
      disk (nmAirvpnCacheGetConfigPath statedir uuid) =
        s.disk (nmAirvpnCacheGetConfigPath statedir uuid) →
      loadMeta statedir uuid s.disk = some m →
      (disk (nmAirvpnCacheGetConfigPath statedir uuid)).isSome = true →
      ProfileOf sha256 statedir uuid m.paramsHash ⟨disk, ⟨v, params, config⟩ :: s.history⟩ := by
    intro disk uuid m _ hd hm hsome
    rw [hd] at hsome
    exact (h uuid m hsome hm).mono (fun _ hx => List.mem_cons_of_mem _ hx) hd
  have hne : ∀ {uuid : Uuid}, uuid ≠ v → nmAirvpnCacheGetConfigPath statedir uuid ≠
      nmAirvpnCacheGetConfigPath statedir v := fun huv heq => huv (configPath_inj heq)
  simp only [call]
  rcases store_cases sha256 statedir io v params config now s.disk with
    ⟨hcut, heq, _⟩ | ⟨hcut, heq, _⟩ | ⟨hcut, heq⟩
  · rw [heq, hcut]
    refine ⟨fun _ hc => absurd hc (by decide), fun _ uuid m hd hm => ?_⟩
    exact (h uuid m hd hm).mono (fun _ hx => List.mem_cons_of_mem _ hx) rfl
  · rw [heq, hcut]
    constructor
    · intro hv _ m hm
      obtain ⟨x, hx, hu, hp, hc⟩ := hv v m (by simp [Disk.write_same])
        (by rw [loadMeta_write_config]; exact hm)
      have hc := (Disk.write_same _ _ _).symm.trans hc
      exact ⟨x, hx, hu, hp, (File.text.inj (Option.some.inj hc)).symm⟩
    · intro hown uuid m hd hm
      rw [loadMeta_write_config] at hm
      by_cases huv : uuid = v
      · subst huv
        obtain ⟨x, hx, hu, hp, hc⟩ := hown rfl m hm
        exact ⟨x, hx, hu, hp, by rw [hc]; exact Disk.write_same _ _ _⟩
      · exact other huv (Disk.write_of_ne (hne huv) _ _) hm hd
  · rw [heq, hcut]
    refine ⟨fun _ hc => absurd hc (by decide), fun _ uuid m hd hm => ?_⟩
    by_cases huv : uuid = v
    · subst huv
      rw [loadMeta_write_same] at hm
      cases hm
      exact ⟨⟨uuid, params, config⟩, List.mem_cons_self, rfl, rfl,
        (Disk.write_of_ne (metaPath_ne_configPath statedir uuid uuid).symm _ _).trans
          (Disk.write_same _ _ _)⟩
    · rw [loadMeta_write_of_ne huv, loadMeta_write_config] at hm
      exact other huv ((Disk.write_of_ne (metaPath_ne_configPath statedir v uuid).symm _ _).trans
        (Disk.write_of_ne (hne huv) _ _)) hm hd

/-! ## Every sequence of calls -/

/-- In every sequence of calls the cache vouches only for what it should exactly
when every store that is cut is cut under metadata of its own. -/
theorem vouched_iff_cut_under_own (sha256 : String → String) (statedir : String)
    (calls : List Call) :
    Always (fun t => Vouched sha256 statedir t.after) (run (step sha256 statedir) start calls) ↔
      Always (CutUnderOwn sha256 statedir) (run (step sha256 statedir) start calls) := by
  have hstart : Vouched sha256 statedir start := by
    rw [vouched_iff (hashesStored_inductive sha256 statedir).start]
    intro _ _ hd
    cases hd
  refine run_safe_iff (hashesStored_inductive sha256 statedir) hstart (fun t hi h hs => ?_) calls
  obtain ⟨s, c, s'⟩ := t
  have hafter : call sha256 statedir s c = s' := Option.some.inj hs
  subst hafter
  cases c with
  | markStale io v =>
      exact ⟨fun _ _ _ _ _ _ he => Call.noConfusion he, fun _ => vouched_markStale hi h io v⟩
  | store io v params config now =>
      rw [show Vouched sha256 statedir (call sha256 statedir s (.store io v params config now)) ↔ _
        from vouched_store_iff hi h io v params config now]
      constructor
      · intro hown io' v' params' config' now' he
        cases he
        exact hown
      · intro hown
        exact hown io v params config now rfl

/-- The profile for one server is stored, and the store for another is cut: the
second profile lies under the metadata of the first. -/
def sampleCalls : List Call :=
  [.store (sampleFileOps []) sampleUuid (sampleParams "ch") "client\nremote 192.0.2.7 443"
    1750000000]

def sampleCut : Call :=
  .store (sampleFileOps [metaPath sampleStatedir sampleUuid]) sampleUuid (sampleParams "nl")
    "client\nremote 198.51.100.7 443" 1750000060

theorem cut_store_accepted :
    ¬ Always (fun t => Vouched sampleSha256 sampleStatedir t.after)
      (run (step sampleSha256 sampleStatedir) start (sampleCalls ++ [sampleCut])) := by
  intro h
  obtain ⟨x, hx, _, hp, hc⟩ := h _ (mem_run_append rfl []) sampleUuid (sampleParams "ch")
    (.inr (by decide +kernel))
  rcases List.mem_cons.mp hx with rfl | hx
  · exact absurd hp (by decide +kernel)
  · rcases List.mem_cons.mp hx with rfl | hx
    · exact absurd hc (by decide +kernel)
    · cases hx

end AirVpn.Cache
