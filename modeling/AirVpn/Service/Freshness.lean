import AirVpn.Cache.Map
import AirVpn.Lib.Simulation
import AirVpn.Service.Stale

/-! # When the generator is asked

The metadata in the state directory are the daemon's memory. They say of every connection
what the stores and the stale marks of the run say that have gone through, whatever else
has failed in between: so a request is passed on to the generator exactly if the run, and
the runs before it, have left no profile that is fresh for it.
-/

namespace AirVpn.Service

open Daemon Machine

variable {cfg : Config} {env : Env} {s s' : Daemon}

/-! ## The calls that go through -/

def storeDone (statedir : String) (io : FileOps) (uuid : Uuid) : Bool :=
  (io.mkdirWithParents (cacheDir statedir uuid)).isNone &&
    (io.setContents (nmAirvpnCacheGetConfigPath statedir uuid)).isNone &&
    (io.setContents (metaPath statedir uuid)).isNone

theorem storeDone_cases (sha256 : String → String) (statedir : String) (io : FileOps) (uuid : Uuid)
    (params : NMAirvpnGeneratorParams) (config : String) (now : Int) (disk : Disk) :
    let stored := (nmAirvpnCacheStore sha256 statedir io uuid params config now disk).1
    let written := disk.write (nmAirvpnCacheGetConfigPath statedir uuid) (.text config)
    (storeDone statedir io uuid = true ∧
        stored = written.write (metaPath statedir uuid)
          (.keyFile ⟨paramsHash sha256 params, now, false⟩)) ∨
      (storeDone statedir io uuid = false ∧ (stored = disk ∨ stored = written)) := by
  unfold nmAirvpnCacheStore storeDone
  cases io.mkdirWithParents (cacheDir statedir uuid) with
  | some _ => exact .inr ⟨rfl, .inl rfl⟩
  | none =>
      dsimp only [writeFile0600]
      cases io.setContents (nmAirvpnCacheGetConfigPath statedir uuid) with
      | some _ => exact .inr ⟨rfl, .inl rfl⟩
      | none =>
          dsimp only
          cases io.setContents (metaPath statedir uuid) with
          | some _ => exact .inr ⟨rfl, .inr rfl⟩
          | none => exact .inl ⟨rfl, rfl⟩

/-- The call of the cache that an effect is, if it goes through. -/
def Effect.op (cfg : Config) (env : Env) : Effect → Option Cache.Op
  | .stored uuid params config =>
      if storeDone cfg.statedir env.io uuid then some (.store uuid ⟨params, config, env.now⟩)
      else none
  | .markedStale uuid =>
      if (env.io.setContents (metaPath cfg.statedir uuid)).isNone then some (.markStale uuid)
      else none
  | _ => none

def Event.cacheEnv : Event → Option Env
  | .disconnect env | .fetchDone _ _ env | .childWatch _ _ env | .connectTimeout _ env => some env
  | _ => none

/-- The calls of one step, of which there is one at most. -/
def cacheOps (cfg : Config) (t : Transition Daemon Event) : List Cache.Op :=
  match t.event.cacheEnv with
  | some env => t.after.effects.filterMap (Effect.op cfg env)
  | none => []

def opsOf (cfg : Config) (ts : List (Transition Daemon Event)) : List Cache.Op :=
  ts.flatMap (cacheOps cfg)

/-! ## What the metadata say -/

/-- The metadata are those of the map, and every entry has its profile. -/
structure Catalogued (cfg : Config) (disk : Disk) (m : Cache.CacheMap) : Prop where
  metadata : ∀ u, loadMeta cfg.statedir u disk =
    (m u).map fun entry => ⟨entry.paramsHash, entry.fetched, entry.stale⟩
  profile : ∀ u, (m u).isSome = true →
    (disk (nmAirvpnCacheGetConfigPath cfg.statedir u)).isSome = true

namespace Catalogued

variable {disk disk' : Disk} {m : Cache.CacheMap}

theorem empty (cfg : Config) : Catalogued cfg (fun _ => none) fun _ => none := ⟨fun _ => rfl, nofun⟩

theorem congr (h : Catalogued cfg disk m)
    (hmeta : ∀ u, loadMeta cfg.statedir u disk' = loadMeta cfg.statedir u disk)
    (hkept : ∀ path, (disk path).isSome = true → (disk' path).isSome = true) :
    Catalogued cfg disk' m :=
  ⟨fun u => (hmeta u).trans (h.metadata u), fun u hu => hkept _ (h.profile u hu)⟩

theorem valid_iff (h : Catalogued cfg disk m) (u : Uuid) (params : NMAirvpnGeneratorParams)
    (now : Int) : nmAirvpnCacheIsValid cfg.sha256 cfg.statedir u params now disk = true ↔
      m.HasFresh u (paramsHash cfg.sha256 params) now := by
  have hmeta := h.metadata u
  have hprofile := h.profile u
  unfold Cache.CacheMap.HasFresh nmAirvpnCacheIsValid checkCache
  cases hm : m u with
  | none =>
      rw [hm] at hmeta
      simp [show loadMeta cfg.statedir u disk = none from hmeta]
  | some entry =>
      rw [hm] at hmeta hprofile
      have hpresent : (disk (nmAirvpnCacheGetConfigPath cfg.statedir u)).isNone = false := by
        rw [← Option.not_isSome, hprofile rfl]
        rfl
      by_cases hhash : entry.paramsHash = paramsHash cfg.sha256 params
      · cases hstale : entry.stale <;> simp [hpresent, hmeta, hhash, hstale]
      · simp [hpresent, hmeta, hhash]

theorem write_config (h : Catalogued cfg disk m) (u : Uuid) (file : File) :
    Catalogued cfg (disk.write (nmAirvpnCacheGetConfigPath cfg.statedir u) file) m := by
  refine h.congr (fun v => loadMeta_write_config v u file) fun path hpath => ?_
  unfold Disk.write
  split
  · rfl
  · exact hpath

theorem write_meta (h : Catalogued cfg disk m) {u : Uuid} (entry : Cache.Entry)
    (hprofile : (disk (nmAirvpnCacheGetConfigPath cfg.statedir u)).isSome = true) :
    Catalogued cfg
      (disk.write (metaPath cfg.statedir u)
        (.keyFile ⟨entry.paramsHash, entry.fetched, entry.stale⟩))
      (Function.update m u (some entry)) where
  metadata v := by
    by_cases huv : v = u
    · subst huv
      rw [loadMeta_write_same, Function.update_self]
      rfl
    · rw [loadMeta_write_of_ne huv, Function.update_of_ne huv]
      exact h.metadata v
  profile v hv := by
    rw [Disk.write_of_ne (metaPath_ne_configPath cfg.statedir u v).symm]
    by_cases huv : v = u
    · exact huv ▸ hprofile
    · rw [Function.update_of_ne huv] at hv
      exact h.profile v hv

/-- A store does to the metadata what it does to the map if it goes through, and nothing
otherwise. -/
theorem store (h : Catalogued cfg disk m) (env : Env) (u : Uuid)
    (params : NMAirvpnGeneratorParams) (config : String) :
    Catalogued cfg
      (nmAirvpnCacheStore cfg.sha256 cfg.statedir env.io u params config env.now disk).1
      ((Effect.op cfg env (.stored u params config)).toList.foldl
        (Cache.CacheMap.apply cfg.sha256) m) := by
  have hwritten := h.write_config u (.text config)
  have hpresent : (disk.write (nmAirvpnCacheGetConfigPath cfg.statedir u) (.text config)
      (nmAirvpnCacheGetConfigPath cfg.statedir u)).isSome = true := by
    rw [Disk.write_same]
    rfl
  rcases storeDone_cases cfg.sha256 cfg.statedir env.io u params config env.now disk with
    ⟨hdone, hdisk⟩ | ⟨hdone, hdisk | hdisk⟩ <;> rw [hdisk, Effect.op, hdone]
  · exact hwritten.write_meta ⟨_, config, _, _⟩ hpresent
  · exact h
  · exact hwritten

theorem marked (h : Catalogued cfg disk m) (env : Env) (u : Uuid) :
    Catalogued cfg (nmAirvpnCacheMarkStale cfg.statedir env.io u disk)
      ((Effect.op cfg env (.markedStale u)).toList.foldl (Cache.CacheMap.apply cfg.sha256) m) := by
  have hmeta := h.metadata u
  unfold nmAirvpnCacheMarkStale writeFile0600
  rw [hmeta, Effect.op]
  cases hio : env.io.setContents (metaPath cfg.statedir u) with
  | some _ => cases m u <;> exact h
  | none =>
      show Catalogued cfg _ (Function.update m u ((m u).map _))
      cases hm : m u with
      | none =>
          have hself : Function.update m u none = m := by rw [← hm, Function.update_eq_self]
          show Catalogued cfg disk (Function.update m u none)
          rwa [hself]
      | some entry =>
          exact h.write_meta { entry with stale := true } (h.profile u (by rw [hm]; rfl))

end Catalogued

/-! ## One step -/

/-- What happens to the state directory, and the calls of it that go through. -/
inductive Wrote (cfg : Config) (disk : Disk) : Disk → List Cache.Op → Prop where
  | same : Wrote cfg disk disk []
  | marked (env : Env) (uuid : Option Uuid) :
      Wrote cfg disk (markedDisk cfg env uuid disk)
        ((markEffects uuid).filterMap (Effect.op cfg env))
  | stored (env : Env) (uuid : Uuid) (params : NMAirvpnGeneratorParams) (config : String) :
      Wrote cfg disk
        (nmAirvpnCacheStore cfg.sha256 cfg.statedir env.io uuid params config env.now disk).1
        (Effect.op cfg env (.stored uuid params config)).toList

theorem ops_singleton (cfg : Config) (env : Env) (e : Effect) :
    [e].filterMap (Effect.op cfg env) = (Effect.op cfg env e).toList := by
  cases hop : Effect.op cfg env e <;> simp [hop]

theorem Catalogued.wrote {disk disk' : Disk} {m : Cache.CacheMap} {ops : List Cache.Op}
    (h : Catalogued cfg disk m) (hw : Wrote cfg disk disk' ops) :
    Catalogued cfg disk' (ops.foldl (Cache.CacheMap.apply cfg.sha256) m) := by
  cases hw with
  | same => exact h
  | marked env uuid =>
      cases uuid with
      | none => exact h
      | some u =>
          rw [show markEffects (some u) = [.markedStale u] from rfl, ops_singleton]
          exact h.marked env u
  | stored env uuid params config => exact h.store env uuid params config

theorem ops_cleanedEffects (cfg : Config) (env : Env) (s : Daemon) :
    (cleanedEffects s).filterMap (Effect.op cfg env) = [] := by
  rw [List.filterMap_eq_nil_iff]
  intro e he
  obtain ⟨_, _, _, rfl⟩ := mem_cleanedEffects he
  rfl

/-- Of what a handler does around a mark, only the mark is a call. -/
theorem wrote_marked {disk : Disk} {e : Effect} (he : e.op cfg env = none) (uuid : Option Uuid)
    {before after : List Effect} (hbefore : before.filterMap (Effect.op cfg env) = [])
    (hafter : after.filterMap (Effect.op cfg env) = []) :
    Wrote cfg disk (markedDisk cfg env uuid disk)
      ((e :: (before ++ (markEffects uuid ++ after))).filterMap (Effect.op cfg env)) := by
  rw [List.filterMap_cons, he, List.filterMap_append, hbefore, List.filterMap_append, hafter,
    List.append_nil]
  exact .marked env uuid

theorem RunOutcome.ops {r : Except GError Unit} {env' : Env} (hr : RunOutcome cfg env' s s' r) :
    s'.effects.filterMap (Effect.op cfg env) = s.effects.filterMap (Effect.op cfg env) := by
  have armed : ∀ {table active effects}, ArmOutcome cfg env' s table active effects →
      effects.filterMap (Effect.op cfg env) = [] := by
    intro table active effects ha
    cases ha <;> rfl
  cases hr with
  | noBinary _ => rfl
  | notArmed _ _ => rfl
  | notSpawned _ ha =>
      rw [List.filterMap_append, armed ha]
      rfl
  | spawned _ ha _ =>
      rw [List.filterMap_cons, List.filterMap_append, armed ha]
      rfl

theorem ops_afterRun (r : Daemon × Except GError Unit) :
    (afterRun r).effects.filterMap (Effect.op cfg env) =
      r.1.effects.filterMap (Effect.op cfg env) := by
  unfold afterRun
  split <;> rfl

theorem wrote_disconnect (cfg : Config) (env : Env) (s : Daemon) (h : s.effects = []) :
    Wrote cfg s.disk (nmVpnServicePluginDisconnect cfg env s).disk
      ((nmVpnServicePluginDisconnect cfg env s).effects.filterMap (Effect.op cfg env)) := by
  cases hs : svcActive s with
  | false =>
      rw [disconnect_inactive hs, h]
      exact .same
  | true =>
      rw [disconnect_active hs, h]
      exact wrote_marked rfl _ (ops_cleanedEffects cfg env s) rfl

theorem FetchOutcome.wrote {f : Fetch} {result : FetchResult} {fs : List Fetch}
    (ho : FetchOutcome cfg env f result { quiet s with fetches := fs } s') :
    Wrote cfg s.disk s'.disk (s'.effects.filterMap (Effect.op cfg env)) := by
  cases ho with
  | cancelled _ => exact .same
  | abandoned _ _ => exact .same
  | notStored _ _ _ _ => exact ops_singleton cfg env _ ▸ .stored env _ _ _
  | stored _ _ _ _ _ hr =>
      rw [ops_afterRun, hr.ops, afterRun_eq, hr.disk]
      exact ops_singleton cfg env _ ▸ .stored env _ _ _
  | noProfile _ _ _ => exact .same
  | fallback _ _ _ _ hr =>
      rw [ops_afterRun, hr.ops, afterRun_eq, hr.disk]
      exact .same

theorem wrote_step {e : Event} (hs : step cfg s e = some s') :
    Wrote cfg s.disk s'.disk (cacheOps cfg ⟨s, e, s'⟩) := by
  have quietly : ∀ {ops}, ops = [] → s'.disk = s.disk → Wrote cfg s.disk s'.disk ops := by
    intro ops hops hdisk
    rw [hops, hdisk]
    exact .same
  cases step_cases hs with
  | request _ he _ ho _ =>
      refine quietly ?_ ho.disk
      cases e <;> first | rfl | cases he
  | disconnect env => exact wrote_disconnect cfg env (quiet s) rfl
  | stateChange state => exact quietly rfl (by rw [setState_eq]; rfl)
  | fetchDone _ _ _ _ ho => exact ho.wrote
  | @childWatch p status env _ _ =>
      unfold cacheOps Event.cacheEnv
      dsimp only
      rw [watch_eq]
      split
      · split
        · exact .same
        · exact @wrote_marked cfg env s.disk _ rfl s.priv.uuid [] [] rfl rfl
      · exact wrote_disconnect cfg env (released env ((quiet s).setProc p.attempt .notified)) rfl
  | @connectTimeout timer env _ =>
      unfold cacheOps Event.cacheEnv
      dsimp only
      rw [timeout_eq]
      split
      · exact .same
      · have hafter := ops_cleanedEffects cfg env
          { quiet s with timers := s.timers.filter (· ≠ timer) }
        exact @wrote_marked cfg env s.disk _ rfl s.priv.uuid [] _ rfl
          ((List.append_nil _).symm ▸ hafter)
  | killTimeout _ => exact quietly rfl (by rw [kill_eq]; rfl)
  | dispose => exact quietly rfl (by rw [cleanupPlugin_eq]; rfl)
  | _ => exact quietly rfl rfl

theorem RequestOutcome.fetches_iff {c : NMConnection} {r : Except GError Unit} :
    RequestOutcome cfg env c (quiet s) s' r →
      ((∃ a, .fetchStarted a ∈ s'.effects) ↔ opensFetch cfg env c s.disk = true) := by
  have begins : ∀ {a}, .fetchStarted a ∉ (begun cfg c (quiet s)).effects := by
    intro a he
    obtain ⟨_, _, _, heq⟩ := mem_begun_effects he
    cases heq
  intro ho
  cases ho with
  | rejected hv =>
      refine iff_of_false (fun ⟨_, ha⟩ => nomatch ha) fun ho => ?_
      cases hv.symm.trans (opensFetch_valid ho).1
  | stopped _ _ hno =>
      refine iff_of_false (fun ⟨_, ha⟩ => begins ha) ?_
      rw [show opensFetch cfg env c s.disk = false from hno]
      exact Bool.false_ne_true
  | fetching _ _ ho => exact iff_of_true ⟨_, List.mem_cons_self⟩ ho
  | ran _ hvalid hr =>
      refine iff_of_false (fun ⟨_, ha⟩ => ?_) fun ho => ?_
      · rcases hr.effects ha with ha | hrun
        · exact begins ha
        · cases hrun
      · exact absurd ((opensFetch_valid ho).2.symm.trans hvalid) Bool.false_ne_true

/-! ## Over whole runs -/

/-- The last store that has gone through for the connection was of its own parameters, has
not been marked since, and is not too old. -/
def HeldFresh (cfg : Config) (ops : List Cache.Op) (c : NMConnection) (now : Int) : Prop :=
  ∃ args after, Cache.LastStore c.uuid ops args after ∧
    paramsHash cfg.sha256 args.params = paramsHash cfg.sha256 (getGeneratorParams c.sVpn) ∧
    .markStale c.uuid ∉ after ∧ 0 < args.now ∧ now - args.now ≤ cacheMaxAgeSeconds

theorem hasFresh_replay_iff {ops : List Cache.Op} {c : NMConnection} {now : Int} :
    (Cache.replay cfg.sha256 ops).HasFresh c.uuid
      (paramsHash cfg.sha256 (getGeneratorParams c.sVpn)) now ↔ HeldFresh cfg ops c now := by
  unfold Cache.CacheMap.HasFresh HeldFresh
  simp only [Cache.replay_eq_some, ← Cache.marked_iff, Bool.not_eq_true]
  constructor
  · rintro ⟨_, ⟨args, after, hlast, rfl⟩, hfresh⟩
    exact ⟨args, after, hlast, hfresh⟩
  · rintro ⟨args, after, hlast, hfresh⟩
    exact ⟨_, ⟨args, after, hlast, rfl⟩, hfresh⟩

/-- A request that gets as far as the cache, and could go on to the generator. -/
structure Fetchable (cfg : Config) (env : Env) (c : NMConnection) : Prop where
  accepted : validateConnection c = .ok ()
  directory : env.io.mkdirWithParents cfg.statedir = none
  key : (nonEmpty (c.sVpn.getSecret keyApiKey)).isSome = true

theorem opensFetch_iff {c : NMConnection} {disk : Disk} :
    opensFetch cfg env c disk = true ↔ Fetchable cfg env c ∧
      ¬ nmAirvpnCacheIsValid cfg.sha256 cfg.statedir c.uuid (getGeneratorParams c.sVpn) env.now
        disk = true := by
  constructor
  · intro ho
    obtain ⟨hv, hvalid⟩ := opensFetch_valid ho
    simp only [opensFetch, Bool.and_eq_true, Option.isNone_iff_eq_none] at ho
    exact ⟨⟨hv, ho.1.1.2, ho.2⟩, Bool.eq_false_iff.mp hvalid⟩
  · rintro ⟨⟨hv, hdirectory, hkey⟩, hvalid⟩
    simp [opensFetch, hv, hdirectory, hkey, hvalid, Except.isOk, Except.toBool]

theorem catalogued_run {left : Leftover} {known : List Cache.Op}
    (hleft : Catalogued cfg left.disk (Cache.replay cfg.sha256 known)) (events : List Event) :
    Catalogued cfg (final (step cfg) (boot cfg left) events).disk
      (Cache.replay cfg.sha256 (known ++ opsOf cfg (runs cfg left events))) := by
  refine final_induction
    (P := fun s ts => Catalogued cfg s.disk (Cache.replay cfg.sha256 (known ++ opsOf cfg ts)))
    ?_ (fun ts t h hs => ?_) events
  · rw [boot_eq, opsOf, List.flatMap_nil, List.append_nil]
    exact hleft
  · have hnew := h.wrote (wrote_step hs)
    unfold Cache.replay at hnew ⊢
    rw [opsOf, List.flatMap_append, List.flatMap_singleton, ← List.append_assoc,
      List.foldl_append]
    exact hnew

/-- Whatever fails in the runs so far, a request is passed on to the generator exactly if
they have left no fresh profile for it; and the next instance finds what they have left. -/
theorem asks_when_needed (cfg : Config) (left : Leftover) (known : List Cache.Op)
    (hleft : Catalogued cfg left.disk (Cache.replay cfg.sha256 known)) (events : List Event) :
    let s := final (step cfg) (boot cfg left) events
    let ops := known ++ opsOf cfg (runs cfg left events)
    Catalogued cfg s.disk (Cache.replay cfg.sha256 ops) ∧
      ∀ e c env s', e.request = some (c, env) → step cfg s e = some s' →
        ((∃ a, .fetchStarted a ∈ s'.effects) ↔
          Fetchable cfg env c ∧ ¬ HeldFresh cfg ops c env.now) := by
  intro s ops
  have hs := catalogued_run hleft events
  refine ⟨hs, fun e c env s' he hstep => ?_⟩
  obtain ⟨r, interactive, ho, -, rfl⟩ := step_request hstep he
  have hfetches := ho.fetches_iff
  rw [opensFetch_iff, hs.valid_iff, hasFresh_replay_iff] at hfetches
  simpa using hfetches

theorem asks_when_needed_sample :
    (step (sampleConfig true) (sampleState sampleStart)
        (.connect sampleConnection (sampleEnv (.ok 701)))).isSome = true ∧
      ∀ s', step (sampleConfig true) (sampleState sampleStart)
        (.connect sampleConnection (sampleEnv (.ok 701))) = some s' →
          ∀ a, .fetchStarted a ∉ s'.effects := by
  have hops : opsOf (sampleConfig true)
      (runs (sampleConfig true) (sampleLeftover none) sampleStart) =
        [.store sampleUuid
          ⟨getGeneratorParams sampleConnection.sVpn, sampleProfile, 1750000000⟩] := by
    rfl
  obtain ⟨-, hasks⟩ := asks_when_needed (sampleConfig true) (sampleLeftover none) []
    (Catalogued.empty _) sampleStart
  refine ⟨by decide +kernel, fun s' hs a ha => ?_⟩
  refine ((hasks _ _ _ _ rfl hs).mp ⟨a, ha⟩).2 ?_
  rw [hops]
  exact ⟨_, [], ⟨⟨[], rfl⟩, ⟨_, rfl⟩, nofun⟩, rfl, nofun, by decide, by decide⟩

end AirVpn.Service
