import AirVpn.Lib.Simulation
import AirVpn.Service.Stale

/-! # Whose files are touched

One state directory serves all connections. The files of a connection change only while it
is the current one: a stale mark, or a profile that has been fetched for it. Over whole
runs a connection that is never requested keeps its files as they are, and one whose
profile is never fetched again keeps its profile.
-/

namespace AirVpn.Service

open Daemon Machine

variable {cfg : Config} {env : Env} {s s' : Daemon} {u : Uuid}

/-! ## One step -/

inductive CacheStep (cfg : Config) (s : Daemon) (e : Event) (s' : Daemon) : Prop where
  | same : s'.disk = s.disk → CacheStep cfg s e s'
  | marked (io : FileOps) {u : Uuid} : s.priv.uuid = some u →
      s'.disk = nmAirvpnCacheMarkStale cfg.statedir io u s.disk → CacheStep cfg s e s'
  | stored (env : Env) {a : Nat} {u : Uuid} (params : NMAirvpnGeneratorParams) {config : String} :
      s.priv.uuid = some u → e = .fetchDone a (.profile config) env →
      s'.disk = (nmAirvpnCacheStore cfg.sha256 cfg.statedir env.io u params config env.now
        s.disk).1 → CacheStep cfg s e s'

theorem RunOutcome.uuid {r : Except GError Unit} (hr : RunOutcome cfg env s s' r) :
    s'.priv.uuid = s.priv.uuid := by
  cases hr <;> rfl

theorem RequestOutcome.uuid {c : NMConnection} {r : Except GError Unit}
    (ho : RequestOutcome cfg env c s s' r) :
    s'.priv.uuid = s.priv.uuid ∨ s'.priv.uuid = some c.uuid := by
  have hbegun : (begun cfg c s).priv.uuid = some c.uuid := by rw [begun_eq]
  cases ho with
  | rejected _ => exact .inl rfl
  | stopped _ _ _ => exact .inr hbegun
  | fetching _ _ _ => exact .inr hbegun
  | ran _ _ hr => exact .inr (hr.uuid.trans hbegun)

theorem cacheStep_marked (env : Env) (uuid : Option Uuid) (h : uuid = none ∨ uuid = s.priv.uuid)
    (hdisk : s'.disk = markedDisk cfg env uuid s.disk) (e : Event) : CacheStep cfg s e s' := by
  cases uuid with
  | none => exact .same hdisk
  | some u =>
      have hu : some u = s.priv.uuid := h.resolve_left nofun
      exact .marked env.io hu.symm hdisk

theorem cacheStep_disconnect (cfg : Config) (env : Env) (s t : Daemon)
    (hdisk : t.disk = s.disk) (huuid : t.priv.uuid = s.priv.uuid) (e : Event) :
    CacheStep cfg s e (nmVpnServicePluginDisconnect cfg env t) := by
  cases ht : svcActive t with
  | false => exact .same (by rw [disconnect_inactive ht, hdisk])
  | true =>
      refine cacheStep_marked env (disconnectMark t.priv) ?_ ?_ e
      · unfold disconnectMark
        split
        · exact .inr huuid
        · exact .inl rfl
      · rw [disconnect_active ht, hdisk]

theorem cache_step {e : Event} (hs : step cfg s e = some s') : CacheStep cfg s e s' := by
  cases step_cases hs with
  | request _ _ _ ho _ => exact .same ho.disk
  | disconnect env => exact cacheStep_disconnect cfg env s (quiet s) rfl rfl _
  | stateChange state =>
      apply CacheStep.same
      rw [setState_eq]
      rfl
  | @fetchDone a result env f _ _ _ _ ho =>
      cases ho with
      | notStored _ _ hu hresult => exact .stored env _ hu (by rw [hresult]) rfl
      | @stored c _ _ _ _ _ hu hresult _ hr =>
          refine .stored env (getGeneratorParams c.sVpn) hu (by rw [hresult]) ?_
          rw [afterRun_eq, hr.disk]
          rfl
      | fallback _ _ _ _ hr =>
          apply CacheStep.same
          rw [afterRun_eq, hr.disk]
          rfl
      | _ => exact .same rfl
  | @childWatch p status env _ _ =>
      rw [watch_eq]
      split
      · split
        · exact .same rfl
        · exact cacheStep_marked env s.priv.uuid (.inr rfl) rfl _
      · exact cacheStep_disconnect cfg env s
          (released env ((quiet s).setProc p.attempt .notified)) rfl rfl _
  | @connectTimeout timer env _ =>
      rw [timeout_eq]
      split
      · exact .same rfl
      · exact cacheStep_marked env s.priv.uuid (.inr rfl) rfl _
  | killTimeout _ => exact .same (by rw [kill_eq]; rfl)
  | dispose => exact .same (by rw [cleanupPlugin_eq]; rfl)
  | _ => exact .same rfl

/-- The current connection is the one before, the one that is requested, or none. -/
theorem uuid_step {e : Event} (hs : step cfg s e = some s') :
    s'.priv.uuid = s.priv.uuid ∨ s'.priv.uuid = none ∨
      ∃ c env, e.request = some (c, env) ∧ s'.priv.uuid = some c.uuid := by
  have hdisconnect : ∀ env t, (nmVpnServicePluginDisconnect cfg env t).priv.uuid = t.priv.uuid ∨
      (nmVpnServicePluginDisconnect cfg env t).priv.uuid = none := by
    intro env t
    cases ht : svcActive t with
    | false => exact .inl (by rw [disconnect_inactive ht])
    | true => exact .inr (by rw [disconnect_active ht]; rfl)
  cases step_cases hs with
  | @request _ c env r _ he _ ho _ =>
      rcases ho.uuid with hsame | hnew
      · exact .inl hsame
      · exact .inr (.inr ⟨c, env, he, hnew⟩)
  | disconnect env => exact (hdisconnect env (quiet s)).imp_right .inl
  | stateChange state => exact .inl (setState_priv state (quiet s)).2.1
  | fetchDone _ _ _ _ ho =>
      refine .inl ?_
      cases ho with
      | stored _ _ _ _ _ hr =>
          rw [afterRun_eq]
          exact hr.uuid
      | fallback _ _ _ _ hr =>
          rw [afterRun_eq]
          exact hr.uuid
      | _ => rfl
  | @childWatch p status env _ _ =>
      rw [watch_eq]
      split
      · split <;> exact .inl rfl
      · exact (hdisconnect env _).imp_right .inl
  | connectTimeout env _ =>
      rw [timeout_eq]
      split <;> exact .inl rfl
  | killTimeout _ => exact .inl (by rw [kill_eq]; rfl)
  | dispose => exact .inr (.inl (by rw [cleanupPlugin_eq]; rfl))
  | _ => exact .inl rfl

/-! ## The files of one connection -/

def cachedFiles (cfg : Config) (u : Uuid) (disk : Disk) : Option File × Option File :=
  (disk (nmAirvpnCacheGetConfigPath cfg.statedir u), disk (metaPath cfg.statedir u))

/-- The profile is the same, and the metadata up to a stale mark. -/
def Faded (cfg : Config) (u : Uuid) (disk disk' : Disk) : Prop :=
  disk' (nmAirvpnCacheGetConfigPath cfg.statedir u) =
      disk (nmAirvpnCacheGetConfigPath cfg.statedir u) ∧
    (loadMeta cfg.statedir u disk' = loadMeta cfg.statedir u disk ∨
      loadMeta cfg.statedir u disk' =
        (loadMeta cfg.statedir u disk).map fun m => { m with stale := true })

theorem Faded.refl (cfg : Config) (u : Uuid) (disk : Disk) : Faded cfg u disk disk :=
  ⟨rfl, .inl rfl⟩

theorem Faded.trans {first second third : Disk} (h : Faded cfg u first second)
    (h' : Faded cfg u second third) : Faded cfg u first third := by
  refine ⟨h'.1.trans h.1, ?_⟩
  rcases h'.2 with hsame | hmarked
  · rw [hsame]
    exact h.2
  · rw [hmarked]
    rcases h.2 with hsame | hmarked
    · exact .inr (by rw [hsame])
    · refine .inr ?_
      rw [hmarked, Option.map_map]
      rfl

theorem faded_of_files {disk disk' : Disk}
    (h : cachedFiles cfg u disk' = cachedFiles cfg u disk) : Faded cfg u disk disk' := by
  obtain ⟨hconfig, hmeta⟩ := Prod.mk.inj h
  refine ⟨hconfig, .inl ?_⟩
  unfold loadMeta
  rw [hmeta]

theorem CacheStep.untouched {e : Event} (h : CacheStep cfg s e s')
    (hu : s.priv.uuid ≠ some u) : cachedFiles cfg u s'.disk = cachedFiles cfg u s.disk := by
  have other : ∀ {v : Uuid}, s.priv.uuid = some v →
      nmAirvpnCacheGetConfigPath cfg.statedir u ≠ nmAirvpnCacheGetConfigPath cfg.statedir v ∧
        metaPath cfg.statedir u ≠ metaPath cfg.statedir v := by
    intro v hv
    have hne : u ≠ v := fun heq => hu (heq ▸ hv)
    exact ⟨fun heq => hne (configPath_inj heq), fun heq => hne (metaPath_inj heq)⟩
  unfold cachedFiles
  cases h with
  | same hdisk => rw [hdisk]
  | @marked io v hv hdisk =>
      rw [hdisk, markStale_of_ne (metaPath_ne_configPath cfg.statedir v u).symm,
        markStale_of_ne (other hv).2]
  | @stored env a v params config hv _ hdisk =>
      obtain ⟨hconfig, hmeta⟩ := other hv
      have hconfigMeta := metaPath_ne_configPath cfg.statedir u v
      have hmetaConfig := (metaPath_ne_configPath cfg.statedir v u).symm
      rw [hdisk]
      rcases store_cases cfg.sha256 cfg.statedir env.io v params config env.now s.disk with
        ⟨_, hst, _⟩ | ⟨_, hst, _⟩ | ⟨_, hst⟩
      · rw [hst]
      · rw [hst, Disk.write_of_ne hconfig, Disk.write_of_ne hconfigMeta]
      · rw [hst, Disk.write_of_ne hmetaConfig, Disk.write_of_ne hconfig, Disk.write_of_ne hmeta,
          Disk.write_of_ne hconfigMeta]

theorem CacheStep.faded {e : Event} (h : CacheStep cfg s e s')
    (hno : ∀ a config env, e = .fetchDone a (.profile config) env → s.priv.uuid ≠ some u) :
    Faded cfg u s.disk s'.disk := by
  by_cases hu : s.priv.uuid = some u
  · cases h with
    | same hdisk =>
        rw [hdisk]
        exact Faded.refl cfg u s.disk
    | @marked io v hv hdisk =>
        obtain rfl : v = u := Option.some.inj (hv.symm.trans hu)
        rw [hdisk]
        rcases markStale_cases cfg.statedir io v s.disk with hst | ⟨m, hm, hst⟩
        · rw [hst]
          exact Faded.refl cfg v s.disk
        · rw [hst]
          refine ⟨Disk.write_of_ne (metaPath_ne_configPath cfg.statedir v v).symm _ _, .inr ?_⟩
          rw [loadMeta_write_same, hm]
          rfl
    | stored env params _ he _ => exact absurd hu (hno _ _ env he)
  · exact faded_of_files (h.untouched hu)

/-! ## Over whole runs -/

def Unrequested (u : Uuid) (t : Transition Daemon Event) : Prop :=
  ∀ c env, t.event.request = some (c, env) → c.uuid ≠ u

def Unfetched (u : Uuid) (t : Transition Daemon Event) : Prop :=
  ∀ a config env, t.event = .fetchDone a (.profile config) env → t.before.priv.uuid ≠ some u

/-- In every run a connection that is never requested keeps its files, and one that no
profile is fetched for keeps its profile, with at most a stale mark. -/
theorem files_isolated (cfg : Config) (left : Leftover) (events : List Event) (u : Uuid) :
    let last := final (step cfg) (boot cfg left) events
    (Always (Unrequested u) (runs cfg left events) →
      cachedFiles cfg u last.disk = cachedFiles cfg u left.disk) ∧
    (Always (Unfetched u) (runs cfg left events) → Faded cfg u left.disk last.disk) := by
  intro last
  have hdisk : (boot cfg left).disk = left.disk := by rw [boot_eq]
  have huuid : (boot cfg left).priv.uuid ≠ some u := by
    rw [boot_eq]
    nofun
  have h : (Always (Unrequested u) (runs cfg left events) → last.priv.uuid ≠ some u ∧
        cachedFiles cfg u last.disk = cachedFiles cfg u left.disk) ∧
      (Always (Unfetched u) (runs cfg left events) → Faded cfg u left.disk last.disk) := by
    refine final_induction
      (P := fun s ts =>
        (Always (Unrequested u) ts → s.priv.uuid ≠ some u ∧
          cachedFiles cfg u s.disk = cachedFiles cfg u left.disk) ∧
        (Always (Unfetched u) ts → Faded cfg u left.disk s.disk))
      ⟨fun _ => ⟨huuid, by rw [hdisk]⟩, fun _ => hdisk ▸ Faded.refl cfg u left.disk⟩
      (fun ts t h hs => ?_) events
    have hcache := cache_step hs
    refine ⟨fun hall => ?_, fun hall => ?_⟩
    · obtain ⟨hbefore, hlast⟩ := Always.append.mp hall
      have hunrequested := Always.singleton.mp hlast
      obtain ⟨hu, hsame⟩ := h.1 hbefore
      refine ⟨fun hnew => ?_, (hcache.untouched hu).trans hsame⟩
      rcases uuid_step hs with heq | heq | ⟨c, env, he, heq⟩
      · exact hu (heq ▸ hnew)
      · exact absurd (heq.symm.trans hnew) nofun
      · exact hunrequested c env he (Option.some.inj (heq.symm.trans hnew))
    · obtain ⟨hbefore, hlast⟩ := Always.append.mp hall
      exact (h.2 hbefore).trans (hcache.faded (Always.singleton.mp hlast))
  exact ⟨fun hall => (h.1 hall).2, h.2⟩

end AirVpn.Service
