import AirVpn.Service.Children

/-! # Stale marks over whole runs

The profile of an attempt that ends before the tunnel is up has to be marked, and
nothing else. Three handlers set the mark, each under its own guard on the
plugin's fields; the child exits are where the guards fall short, and the run
theorem asks of them what it needs. Whether a process has ended by itself, and
whether its attempt was over by then, is a matter of the steps before.
-/

namespace AirVpn.Service

open Daemon Machine

variable {cfg : Config} {env : Env} {s s' : Daemon}

/-! ## The state directory -/

/-- What a step does to the state directory: nothing, a stale mark for the current
connection, or a store. -/
inductive DiskStep (cfg : Config) (disk : Disk) (s' : Daemon) : Prop where
  | same : s'.disk = disk → DiskStep cfg disk s'
  | marked (env : Env) (uuid : Option Uuid) :
      s'.disk = markedDisk cfg env uuid disk → (∀ u ∈ uuid, .markedStale u ∈ s'.effects) →
      DiskStep cfg disk s'
  | stored (io : FileOps) (uuid : Uuid) (params : NMAirvpnGeneratorParams) (config : String)
      (now : Int) :
      s'.disk = (nmAirvpnCacheStore cfg.sha256 cfg.statedir io uuid params config now disk).1 →
      .stored uuid params config ∈ s'.effects → DiskStep cfg disk s'

theorem RunOutcome.disk {r : Except GError Unit} (h : RunOutcome cfg env s s' r) :
    s'.disk = s.disk := by
  cases h <;> rfl

theorem RequestOutcome.disk {c : NMConnection} {r : Except GError Unit}
    (h : RequestOutcome cfg env c s s' r) : s'.disk = s.disk := by
  have hb : (begun cfg c s).disk = s.disk := by rw [begun_eq]
  cases h with
  | rejected _ => rfl
  | stopped _ _ _ => exact hb
  | fetching _ _ _ => exact hb
  | ran _ _ hr => rw [hr.disk, hb]

theorem diskStep_disconnect (cfg : Config) (env : Env) (s : Daemon) :
    DiskStep cfg s.disk (nmVpnServicePluginDisconnect cfg env s) := by
  cases hs : svcActive s with
  | false => exact .same (by rw [disconnect_inactive hs])
  | true =>
      rw [disconnect_active hs]
      refine .marked env (disconnectMark s.priv) rfl fun u hu => ?_
      exact List.mem_cons_of_mem _ (List.mem_append_right _
        (List.mem_append_left _ (mem_markEffects.mpr ⟨u, hu, rfl⟩)))

theorem disk_step {e : Event} (hs : step cfg s e = some s') : DiskStep cfg s.disk s' := by
  cases step_cases hs with
  | request _ _ _ ho _ => exact .same (ho.disk (s := quiet s))
  | disconnect env => exact diskStep_disconnect cfg env (quiet s)
  | stateChange state =>
      apply DiskStep.same
      rw [setState_eq]
      rfl
  | @fetchDone a result env f _ _ _ _ ho =>
      cases ho with
      | cancelled _ => exact .same rfl
      | abandoned _ _ => exact .same rfl
      | notStored _ _ _ _ => exact .stored env.io _ _ _ env.now rfl (by simp)
      | stored _ _ _ _ _ hr =>
          refine .stored env.io _ _ _ env.now ?_
            (mem_afterRun.mpr (.inl (hr.keeps List.mem_cons_self)))
          rw [afterRun_eq, hr.disk]
          rfl
      | noProfile _ _ _ => exact .same rfl
      | fallback _ _ _ _ hr =>
          apply DiskStep.same
          rw [afterRun_eq, hr.disk]
          rfl
  | @childWatch p status env _ _ =>
      rw [watch_eq]
      split
      · split
        · exact .same rfl
        · exact .marked env s.priv.uuid rfl fun u hu =>
            List.mem_cons_of_mem _ (List.mem_append_left _ (mem_markEffects.mpr ⟨u, hu, rfl⟩))
      · exact diskStep_disconnect cfg env (released env ((quiet s).setProc p.attempt .notified))
  | @connectTimeout timer env _ =>
      rw [timeout_eq]
      split
      · exact .same rfl
      · exact .marked env s.priv.uuid rfl fun u hu =>
          List.mem_cons_of_mem _ (List.mem_append_left _ (mem_markEffects.mpr ⟨u, hu, rfl⟩))
  | killTimeout _ => exact .same (by rw [kill_eq]; rfl)
  | dispose => exact .same (by rw [cleanupPlugin_eq]; rfl)
  | _ => exact .same rfl

/-! ## The mark -/

def StaleMarked (cfg : Config) (uuid : Uuid) (disk : Disk) : Prop :=
  ∃ m, loadMeta cfg.statedir uuid disk = some m ∧ m.stale = true

theorem StaleMarked.not_valid {uuid : Uuid} {disk : Disk} (h : StaleMarked cfg uuid disk)
    (params : NMAirvpnGeneratorParams) (now : Int) :
    nmAirvpnCacheIsValid cfg.sha256 cfg.statedir uuid params now disk = false := by
  obtain ⟨m, hm, hstale⟩ := h
  unfold nmAirvpnCacheIsValid checkCache
  simp [hm, hstale]

theorem staleMarked_markedDisk {uuid : Uuid} {disk : Disk}
    (hmeta : (loadMeta cfg.statedir uuid disk).isSome = true)
    (hio : ∀ path, env.io.setContents path = none) :
    StaleMarked cfg uuid (markedDisk cfg env (some uuid) disk) := by
  obtain ⟨m, hm⟩ := Option.isSome_iff_exists.mp hmeta
  have heq : markedDisk cfg env (some uuid) disk =
      disk.write (metaPath cfg.statedir uuid) (.keyFile { m with stale := true }) := by
    unfold markedDisk nmAirvpnCacheMarkStale writeFile0600
    simp only [hm, hio]
  exact ⟨{ m with stale := true }, by rw [heq, loadMeta_write_same], rfl⟩

theorem markedDisk_cases (cfg : Config) (env : Env) (uuid : Option Uuid) (disk : Disk) :
    markedDisk cfg env uuid disk = disk ∨
      ∃ v m, loadMeta cfg.statedir v disk = some m ∧
        markedDisk cfg env uuid disk =
          disk.write (metaPath cfg.statedir v) (.keyFile { m with stale := true }) := by
  cases uuid with
  | none => exact .inl rfl
  | some v =>
      rcases markStale_cases cfg.statedir env.io v disk with heq | ⟨m, hm, heq⟩
      · exact .inl heq
      · exact .inr ⟨v, m, hm, heq⟩

theorem StaleMarked.markedDisk {uuid : Uuid} {disk : Disk} (h : StaleMarked cfg uuid disk)
    (env : Env) (v : Option Uuid) : StaleMarked cfg uuid (markedDisk cfg env v disk) := by
  rcases markedDisk_cases cfg env v disk with heq | ⟨v, m, _, heq⟩
  · rwa [heq]
  · rw [heq]
    by_cases huv : uuid = v
    · subst huv
      exact ⟨{ m with stale := true }, loadMeta_write_same uuid _, rfl⟩
    · unfold StaleMarked
      rw [loadMeta_write_of_ne huv]
      exact h

/-- A mark stays until a fresh profile is stored for the connection. -/
theorem DiskStep.kept {uuid : Uuid} (hd : DiskStep cfg s.disk s') (h : StaleMarked cfg uuid s.disk)
    (hno : ∀ params config, .stored uuid params config ∉ s'.effects) :
    StaleMarked cfg uuid s'.disk := by
  cases hd with
  | same heq => rwa [heq]
  | marked env v heq _ =>
      rw [heq]
      exact h.markedDisk env v
  | stored io v params config now heq he =>
      have hne : uuid ≠ v := fun huv => hno params config (huv ▸ he)
      unfold StaleMarked at h ⊢
      rw [heq]
      rcases store_cases cfg.sha256 cfg.statedir io v params config now s.disk with
        ⟨_, hst, _⟩ | ⟨_, hst, _⟩ | ⟨_, hst⟩
      · rwa [hst]
      · rwa [hst, loadMeta_write_config]
      · rwa [hst, loadMeta_write_of_ne hne, loadMeta_write_config]

theorem staleMarked_of_markedDisk {uuid : Uuid} {v : Option Uuid} {disk : Disk}
    (h : StaleMarked cfg uuid (AirVpn.Service.markedDisk cfg env v disk)) :
    StaleMarked cfg uuid disk ∨ v = some uuid := by
  cases v with
  | none => exact .inl h
  | some v =>
      by_cases huv : uuid = v
      · exact .inr (congrArg some huv.symm)
      · rcases markStale_cases cfg.statedir env.io v disk with heq | ⟨m, _, heq⟩
        · exact .inl (heq ▸ h)
        · have hdisk : AirVpn.Service.markedDisk cfg env (some v) disk = _ := heq
          unfold StaleMarked at h ⊢
          rw [hdisk, loadMeta_write_of_ne huv] at h
          exact .inl h

/-- A connection that a step has marked is the one that the step reports. -/
theorem DiskStep.newly_marked {uuid : Uuid} (hd : DiskStep cfg s.disk s')
    (h : StaleMarked cfg uuid s'.disk) (hno : ¬ StaleMarked cfg uuid s.disk) :
    .markedStale uuid ∈ s'.effects := by
  cases hd with
  | same heq => exact absurd (heq ▸ h) hno
  | marked env v heq he =>
      rw [heq] at h
      exact he uuid ((staleMarked_of_markedDisk h).resolve_left hno)
  | stored io v params config now heq _ =>
      exfalso
      rw [heq] at h
      rcases store_cases cfg.sha256 cfg.statedir io v params config now s.disk with
        ⟨_, hst, _⟩ | ⟨_, hst, _⟩ | ⟨_, hst⟩
      · exact hno (hst ▸ h)
      · unfold StaleMarked at h hno
        rw [hst, loadMeta_write_config] at h
        exact hno h
      · unfold StaleMarked at h hno
        rw [hst] at h
        by_cases huv : uuid = v
        · obtain ⟨m, hm, hstale⟩ := h
          rw [huv, loadMeta_write_same] at hm
          cases hm
          cases hstale
        · rw [loadMeta_write_of_ne huv, loadMeta_write_config] at h
          exact hno h

theorem DiskStep.keeps_meta {uuid : Uuid} (hd : DiskStep cfg s.disk s')
    (h : (loadMeta cfg.statedir uuid s.disk).isSome = true) :
    (loadMeta cfg.statedir uuid s'.disk).isSome = true := by
  have write : ∀ {disk : Disk} {v : Uuid} {m : CacheMeta},
      (loadMeta cfg.statedir uuid disk).isSome = true →
      (loadMeta cfg.statedir uuid (disk.write (metaPath cfg.statedir v) (.keyFile m))).isSome =
        true := by
    intro disk v m hm
    by_cases huv : uuid = v
    · subst huv
      rw [loadMeta_write_same]
      rfl
    · rwa [loadMeta_write_of_ne huv]
  cases hd with
  | same heq => rwa [heq]
  | marked env v heq _ =>
      rw [heq]
      rcases markedDisk_cases cfg env v s.disk with hst | ⟨v, m, _, hst⟩
      · rwa [hst]
      · rw [hst]
        exact write h
  | stored io v params config now heq _ =>
      rw [heq]
      rcases store_cases cfg.sha256 cfg.statedir io v params config now s.disk with
        ⟨_, hst, _⟩ | ⟨_, hst, _⟩ | ⟨_, hst⟩
      · rwa [hst]
      · rwa [hst, loadMeta_write_config]
      · rw [hst]
        exact write (by rwa [loadMeta_write_config])

/-! ## Where the processes of a state come from -/

/-- A process that the step has started: it is the current attempt's, the connect
timer runs for it, and there are metadata of its profile. -/
structure Started (cfg : Config) (s : Daemon) (p : Proc) : Prop where
  attempt : p.attempt = s.attempt
  timer : s.priv.connectTimer = s.attempt
  uuid : p.uuid = s.priv.uuid
  hasMeta : ∀ u, p.uuid = some u → (loadMeta cfg.statedir u s.disk).isSome = true

/-- A process was there before, and pending if it still is, or has been started. -/
def ProcStep (cfg : Config) (s s' : Daemon) (p' : Proc) : Prop :=
  (∃ p ∈ s.procs, Later p p' ∧ (p'.state ≠ .notified → p.state ≠ .notified)) ∨ Started cfg s' p'

theorem ProcStep.of_mem {p' : Proc} (h : p' ∈ s.procs) : ProcStep cfg s s' p' :=
  .inl ⟨p', h, .refl p', id⟩

theorem ProcStep.of_cleaned {p' : Proc} (h : p' ∈ cleanedProcs s) : ProcStep cfg s s' p' := by
  obtain ⟨p, hp, hl, hstate⟩ := later_of_cleanedProcs h
  exact .inl ⟨p, hp, hl, fun hne => hstate ▸ hne⟩

theorem ProcStep.of_signalled {p' : Proc} {pid : Nat} {signal : Signal}
    (h : p' ∈ signalProcs pid signal s.procs) : ProcStep cfg s s' p' := by
  obtain ⟨p, hp, hl, hstate⟩ := later_of_signalProcs h
  exact .inl ⟨p, hp, hl, fun hne => hstate ▸ hne⟩

theorem ProcStep.of_setProc {p' d : Proc} {state : ProcState} (hc : Coherent s) (hd : d ∈ s.procs)
    (hstate : d.state ≠ .notified)
    (h : p' ∈ setProcState (fun p => p.attempt = d.attempt) state s.procs) :
    ProcStep cfg s s' p' := by
  by_cases hn : p'.state = .notified
  · obtain ⟨p, hp, hl⟩ := later_of_setProcState h
    exact .inl ⟨p, hp, hl, fun hne => absurd hn hne⟩
  · obtain ⟨p, hp, hl, hne⟩ := pending_of_setProcState (fun p hp hw => by
      rw [hc.proc_unique hp hd (by simpa using hw)]
      exact hstate) h hn
    exact .inl ⟨p, hp, hl, fun _ => hne⟩

theorem RunOutcome.procs {r : Except GError Unit} {u : Uuid} (hr : RunOutcome cfg env s s' r)
    (hu : s.priv.uuid = some u) (hm : (loadMeta cfg.statedir u s.disk).isSome = true) {p' : Proc}
    (hp : p' ∈ s'.procs) : p' ∈ s.procs ∨ Started cfg s' p' := by
  cases hr with
  | noBinary _ => exact .inl hp
  | notArmed _ _ => exact .inl hp
  | notSpawned _ _ => exact .inl hp
  | spawned _ _ _ =>
      rcases List.mem_cons.mp hp with rfl | hp
      · refine .inr ⟨rfl, rfl, rfl, fun v hv => ?_⟩
        cases hu.symm.trans hv
        exact hm
      · exact .inl hp

theorem Started.afterRun {r : Daemon × Except GError Unit} {p : Proc} (h : Started cfg r.1 p) :
    Started cfg (afterRun r) p := by
  rw [afterRun_eq]
  exact ⟨h.attempt, h.timer, h.uuid, h.hasMeta⟩

theorem meta_of_exists {u : Uuid} {params : NMAirvpnGeneratorParams} {disk : Disk}
    (h : nmAirvpnCacheExists cfg.sha256 cfg.statedir u params disk = true) :
    (loadMeta cfg.statedir u disk).isSome = true := by
  obtain ⟨_, m, hm, _⟩ := exists_iff.mp h
  rw [hm]
  rfl

theorem RequestOutcome.procs {c : NMConnection} {r : Except GError Unit}
    (ho : RequestOutcome cfg env c s s' r) {p' : Proc} (hp : p' ∈ s'.procs) :
    p' ∈ s.procs ∨ p' ∈ cleanedProcs s ∨ Started cfg s' p' := by
  have hb : p' ∈ (begun cfg c s).procs → p' ∈ cleanedProcs s := fun hm => by
    rwa [begun_eq] at hm
  cases ho with
  | rejected _ => exact .inl hp
  | stopped _ _ _ => exact .inr (.inl (hb hp))
  | fetching _ _ _ => exact .inr (.inl (hb hp))
  | ran _ hvalid hr =>
      have hm := meta_of_exists (exists_of_valid hvalid)
      exact .inr ((hr.procs (u := c.uuid) (by rw [begun_eq]) (by rwa [begun_eq]) hp).imp_left hb)

theorem FetchOutcome.procs {f : Fetch} {result : FetchResult}
    (ho : FetchOutcome cfg env f result s s') {p' : Proc} (hp : p' ∈ s'.procs) :
    p' ∈ s.procs ∨ Started cfg s' p' := by
  cases ho with
  | cancelled _ => exact .inl hp
  | abandoned _ _ => exact .inl hp
  | notStored _ _ _ _ => exact .inl hp
  | stored _ _ hu _ hst hr =>
      rw [afterRun_eq] at hp
      have hm := congrArg Option.isSome (files_of_store_ok hst).2
      exact (hr.procs hu hm hp).imp_right Started.afterRun
  | noProfile _ _ _ => exact .inl hp
  | fallback _ _ hu he hr =>
      rw [afterRun_eq] at hp
      exact (hr.procs hu (meta_of_exists he) hp).imp_right Started.afterRun

theorem procStep_disconnect {p' : Proc} (hp : p' ∈ (nmVpnServicePluginDisconnect cfg env s).procs)
    (t : Daemon) : ProcStep cfg s t p' := by
  cases hs : svcActive s with
  | false =>
      rw [disconnect_inactive hs] at hp
      exact .of_mem hp
  | true =>
      rw [disconnect_active hs] at hp
      exact .of_cleaned hp

theorem procs_step {e : Event} (hc : Coherent s) (hs : step cfg s e = some s') {p' : Proc}
    (hp : p' ∈ s'.procs) : ProcStep cfg s s' p' := by
  cases step_cases hs with
  | request _ _ _ ho _ =>
      rcases ho.procs hp with hp | hp | hst
      · exact .of_mem hp
      · exact .of_cleaned (s := quiet s) hp
      · exact .inr ⟨hst.attempt, hst.timer, hst.uuid, hst.hasMeta⟩
  | disconnect env => exact procStep_disconnect (s := quiet s) hp _
  | stateChange state =>
      rw [setState_eq] at hp
      exact .of_mem hp
  | fetchDone _ _ _ _ ho => exact (ho.procs hp).elim .of_mem .inr
  | childExits hd hstate => exact .of_setProc hc hd (by simp [hstate]) hp
  | childReaped hd hstate => exact .of_setProc hc hd (by simp [hstate]) hp
  | @childWatch d status env hd hstate =>
      rw [(watch_procs cfg env status _).2] at hp
      by_cases hn : p'.state = .notified
      · obtain ⟨q, hq, hl⟩ := later_of_setProcState hp
        obtain ⟨p, hm, hl'⟩ := later_of_setProcState hq
        exact .inl ⟨p, hm, hl'.trans hl, fun hne => absurd hn hne⟩
      · obtain ⟨q, hq, hl, hqn⟩ := pending_of_setProcState (fun p _ hw => by
          simp only [Bool.and_eq_true, decide_eq_true_eq] at hw
          simp [hw.1]) hp hn
        obtain ⟨p, hm, hl', hpn⟩ := pending_of_setProcState (fun p hm hw => by
          rw [hc.proc_unique hm hd (by simpa using hw), hstate]
          decide) hq hqn
        exact .inl ⟨p, hm, hl'.trans hl, fun _ => hpn⟩
  | connectTimeout env _ =>
      rw [timeout_eq] at hp
      split at hp
      · exact .of_mem hp
      · exact .of_cleaned (s := quiet s) hp
  | killTimeout _ =>
      rw [kill_eq] at hp
      exact .of_signalled (s := quiet s) hp
  | otherStarts _ => exact .of_mem hp
  | otherEnds _ => exact .of_mem hp
  | dispose =>
      rw [cleanupPlugin_eq] at hp
      exact .of_cleaned (s := quiet s) hp

def HasMeta (cfg : Config) (s : Daemon) : Prop :=
  ∀ p ∈ s.procs, ∀ u, p.uuid = some u → (loadMeta cfg.statedir u s.disk).isSome = true

theorem hasMeta_step {e : Event} (hc : Coherent s) (h : HasMeta cfg s)
    (hs : step cfg s e = some s') : HasMeta cfg s' := by
  intro p' hp' u hu
  rcases procs_step hc hs hp' with ⟨p, hp, hl, _⟩ | hst
  · exact (disk_step hs).keeps_meta (h p hp u (hl.uuid ▸ hu))
  · exact hst.hasMeta u hu

/-! ## Ends before the tunnel is up -/

instance (s : Daemon) (a : Nat) : Decidable (LetGo s a) := inferInstanceAs (Decidable (_ ∨ _))

/-- The process of the attempt dies without a signal from the plugin. -/
def diesAlone (a : Nat) (t : Transition Daemon Event) : Bool :=
  match t.event with
  | .childExits b => b = a && t.before.procs.all fun p => p.attempt ≠ a || p.signals.isEmpty
  | _ => false

/-- The attempt is the current one, its service has not reached STARTED, and before the
end of its process has been handled its connect timer fires or a disconnect is. -/
def closes (a : Nat) (t : Transition Daemon Event) : Bool :=
  a = t.before.attempt && t.before.priv.uuid.isSome && !t.before.reached.contains a &&
    (t.before.procs.any fun p => p.attempt = a && p.state ≠ .notified) &&
    match t.event with
    | .childWatch b _ _ => b ≠ a && t.after.effects.contains .disconnected
    | .connectTimeout _ _ => true
    | .disconnect _ => svcActive t.before
    | _ => false

/-- The step ends the attempt of the process before its service has reached STARTED: it
closes the attempt, or the process has died by itself and its exit is handled, whoever
is the current attempt by then, before anything else has closed its own. -/
def EndsEarly (past : List (Transition Daemon Event)) (t : Transition Daemon Event) (p : Proc) :
    Prop :=
  p ∈ t.before.procs ∧ p.state ≠ .notified ∧ p.attempt ∉ t.before.reached ∧
    (closes p.attempt t = true ∨
      (∃ status env, t.event = .childWatch p.attempt status env) ∧
        past.any (diesAlone p.attempt) = true ∧ past.any (closes p.attempt) = false)

def WritesSucceed : Event → Prop
  | .childWatch _ _ env | .connectTimeout _ env | .disconnect env =>
      ∀ path, env.io.setContents path = none
  | _ => True

def EndsCurrent (t : Transition Daemon Event) : Prop :=
  match t.event with
  | .childWatch a _ _ => a = t.before.attempt
  | .connectTimeout _ _ | .disconnect _ => True
  | _ => False

/-- The profile of an attempt that ends early is marked; only such an end marks
anything, on the disk or to no effect, and then the profile of its own connection; a
mark stays until a fresh profile is stored; and with a mark no request starts openvpn at
once. -/
structure StaleDiscipline (cfg : Config) (past : List (Transition Daemon Event))
    (t : Transition Daemon Event) : Prop where
  marked : ∀ p u, EndsEarly past t p → p.uuid = some u → WritesSucceed t.event →
    StaleMarked cfg u t.after.disk
  only_ended : ∀ u,
    .markedStale u ∈ t.after.effects ∨
      StaleMarked cfg u t.after.disk ∧ ¬ StaleMarked cfg u t.before.disk →
    EndsCurrent t ∧ t.before.priv.uuid = some u ∧ t.before.attempt ∉ t.before.reached
  kept : ∀ u, StaleMarked cfg u t.before.disk →
    (∀ params config, .stored u params config ∉ t.after.effects) → StaleMarked cfg u t.after.disk
  refetched : ∀ c env, t.event.request = some (c, env) → StaleMarked cfg c.uuid t.before.disk →
    ∀ a, .spawned a ∉ t.after.effects

/-- The handling of the exit can end no attempt before STARTED: its own has reached it, or
has been closed before, or the process had been signalled when it died. -/
def endsNothing (past : List (Transition Daemon Event)) (t : Transition Daemon Event) (a : Nat) :
    Bool :=
  t.before.reached.contains a || !past.any (diesAlone a) || past.any (closes a)

/-- An exit that the plugin does not take for the end of the current attempt: there is
none, or it has reached STARTED, or nothing is tracked and the status is a success. -/
def passesBy (s : Daemon) (status : WaitStatus) : Bool :=
  s.priv.uuid.isNone || s.reached.contains s.attempt || (s.priv.pid = 0 && !status.abnormal)

/-- What the discipline needs of the exits. One that arrives after the plugin has let go
of the process ends nothing and passes by. One of the current attempt ends nothing, or
is not a success. -/
def marksInTurn (past : List (Transition Daemon Event)) (t : Transition Daemon Event) : Bool :=
  match t.event with
  | .childWatch a status _ =>
      if LetGo t.before a then endsNothing past t a && passesBy t.before status
      else endsNothing past t a || status.abnormal
  | _ => true

/-- A process that is still to reach STARTED is tracked until its end has been
handled. -/
def Held (s : Daemon) : Prop :=
  ∀ p ∈ s.procs, p.attempt = s.attempt → s.priv.uuid.isSome = true → s.attempt ∉ s.reached →
    p.state ≠ .notified → s.priv.pid ≠ 0

theorem RequestOutcome.attempt {c : NMConnection} {r : Except GError Unit}
    (ho : RequestOutcome cfg env c s s' r) : s' = s ∨ s'.attempt = s.attempt + 1 := by
  have hb : (begun cfg c s).attempt = s.attempt + 1 := by rw [begun_eq]
  cases ho with
  | rejected _ => exact .inl rfl
  | stopped _ _ _ => exact .inr hb
  | fetching _ _ _ => exact .inr hb
  | ran _ _ hr => exact .inr (hr.attempt.trans hb)

theorem FetchOutcome.attempt {f : Fetch} {result : FetchResult}
    (ho : FetchOutcome cfg env f result s s') : s'.attempt = s.attempt := by
  cases ho with
  | stored _ _ _ _ _ hr => rw [afterRun_eq, hr.attempt]; rfl
  | fallback _ _ _ _ hr => rw [afterRun_eq, hr.attempt]; rfl
  | _ => rfl

def latePassesBy (t : Transition Daemon Event) : Prop :=
  ∀ a status env, t.event = .childWatch a status env → LetGo t.before a →
    passesBy t.before status = true

theorem latePassesBy_of_inTurn {past : List (Transition Daemon Event)}
    {t : Transition Daemon Event} (h : marksInTurn past t = true) : latePassesBy t := by
  intro a status env he hl
  simp only [marksInTurn, he, if_pos hl, Bool.and_eq_true] at h
  exact h.2

theorem passesBy_early {status : WaitStatus} (h : passesBy s status = true)
    (hu : s.priv.uuid.isSome = true) (hr : s.attempt ∉ s.reached) :
    s.priv.pid = 0 ∧ status.abnormal = false := by
  have hne : s.priv.uuid.isNone = false := by simpa using hu
  simpa [passesBy, hne, hr] using h

theorem watch_fields (cfg : Config) (env : Env) (status : WaitStatus) (s : Daemon) :
    (openvpnWatchCb cfg env status s).attempt = s.attempt ∧
      (openvpnWatchCb cfg env status s).reached = s.reached ∧
      ((openvpnWatchCb cfg env status s).priv.uuid.isSome = true → s.priv.uuid.isSome = true) := by
  rw [watch_eq]
  split
  · split <;> exact ⟨rfl, rfl, id⟩
  · cases hs : svcActive (released env s) with
    | false =>
        rw [disconnect_inactive hs]
        exact ⟨rfl, rfl, id⟩
    | true =>
        rw [disconnect_active hs]
        exact ⟨rfl, rfl, fun hu => by cases hu⟩

theorem timeout_fields (cfg : Config) (env : Env) (s : Daemon) :
    (connectTimeoutCb cfg env s).attempt = s.attempt ∧
      (connectTimeoutCb cfg env s).reached = s.reached ∧
      (connectTimeoutCb cfg env s).priv.uuid = s.priv.uuid ∧
      (connectTimeoutCb cfg env s).priv.pid = s.priv.pid := by
  rw [timeout_eq]
  split <;> exact ⟨rfl, rfl, rfl, rfl⟩

theorem watch_notified {a : Nat} {status : WaitStatus} {p' : Proc}
    (hp : p' ∈ (openvpnWatchCb cfg env status (s.setProc a .notified)).procs)
    (ha : p'.attempt = a) : p'.state = .notified := by
  by_contra hn
  rw [(watch_procs cfg env status _).2] at hp
  obtain ⟨q, hq, hl, hqn⟩ := pending_of_setProcState (fun p _ hw => by
    simp only [Bool.and_eq_true, decide_eq_true_eq] at hw
    simp [hw.1]) hp hn
  have hqa : q.attempt = a := hl.attempt.symm.trans ha
  obtain ⟨p, _, rfl⟩ := mem_setProcState.mp hq
  have hpa : p.attempt = a := by
    split at hqa <;> exact hqa
  simp [hpa] at hqn

theorem held_setState {state : NMVpnServiceState} {p : Proc} (h : Held s) (hp : p ∈ s.procs)
    (hn : p.state ≠ .notified)
    (ha : p.attempt = (nmVpnServicePluginSetState state (quiet s)).attempt)
    (hu : (nmVpnServicePluginSetState state (quiet s)).priv.uuid.isSome = true)
    (hr : (nmVpnServicePluginSetState state (quiet s)).attempt ∉
      (nmVpnServicePluginSetState state (quiet s)).reached) :
    (nmVpnServicePluginSetState state (quiet s)).priv.pid ≠ 0 := by
  by_cases hsame : s.svc = state
  · rw [setState_same (s := quiet s) hsame] at hu hr ha ⊢
    exact h p hp ha hu hr hn
  · rw [setState_new (s := quiet s) hsame] at hu hr ha ⊢
    have hpriv : (statePriv state s.priv).pid = s.priv.pid ∧
        (statePriv state s.priv).uuid = s.priv.uuid := by cases state <;> exact ⟨rfl, rfl⟩
    have hr' : s.attempt ∉ s.reached := fun hm => hr (by
      dsimp only
      split
      · exact List.mem_cons_of_mem _ hm
      · exact hm)
    exact hpriv.1 ▸ h p hp ha (hpriv.2 ▸ hu) hr' hn

theorem held_watch {d : Nat} {status : WaitStatus} {p p' : Proc} (h : Held s)
    (hlate : LetGo s d → passesBy s status = true)
    (hp : p ∈ s.procs) (hn : p.state ≠ .notified)
    (hp' : p' ∈ (openvpnWatchCb cfg env status ((quiet s).setProc d .notified)).procs)
    (hl : Later p p') (hn' : p'.state ≠ .notified)
    (ha : p.attempt = (openvpnWatchCb cfg env status ((quiet s).setProc d .notified)).attempt)
    (hu : (openvpnWatchCb cfg env status
      ((quiet s).setProc d .notified)).priv.uuid.isSome = true)
    (hr : (openvpnWatchCb cfg env status ((quiet s).setProc d .notified)).attempt ∉
      (openvpnWatchCb cfg env status ((quiet s).setProc d .notified)).reached) : False := by
  obtain ⟨hattempt, hreached, huuid⟩ :=
    watch_fields cfg env status ((quiet s).setProc d .notified)
  have hu' : s.priv.uuid.isSome = true := huuid hu
  have hr' : s.attempt ∉ s.reached := by
    rw [hattempt, hreached] at hr
    exact hr
  have ha' : p.attempt = s.attempt := ha.trans hattempt
  by_cases hgone : LetGo s d
  · exact absurd (passesBy_early (hlate hgone) hu' hr').1 (h p hp ha' hu' hr' hn)
  · have hown : d = s.attempt := by
      by_contra hne
      exact hgone (.inl hne)
    exact hn' (watch_notified hp' (hl.attempt.trans (ha'.trans hown.symm)))

theorem held_step {e : Event} (hc : Coherent s) (h : Held s) (hs : step cfg s e = some s')
    (hlate : latePassesBy ⟨s, e, s'⟩) : Held s' := by
  intro p' hp' ha hu hr hn
  rcases procs_step hc hs hp' with ⟨p, hp, hl, hpend⟩ | hst
  case inr =>
    have hc' := coherent_step hc hs
    have hpos := hc'.attempt_pos hu
    exact (hc'.timer_phase (by rw [hst.timer]; omega)).2
  have hpa : p.attempt = s'.attempt := hl.attempt.symm.trans ha
  have hpn := hpend hn
  cases step_cases hs with
  | request _ _ _ ho _ =>
      rcases ho.attempt with heq | heq
      · simp only [heq] at hu hr hpa ⊢
        exact h p hp hpa hu hr hpn
      · have hb := hc.proc_bound p hp
        have : p.attempt = s.attempt + 1 := hpa.trans heq
        omega
  | disconnect env =>
      cases ha : svcActive (quiet s) with
      | false =>
          rw [disconnect_inactive ha] at hu hr hpa ⊢
          exact h p hp hpa hu hr hpn
      | true =>
          rw [disconnect_active ha] at hu
          cases hu
  | stateChange state =>
      exact held_setState h hp hpn hpa hu hr
  | @fetchDone a result env f _ hf hfa _ ho =>
      have hpa' : p.attempt = s.attempt := hpa.trans ho.attempt
      cases hcf : f.cancelled with
      | false =>
          have hphase := hc.fetch_phase _ (hc.fetch_live f hf hcf)
          exact absurd hpa' (hphase.2.2 p hp)
      | true =>
          cases ho with
          | cancelled _ => exact h p hp hpa hu hr hpn
          | abandoned hno _ | notStored hno _ _ _ | stored hno _ _ _ _ _ | noProfile _ hno _
          | fallback hno _ _ _ _ =>
              rw [hcf] at hno
              cases hno
  | @childWatch d status env hd hdead =>
      exact (held_watch h (hlate _ _ _ rfl) hp hpn hp' hl hn hpa hu hr).elim
  | connectTimeout env _ =>
      obtain ⟨hattempt, hreached, huuid, hpid⟩ := timeout_fields cfg env
        { quiet s with timers := s.timers.filter (· ≠ _) }
      rw [hattempt] at hr hpa
      rw [hreached] at hr
      rw [huuid] at hu
      rw [hpid]
      exact h p hp hpa hu hr hpn
  | killTimeout _ =>
      rw [kill_eq] at hu hr hpa ⊢
      exact h p hp hpa hu hr hpn
  | childExits _ _ => exact h p hp hpa hu hr hpn
  | childReaped _ _ => exact h p hp hpa hu hr hpn
  | otherStarts _ => exact h p hp hpa hu hr hpn
  | otherEnds _ => exact h p hp hpa hu hr hpn
  | dispose =>
      rw [cleanupPlugin_eq] at hu
      cases hu

/-! ## The discipline of a step -/

theorem Coherent.not_started (hc : Coherent s) (hu : s.priv.uuid.isSome = true)
    (hr : s.attempt ∉ s.reached) : s.priv.started = false :=
  Bool.eq_false_iff.mpr fun hs => hr ((hc.started_iff hu).mp hs)

theorem Coherent.not_reached (hc : Coherent s) (hu : s.priv.uuid.isSome = true)
    (hs : s.priv.started = false) : s.attempt ∉ s.reached := fun hr => by
  have := (hc.started_iff hu).mpr hr
  simp [hs] at this

theorem disk_disconnect (hs : svcActive s = true) (hpid : s.priv.pid ≠ 0)
    (hst : s.priv.started = false) :
    (nmVpnServicePluginDisconnect cfg env s).disk = markedDisk cfg env s.priv.uuid s.disk := by
  have hm : disconnectMark s.priv = s.priv.uuid := by simp [disconnectMark, hpid, hst]
  rw [disconnect_active hs, hm]

theorem disk_watch {status : WaitStatus} (hab : status.abnormal = true)
    (hst : s.priv.started = false) :
    (openvpnWatchCb cfg env status s).disk = markedDisk cfg env s.priv.uuid s.disk := by
  rw [watch_eq, if_pos hab, if_neg (by simp [hst])]

theorem disk_timeout (hst : s.priv.started = false) :
    (connectTimeoutCb cfg env s).disk = markedDisk cfg env s.priv.uuid s.disk := by
  rw [timeout_eq, if_neg (by simp [hst])]

/-- What closes an attempt marks its profile. -/
theorem closing_marks {e : Event} {p : Proc} {u : Uuid} (hc : Coherent s) (hm : HasMeta cfg s)
    (h : Held s) (hs : step cfg s e = some s') (hlate : latePassesBy ⟨s, e, s'⟩) (hp : p ∈ s.procs)
    (hpending : p.state ≠ .notified) (hclose : closes p.attempt ⟨s, e, s'⟩ = true)
    (hu : p.uuid = some u) (hio : WritesSucceed e) : StaleMarked cfg u s'.disk := by
  simp only [closes, Bool.and_eq_true, decide_eq_true_eq, Bool.not_eq_true', List.contains_eq_mem,
    decide_eq_false_iff_not] at hclose
  obtain ⟨⟨⟨⟨ha, huuid⟩, hr⟩, -⟩, hclose⟩ := hclose
  rw [ha] at hr
  have hst : s.priv.started = false := hc.not_started huuid hr
  have hpu : s.priv.uuid = some u := (hc.proc_current p hp ha huuid).1.symm.trans hu
  have hpid : s.priv.pid ≠ 0 := h p hp ha huuid hr hpending
  have marked : ∀ {env : Env}, (∀ path, env.io.setContents path = none) →
      s'.disk = markedDisk cfg env s.priv.uuid s.disk → StaleMarked cfg u s'.disk := by
    intro env hio heq
    rw [heq, hpu]
    exact staleMarked_markedDisk (hm p hp u hu) hio
  cases e with
  | childWatch a status env =>
      simp only [Bool.and_eq_true, decide_eq_true_eq] at hclose
      have hgone : LetGo s a := .inl (ha ▸ hclose.1)
      exact absurd (passesBy_early (hlate a status env rfl hgone) huuid hr).1 hpid
  | connectTimeout timer env =>
      cases step_cases hs with
      | request _ he _ _ _ => cases he
      | connectTimeout _ _ =>
          exact marked hio
            (disk_timeout (s := { quiet s with timers := s.timers.filter (· ≠ timer) }) hst)
  | disconnect env =>
      cases step_cases hs with
      | request _ he _ _ _ => cases he
      | disconnect _ => exact marked hio (disk_disconnect (s := quiet s) hclose hpid hst)
  | _ => cases hclose

theorem early_end_marked {past : List (Transition Daemon Event)} {e : Event} {p : Proc} {u : Uuid}
    (hc : Coherent s) (hm : HasMeta cfg s) (h : Held s) (hs : step cfg s e = some s')
    (hturn : marksInTurn past ⟨s, e, s'⟩ = true) (hend : EndsEarly past ⟨s, e, s'⟩ p)
    (hu : p.uuid = some u) (hio : WritesSucceed e) : StaleMarked cfg u s'.disk := by
  obtain ⟨hp, hpending, hr, hclose | ⟨⟨status, env, he⟩, halone, hopen⟩⟩ := hend
  · exact closing_marks hc hm h hs (latePassesBy_of_inTurn hturn) hp hpending hclose hu hio
  · subst he
    have hends : endsNothing past ⟨s, .childWatch p.attempt status env, s'⟩ p.attempt = false := by
      simp [endsNothing, hr, halone, hopen]
    have hown : ¬ LetGo s p.attempt := by
      intro hgone
      simp [marksInTurn, if_pos hgone, hends] at hturn
    have hab : status.abnormal = true := by
      simpa [marksInTurn, if_neg hown, hends] using hturn
    obtain ⟨ha, huuid⟩ := not_or.mp hown
    have ha : p.attempt = s.attempt := not_not.mp ha
    have huuid : s.priv.uuid.isSome = true := Option.isSome_iff_ne_none.mpr huuid
    have hst : s.priv.started = false := hc.not_started huuid (ha ▸ hr)
    have hpu : s.priv.uuid = some u := (hc.proc_current p hp ha huuid).1.symm.trans hu
    rw [(step_childWatch hs).2, disk_watch (s := (quiet s).setProc p.attempt .notified) hab hst]
    exact hpu ▸ staleMarked_markedDisk (hm p hp u hu) hio

theorem markedStale_disconnect {t : Daemon} {u : Uuid} (hno : t.effects = [])
    (he : .markedStale u ∈ (nmVpnServicePluginDisconnect cfg env t).effects) :
    t.priv.pid ≠ 0 ∧ t.priv.uuid = some u ∧ t.priv.started = false := by
  rcases mem_disconnect_effects he with he | ⟨_, he | ⟨_, _, _, he⟩ | ⟨v, hv, he⟩⟩
  · rw [hno] at he
    cases he
  · cases he
  · cases he
  · cases he
    unfold disconnectMark at hv
    split at hv
    · rename_i hguard
      simp only [Bool.and_eq_true, decide_eq_true_eq, Bool.not_eq_true'] at hguard
      exact ⟨hguard.1, hv, hguard.2⟩
    · cases hv

theorem markedStale_watch {status : WaitStatus} {t : Daemon} {u : Uuid} (hno : t.effects = [])
    (he : .markedStale u ∈ (openvpnWatchCb cfg env status t).effects) :
    t.priv.uuid = some u ∧ t.priv.started = false ∧ status.abnormal = true := by
  rw [watch_eq] at he
  split at he
  · rename_i hab
    split at he
    · rw [hno] at he
      rcases List.mem_cons.mp he with he | he <;> cases he
    · rename_i hst
      simp only [hno, List.append_nil, List.mem_cons, mem_markEffects] at he
      rcases he with he | ⟨v, hv, he⟩
      · cases he
      · cases he
        exact ⟨hv, Bool.eq_false_iff.mpr hst, hab⟩
  · -- the process is no longer tracked when the clean exit disconnects
    exact absurd rfl (markedStale_disconnect (t := released env t) hno he).1

theorem markedStale_timeout {t : Daemon} {u : Uuid} (hno : t.effects = [])
    (he : .markedStale u ∈ (connectTimeoutCb cfg env t).effects) :
    t.priv.uuid = some u ∧ t.priv.started = false := by
  rw [timeout_eq] at he
  split at he
  · rw [hno] at he
    cases he
  · rename_i hst
    simp only [hno, List.append_nil, List.mem_cons, List.mem_append, mem_markEffects] at he
    rcases he with he | ⟨v, hv, he⟩ | he
    · cases he
    · cases he
      exact ⟨hv, Bool.eq_false_iff.mpr hst⟩
    · obtain ⟨_, _, _, heq⟩ := mem_cleanedEffects he
      cases heq

theorem marked_ends {e : Event} {u : Uuid} (hc : Coherent s) (hs : step cfg s e = some s')
    (hlate : latePassesBy ⟨s, e, s'⟩) (he : .markedStale u ∈ s'.effects) :
    EndsCurrent ⟨s, e, s'⟩ ∧ s.priv.uuid = some u ∧ s.attempt ∉ s.reached := by
  have hmay := step_effects hs he
  have early : s.priv.uuid = some u → s.priv.started = false →
      s.priv.uuid = some u ∧ s.attempt ∉ s.reached := fun hu hst =>
    ⟨hu, hc.not_reached (by simp [hu]) hst⟩
  cases step_cases hs with
  | disconnect env =>
      obtain ⟨_, hu, hst⟩ := markedStale_disconnect (t := quiet s) rfl he
      exact ⟨trivial, early hu hst⟩
  | @childWatch d status env hd _ =>
      obtain ⟨hu, hst, hab⟩ :=
        markedStale_watch (t := (quiet s).setProc d.attempt .notified) rfl he
      obtain ⟨_, hr⟩ := early hu hst
      refine ⟨?_, hu, hr⟩
      by_contra hne
      have hpass := hlate _ _ _ rfl (.inl hne)
      have hn := (passesBy_early hpass (Option.isSome_of_eq_some hu) hr).2
      exact absurd (hn.symm.trans hab) (by decide)
  | connectTimeout env _ =>
      obtain ⟨hu, hst⟩ := markedStale_timeout
        (t := { quiet s with timers := s.timers.filter (· ≠ _) }) rfl he
      exact ⟨trivial, early hu hst⟩
  | request _ he' _ _ _ => cases e <;> cases he' <;> cases hmay
  | _ => cases hmay

theorem marked_refetched {e : Event} {c : NMConnection} (hs : step cfg s e = some s')
    (he : e.request = some (c, env)) (h : StaleMarked cfg c.uuid s.disk) (a : Nat) :
    .spawned a ∉ s'.effects := by
  intro hm
  obtain ⟨r, i, ho, _, rfl⟩ := step_request hs he
  obtain ⟨s₁, res⟩ := r
  have hm := (List.mem_cons.mp hm).resolve_left (by simp)
  have hno : ∀ {x : Effect}, mayEmit .dispose x = false → x ∉ (begun cfg c (quiet s)).effects := by
    intro x hx he
    obtain ⟨_, _, _, rfl⟩ := mem_begun_effects he
    cases hx
  cases ho with
  | rejected _ => cases hm
  | stopped _ _ _ => exact hno rfl hm
  | fetching _ _ _ => exact hno rfl ((List.mem_cons.mp hm).resolve_left (by simp))
  | ran _ hvalid _ =>
      have hinvalid := h.not_valid (getGeneratorParams c.sVpn) env.now
      exact absurd (hinvalid.symm.trans hvalid) (by decide)

/-- In every run whose exits come in turn, every step keeps the discipline. -/
theorem stale_discipline (cfg : Config) (left : Leftover) (events : List Event)
    (hturn : AlwaysAfter (fun past t => marksInTurn past t = true) (runs cfg left events)) :
    AlwaysAfter (StaleDiscipline cfg) (runs cfg left events) := by
  have hinv := (coherent_inductive cfg left).and (J := HasMeta cfg)
    (fun hc h hs => hasMeta_step hc h hs) (by
      rw [boot_eq]
      exact fun _ hp => (List.not_mem_nil hp).elim)
  have hboot : Held (boot cfg left) := by
    rw [boot_eq]
    exact fun _ hp => (List.not_mem_nil hp).elim
  have hlate : Always latePassesBy (runs cfg left events) :=
    hturn.always fun _ _ h => latePassesBy_of_inTurn h
  have hheld := run_safe hinv hboot (fun t hi h hs hq => held_step hi.1 h hs hq) events hlate
  intro i hi
  have ht := List.getElem_mem hi
  obtain ⟨hc, hm⟩ := (hinv.run ht).1
  have hs := mem_run_step ht
  exact
    { marked := fun p u hend hu hio =>
        early_end_marked hc hm (hheld _ ht).1 hs (hturn i hi) hend hu hio
      only_ended := fun u he => marked_ends hc hs (hlate _ ht)
        (he.elim id fun h => (disk_step hs).newly_marked h.1 h.2)
      kept := fun u h hno => (disk_step hs).kept h hno
      refetched := fun c env he h a => marked_refetched hs he h a }

def sampleAttempt : List Event :=
  [.connect sampleConnection (sampleEnv (.ok 700)), .stateChange .starting,
    .fetchDone 1 (.profile sampleProfile) (sampleEnv (.ok 700)), .childExits 1, .childReaped 1]

def sampleExit (code : Fin 256) : Event := .childWatch 1 (.exited code) (sampleEnv (.ok 701))

theorem stale_discipline_sample :
    let ts := runs (sampleConfig true) (sampleLeftover none)
      (sampleAttempt ++ [sampleExit 1, .disconnect (sampleEnv (.ok 701)),
        .connect sampleConnection (sampleEnv (.ok 701))])
    AlwaysAfter (StaleDiscipline (sampleConfig true)) ts ∧ ts.length = 8 ∧
      ∃ t ∈ ts, .markedStale sampleUuid ∈ t.after.effects :=
  ⟨stale_discipline _ _ _ (by unfold AlwaysAfter; decide +kernel), by decide +kernel,
    by decide +kernel⟩

/-- A process that ends by itself with success before the tunnel is up leaves its
profile unmarked, whether its exit is handled in its own attempt or in the next one. -/
theorem clean_exit_unmarked :
    ¬ AlwaysAfter (StaleDiscipline (sampleConfig true))
        (runs (sampleConfig true) (sampleLeftover none) (sampleAttempt ++ [sampleExit 0])) ∧
      ¬ AlwaysAfter (StaleDiscipline (sampleConfig true))
        (runs (sampleConfig true) (sampleLeftover none)
          (sampleAttempt ++ [.connect sampleChanged (sampleEnv (.ok 701))] ++ [sampleExit 0])) := by
  have unmarked : ∀ before ∈ [sampleAttempt,
      sampleAttempt ++ [.connect sampleChanged (sampleEnv (.ok 701))]],
      ¬ AlwaysAfter (StaleDiscipline (sampleConfig true))
        (runs (sampleConfig true) (sampleLeftover none) (before ++ [sampleExit 0])) := by
    intro before hbefore h
    have facts : ∀ before ∈ [sampleAttempt,
        sampleAttempt ++ [.connect sampleChanged (sampleEnv (.ok 701))]],
        let s := sampleState before
        let past := runs (sampleConfig true) (sampleLeftover none) before
        (step (sampleConfig true) s (sampleExit 0)).isSome = true ∧
          (∀ s' ∈ step (sampleConfig true) s (sampleExit 0),
            ∀ m ∈ loadMeta (sampleConfig true).statedir sampleUuid s'.disk, m.stale = false) ∧
          (∃ p ∈ s.procs, p.attempt = 1 ∧ p.state ≠ .notified ∧ p.uuid = some sampleUuid) ∧
          1 ∉ s.reached ∧ past.any (diesAlone 1) = true ∧ past.any (closes 1) = false := by
      decide +kernel
    obtain ⟨henabled, hunmarked, ⟨p, hp, ha, hpending, hu⟩, hreached, halone, hopen⟩ :=
      facts before hbefore
    obtain ⟨s', hunmarked, hdiscipline⟩ := h.last
      (Q := fun s' =>
        ∀ m ∈ loadMeta (sampleConfig true).statedir sampleUuid s'.disk, m.stale = false)
      henabled hunmarked
    rw [← ha] at hreached halone hopen
    have hexit : ∃ status env, sampleExit 0 = .childWatch p.attempt status env :=
      ⟨_, _, by rw [ha]; rfl⟩
    obtain ⟨m, hm, hstale⟩ := hdiscipline.marked p sampleUuid
      ⟨hp, hpending, hreached, .inr ⟨hexit, halone, hopen⟩⟩ hu fun _ => rfl
    exact absurd ((hunmarked m hm).symm.trans hstale) (by decide)
  exact ⟨unmarked _ List.mem_cons_self,
    unmarked _ (List.mem_cons_of_mem _ (List.mem_singleton_self _))⟩

end AirVpn.Service
