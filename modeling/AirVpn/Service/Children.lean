import AirVpn.Service.Fetches

/-! # Processes and their exits over whole runs

`openvpn_watch_cb` is told which process has ended and does not look: it lets go
of whatever process is tracked by then. Both results say exactly when that is
harmless. The first is about the current attempt at the exit of an older process,
the second about the process that is let go of.
-/

namespace AirVpn.Service

open Daemon Machine

variable {cfg : Config} {env : Env} {s s' : Daemon}

/-! ## What the callback lets go of -/

theorem cleanedProcs_untracked (h : s.priv.pid = 0) : cleanedProcs s = s.procs := if_pos h

theorem watch_procs (cfg : Config) (env : Env) (status : WaitStatus) (s : Daemon) :
    (openvpnWatchCb cfg env status s).priv.pid = 0 ∧
      (openvpnWatchCb cfg env status s).procs = (s.waitpid s.priv.pid env.waitAny).procs := by
  rw [watch_eq]
  split
  · split <;> exact ⟨rfl, rfl⟩
  · cases hs : svcActive (released env s) with
    | false =>
        rw [disconnect_inactive hs]
        exact ⟨rfl, rfl⟩
    | true =>
        rw [disconnect_active hs]
        exact ⟨rfl, cleanedProcs_untracked (s := released env s) rfl⟩

/-! ## Late exits -/

/-- The plugin has let go of the attempt: a newer one has begun, or there has been
a cleanup. -/
def LetGo (s : Daemon) (attempt : Nat) : Prop := attempt ≠ s.attempt ∨ s.priv.uuid = none

/-- The current attempt is in progress or connected: its profile is being fetched,
or its process has not ended. -/
def Busy (s : Daemon) : Prop :=
  liveFetches s ≠ [] ∨ s.priv.uuid.isSome ∧ ∃ p ∈ s.procs, p.attempt = s.attempt ∧
    p.state ≠ .notified

structure Undisturbed (cfg : Config) (t : Transition Daemon Event) : Prop where
  pid : t.after.priv.pid = t.before.priv.pid
  connectTimer : t.after.priv.connectTimer = t.before.priv.connectTimer
  started : t.after.priv.started = t.before.priv.started
  unexpectedDrop : t.after.priv.unexpectedDrop = t.before.priv.unexpectedDrop
  connection : t.after.priv.connection = t.before.priv.connection
  uuid : t.after.priv.uuid = t.before.priv.uuid
  table : t.after.table = t.before.table
  cache : ∀ u, t.before.priv.uuid = some u →
    t.after.disk (nmAirvpnCacheGetConfigPath cfg.statedir u) =
        t.before.disk (nmAirvpnCacheGetConfigPath cfg.statedir u) ∧
      t.after.disk (metaPath cfg.statedir u) = t.before.disk (metaPath cfg.statedir u)
  not_disconnected : .disconnected ∉ t.after.effects

/-- The exit of a process that the plugin has let go of reports no failure, and
does not disturb an attempt that is busy by then. -/
def LateExitHarmless (cfg : Config) (t : Transition Daemon Event) : Prop :=
  ∀ a status env, t.event = .childWatch a status env → LetGo t.before a →
    (∀ reason, .failure reason ∉ t.after.effects) ∧ (Busy t.before → Undisturbed cfg t)

/-- It ends with success, and a busy attempt tracks no process and is not known to
libnm yet. -/
def LateExitUnnoticed (t : Transition Daemon Event) : Prop :=
  ∀ a status env, t.event = .childWatch a status env → LetGo t.before a →
    status.abnormal = false ∧
      (Busy t.before → t.before.priv.pid = 0 ∧ svcActive t.before = false)

theorem watch_failure {status : WaitStatus} (h : status.abnormal = true) :
    .failure .connectFailed ∈ (openvpnWatchCb cfg env status s).effects := by
  rw [watch_eq, if_pos h]
  split <;> exact List.mem_cons_self

theorem watch_no_failure {status : WaitStatus} (h : status.abnormal = false)
    {reason : NMVpnPluginFailure} (hno : .failure reason ∉ s.effects) :
    .failure reason ∉ (openvpnWatchCb cfg env status s).effects := by
  rw [watch_eq, if_neg (by simp [h])]
  intro he
  rcases mem_disconnect_effects he with he | ⟨_, he | ⟨_, _, _, he⟩ | ⟨_, _, he⟩⟩
  · exact hno he
  all_goals cases he

theorem watch_disconnected {status : WaitStatus} (h : status.abnormal = false)
    (hs : svcActive s = true) : .disconnected ∈ (openvpnWatchCb cfg env status s).effects := by
  have hr : svcActive (released env s) = true := hs
  rw [watch_eq, if_neg (by simp [h]), disconnect_active hr]
  exact List.mem_cons_self

theorem watch_quiet {status : WaitStatus} (h : status.abnormal = false)
    (hs : svcActive s = false) : openvpnWatchCb cfg env status s = released env s := by
  have hr : svcActive (released env s) = false := hs
  rw [watch_eq, if_neg (by simp [h]), disconnect_inactive hr]

/-- In every run the late exits are harmless throughout exactly when they all go
unnoticed. -/
theorem late_exits_harmless_iff (cfg : Config) (left : Leftover) (events : List Event) :
    Always (LateExitHarmless cfg) (runs cfg left events) ↔
      Always LateExitUnnoticed (runs cfg left events) := by
  refine run_forall_iff (coherent_inductive cfg left) (fun t h hs => ?_) events
  obtain ⟨s, e, s'⟩ := t
  refine forall_congr' fun a => forall_congr' fun status => forall_congr' fun env =>
    forall_congr' fun he => forall_congr' fun _ => ?_
  change e = _ at he
  subst he
  have hafter : s' = openvpnWatchCb cfg env status ((quiet s).setProc a .notified) :=
    (step_childWatch hs).2
  constructor
  · rintro ⟨hfail, hbusy⟩
    have hnormal : status.abnormal = false := Bool.eq_false_iff.mpr fun hab =>
      hfail _ (hafter ▸ watch_failure hab)
    refine ⟨hnormal, fun hb => ?_⟩
    have hu := hbusy hb
    refine ⟨?_, Bool.eq_false_iff.mpr fun hs => hu.not_disconnected ?_⟩
    · have hpid : s'.priv.pid = s.priv.pid := hu.pid
      rw [← hpid, hafter]
      exact (watch_procs cfg env status _).1
    · rw [hafter]
      exact watch_disconnected hnormal hs
  · rintro ⟨hnormal, hbusy⟩
    refine ⟨fun reason => ?_, fun hb => ?_⟩
    · rw [hafter]
      exact watch_no_failure hnormal (by simp [quiet, setProc])
    · obtain ⟨hpid, hinactive⟩ := hbusy hb
      have hq : s' = released env ((quiet s).setProc a .notified) :=
        hafter.trans (watch_quiet hnormal hinactive)
      have htimer := h.timer_zero hpid
      rw [hq]
      exact
        { pid := hpid.symm
          connectTimer := htimer.symm
          started := rfl
          unexpectedDrop := rfl
          connection := rfl
          uuid := rfl
          table := rfl
          cache := fun _ _ => ⟨rfl, rfl⟩
          not_disconnected := fun he => by cases he }

/-- The tunnel is up, NetworkManager disconnects and connects again, and only then
the first process, told to terminate, ends. -/
def sampleLateExit : List Event :=
  sampleStart ++
    [.disconnect (sampleEnv (.ok 701)), .connect sampleConnection (sampleEnv (.ok 701)),
      .stateChange .starting, .childExits 1, .childReaped 1]

def sampleTerminated : Event := .childWatch 1 (.signaled 15) (sampleEnv (.ok 702))

theorem late_exit_fails_attempt :
    ¬ Always (LateExitHarmless (sampleConfig true))
      (runs (sampleConfig true) (sampleLeftover none) (sampleLateExit ++ [sampleTerminated])) := by
  intro h
  obtain ⟨s', hfailure, hharmless⟩ := h.last (Q := fun s' => .failure .connectFailed ∈ s'.effects)
    (by decide +kernel) (by decide +kernel)
  have hlate : LetGo (sampleState sampleLateExit) 1 := .inl (by decide +kernel)
  exact (hharmless 1 _ _ rfl hlate).1 .connectFailed hfailure

/-! ## Orphans -/

/-- A process that runs and that the plugin has never signalled. -/
def Proc.unsignalled (p : Proc) : Bool := p.state = .running && p.signals.isEmpty

/-- Every unsignalled process is the one recorded in `priv->pid`. -/
def Recorded (s : Daemon) : Prop :=
  ∀ p ∈ s.procs, p.unsignalled = true →
    s.priv.pid ≠ 0 ∧ p.pid = s.priv.pid ∧ p.attempt = s.attempt

/-- Hence there is at most one, and none once a disconnect has been handled. -/
structure NoOrphan (s : Daemon) : Prop where
  recorded : Recorded s
  unique : ∀ p ∈ s.procs, ∀ q ∈ s.procs, p.unsignalled = true → q.unsignalled = true → p = q
  disconnected : .disconnected ∈ s.effects → ∀ p ∈ s.procs, p.unsignalled = false

/-- No exit is notified while the tracked process runs unsignalled. -/
def ExitsInOrder (t : Transition Daemon Event) : Prop :=
  ∀ a status env, t.event = .childWatch a status env → t.before.priv.pid ≠ 0 →
    ∀ p ∈ t.before.procs, p.attempt = t.before.attempt → p.unsignalled = false

theorem unsignalled_of_signalProcs {pid : Nat} {signal : Signal} {procs : List Proc} {p : Proc}
    (h : p ∈ signalProcs pid signal procs) (hu : p.unsignalled = true) :
    p ∈ procs ∧ p.pid ≠ pid := by
  obtain ⟨q, hq, rfl⟩ := mem_signalProcs.mp h
  split at hu
  · simp [Proc.unsignalled] at hu
  · rename_i hne
    rw [if_neg hne]
    refine ⟨hq, fun hpid => hne ?_⟩
    have hrun : q.state = .running := by
      simp only [Proc.unsignalled, Bool.and_eq_true, decide_eq_true_eq] at hu
      exact hu.1
    simp [hpid, Proc.unreaped, hrun]

theorem unsignalled_of_setProcState {which : Proc → Bool} {state : ProcState} {procs : List Proc}
    {p : Proc} (hstate : state ≠ .running) (h : p ∈ setProcState which state procs)
    (hu : p.unsignalled = true) : p ∈ procs := by
  obtain ⟨q, hq, rfl⟩ := mem_setProcState.mp h
  split at hu
  · simp [Proc.unsignalled, hstate] at hu
  · rename_i hno
    rwa [if_neg hno]

theorem Recorded.cleaned (h : Recorded s) : ∀ p ∈ cleanedProcs s, p.unsignalled = false := by
  intro p hp
  apply Bool.eq_false_iff.mpr
  intro hu
  unfold cleanedProcs at hp
  split at hp
  · rename_i hzero
    exact (h p hp hu).1 hzero
  · obtain ⟨hm, hne⟩ := unsignalled_of_signalProcs hp hu
    exact hne (h p hm hu).2.1

theorem Recorded.of_none (h : ∀ p ∈ s.procs, p.unsignalled = false) : Recorded s :=
  fun p hp hu => absurd hu (by simp [h p hp])

theorem Recorded.none (h : Recorded s) (hp : s.priv.pid = 0) :
    ∀ p ∈ s.procs, p.unsignalled = false :=
  fun p hm => Bool.eq_false_iff.mpr fun hu => (h p hm hu).1 hp

theorem Recorded.frame (h : Recorded s) (hpid : s'.priv.pid = s.priv.pid)
    (hattempt : s'.attempt = s.attempt)
    (hprocs : ∀ p ∈ s'.procs, p.unsignalled = true → p ∈ s.procs) : Recorded s' := by
  intro p hp hu
  rw [hpid, hattempt]
  exact h p (hprocs p hp hu) hu

theorem RunOutcome.recorded {r : Except GError Unit} (hr : RunOutcome cfg env s s' r)
    (hnone : ∀ p ∈ s.procs, p.unsignalled = false)
    (hpid : ∀ pid, env.spawn = .ok pid → pid ≠ 0) : Recorded s' := by
  cases hr with
  | noBinary _ => exact .of_none hnone
  | notArmed _ _ => exact .of_none hnone
  | notSpawned _ _ => exact .of_none hnone
  | spawned _ _ hs =>
      intro p hp hu
      rcases List.mem_cons.mp hp with rfl | hp
      · exact ⟨hpid _ hs, rfl, rfl⟩
      · exact absurd hu (by simp [hnone p hp])

theorem Recorded.afterRun {r : Daemon × Except GError Unit} (h : Recorded r.1) :
    Recorded (afterRun r) := by
  rw [afterRun_eq]
  exact h

theorem Recorded.disconnect (h : Recorded s) (cfg : Config) (env : Env) :
    Recorded (nmVpnServicePluginDisconnect cfg env s) := by
  cases hs : svcActive s with
  | false => rwa [disconnect_inactive hs]
  | true =>
      rw [disconnect_active hs]
      exact .of_none h.cleaned

theorem Recorded.fetchDone (hc : Coherent s) (h : Recorded s)
    (hpid : ∀ pid, env.spawn = .ok pid → pid ≠ 0) {f : Fetch} {result : FetchResult}
    (hf : f ∈ s.fetches)
    (ho : FetchOutcome cfg env f result
      { s with fetches := s.fetches.filter (·.attempt ≠ f.attempt) } s') : Recorded s' := by
  have hnone := fun hcf => h.none (hc.finishFetch hf hcf).pid
  cases ho with
  | cancelled _ => exact h
  | abandoned _ _ => exact h
  | notStored _ _ _ _ => exact h
  | stored hcf _ _ _ _ hr =>
      exact (hr.recorded (hnone hcf) hpid).afterRun
  | noProfile _ _ _ => exact h
  | fallback hcf _ _ _ hr =>
      exact (hr.recorded (hnone hcf) hpid).afterRun

theorem Recorded.request (h : Recorded s)
    (hpid : ∀ pid, env.spawn = .ok pid → pid ≠ 0) {c : NMConnection} {r : Except GError Unit}
    (ho : RequestOutcome cfg env c s s' r) : Recorded s' := by
  have hnone : ∀ p ∈ (begun cfg c s).procs, p.unsignalled = false := by
    rw [begun_eq]
    exact h.cleaned
  cases ho with
  | rejected _ => exact h
  | stopped _ _ _ => exact .of_none hnone
  | fetching _ _ _ => exact .of_none hnone
  | ran _ _ hr => exact hr.recorded hnone hpid

theorem Recorded.setState (h : Recorded s) (state : NMVpnServiceState) :
    Recorded (nmVpnServicePluginSetState state s) := by
  rw [setState_eq]
  exact h.frame (setState_priv state s).1 rfl fun _ hp _ => hp

/-- Everything but the exit of a child keeps the processes recorded. -/
theorem recorded_step {e : Event} (hc : Coherent s) (h : Recorded s)
    (hno : ∀ a status env, e ≠ .childWatch a status env) (hs : step cfg s e = some s') :
    Recorded s' := by
  have hq : Recorded (quiet s) := h
  cases step_cases hs with
  | request _ _ hf ho _ =>
      have hr := hq.request (fun pid hp => (spawnFeasible_pid hf pid hp).1) ho
      exact hr
  | disconnect env => exact hq.disconnect cfg env
  | stateChange state => exact hq.setState state
  | fetchDone result hm ha hf ho =>
      subst ha
      exact Recorded.fetchDone hc.quiet hq (fun pid hp => (spawnFeasible_pid hf pid hp).1) hm ho
  | childExits _ _ =>
      exact hq.frame rfl rfl fun _ hp hu => unsignalled_of_setProcState (by decide) hp hu
  | childReaped _ _ =>
      exact hq.frame rfl rfl fun _ hp hu => unsignalled_of_setProcState (by decide) hp hu
  | childWatch status env _ _ => exact absurd rfl (hno _ status env)
  | connectTimeout env _ =>
      rw [timeout_eq]
      split
      · exact hq.frame rfl rfl fun _ hp _ => hp
      · exact .of_none hq.cleaned
  | killTimeout _ =>
      rw [kill_eq]
      exact hq.frame rfl rfl fun _ hp hu => (unsignalled_of_signalProcs hp hu).1
  | otherStarts _ => exact hq.frame rfl rfl fun _ hp _ => hp
  | otherEnds _ => exact hq.frame rfl rfl fun _ hp _ => hp
  | dispose =>
      rw [cleanupPlugin_eq]
      exact .of_none hq.cleaned

theorem recorded_watch_iff {a : Nat} {status : WaitStatus} (hc : Coherent s) (h : Recorded s)
    (hs : step cfg s (.childWatch a status env) = some s') :
    Recorded s' ↔
      (s.priv.pid ≠ 0 → ∀ p ∈ s.procs, p.attempt = s.attempt → p.unsignalled = false) := by
  obtain ⟨⟨d, hd, hda, hdead⟩, hafter⟩ := step_childWatch hs
  have hw := watch_procs cfg env status ((quiet s).setProc a .notified)
  rw [← hafter] at hw
  obtain ⟨hpid, hprocs⟩ := hw
  constructor
  · intro hr _ p hp ha
    refine Bool.eq_false_iff.mpr fun hu => (hr p ?_ hu).1 hpid
    have hrun : p.state = .running := by
      simp only [Proc.unsignalled, Bool.and_eq_true, decide_eq_true_eq] at hu
      exact hu.1
    -- the process whose exit is notified is dead, so it is not this one
    have hne : p.attempt ≠ a := fun heq => by
      have := hc.proc_unique hp hd (heq.trans hda.symm)
      rw [this, hdead] at hrun
      cases hrun
    rw [hprocs]
    refine mem_setProcState.mpr ⟨p, mem_setProcState.mpr ⟨p, hp, by simp [hne]⟩, by simp [hrun]⟩
  · intro ho
    apply Recorded.of_none
    intro p hp
    apply Bool.eq_false_iff.mpr
    intro hu
    rw [hprocs] at hp
    have hm : p ∈ s.procs :=
      unsignalled_of_setProcState (by decide) (unsignalled_of_setProcState (by decide) hp hu) hu
    obtain ⟨hne, _, ha⟩ := h p hm hu
    exact absurd hu (by simp [ho hne p hm ha])

theorem disconnected_untracked {e : Event} (hs : step cfg s e = some s')
    (he : .disconnected ∈ s'.effects) : s'.priv.pid = 0 := by
  have hmay := step_effects hs he
  cases step_cases hs with
  | disconnect env =>
      cases ha : svcActive (quiet s) with
      | false =>
          rw [disconnect_inactive ha] at he
          cases he
      | true =>
          rw [disconnect_active ha]
          rfl
  | childWatch status env _ _ => exact (watch_procs _ _ _ _).1
  | request _ he' _ _ _ => cases e <;> cases he' <;> cases hmay
  | _ => cases hmay

/-- In every run there never is an orphan exactly when all exits are in order. -/
theorem no_orphan_iff (cfg : Config) (left : Leftover) (events : List Event) :
    Always (fun t => NoOrphan t.after) (runs cfg left events) ↔
      Always ExitsInOrder (runs cfg left events) := by
  have hboot : NoOrphan (boot cfg left) := by
    rw [boot_eq]
    exact ⟨.of_none fun _ hp => (List.not_mem_nil hp).elim,
      fun _ hp => (List.not_mem_nil hp).elim, fun he => (List.not_mem_nil he).elim⟩
  refine run_safe_iff (coherent_inductive cfg left) hboot (fun t hc h hs => ?_) events
  obtain ⟨s, e, s'⟩ := t
  change step cfg s e = some s' at hs
  have hc' : Coherent s' := coherent_step hc hs
  have orphan_iff : NoOrphan s' ↔ Recorded s' := by
    refine ⟨fun h => h.recorded, fun hr => ⟨hr, fun p hp q hq hpu hqu => ?_, fun he => ?_⟩⟩
    · exact hc'.proc_unique hp hq ((hr p hp hpu).2.2.trans (hr q hq hqu).2.2.symm)
    · exact hr.none (disconnected_untracked hs he)
  change NoOrphan s' ↔ ExitsInOrder ⟨s, e, s'⟩
  rw [orphan_iff]
  cases e with
  | childWatch a status env =>
      rw [recorded_watch_iff hc h.recorded hs]
      constructor
      · intro ho a' status' env' _
        exact ho
      · intro ho
        exact ho a status env rfl
  | _ =>
      refine ⟨fun _ a status env he => Event.noConfusion he, fun _ => ?_⟩
      exact recorded_step hc h.recorded (fun _ _ _ => by simp) hs

/-- After the late exit the new openvpn runs on, recorded nowhere. -/
theorem late_exit_orphans :
    ¬ Always (fun t => NoOrphan t.after)
      (runs (sampleConfig true) (sampleLeftover none) (sampleLateExit ++ [sampleTerminated])) := by
  intro h
  obtain ⟨s', ⟨hpid, p, hp, hu⟩, hsafe⟩ := h.last
    (Q := fun s' => s'.priv.pid = 0 ∧ ∃ p ∈ s'.procs, p.unsignalled = true)
    (by decide +kernel) (by decide +kernel)
  exact (hsafe.recorded p hp hu).1 hpid

end AirVpn.Service
