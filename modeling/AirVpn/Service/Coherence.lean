import AirVpn.Service.Spec
import Mathlib.Data.List.Nodup

/-! # Coherence of the plugin's fields

What the fields of the plugin say about its fetches, timers and children, in
every reachable state. An attempt fetches, or has a process, or neither: a fetch
that is not cancelled excludes a tracked process, the connect timer runs only
beside a tracked process, and both belong to the current attempt.
-/

namespace AirVpn.Service

open Daemon

/-- A process of an attempt under a number, whose exit has not been handled yet. -/
structure Tracked (attempt pid : Nat) (p : Proc) : Prop where
  attempt : p.attempt = attempt
  pid : p.pid = pid
  pending : p.state ≠ .notified

structure Coherent (s : Daemon) : Prop where
  fetch_live : ∀ f ∈ s.fetches, f.cancelled = false → s.priv.fetchCancellable = some f.attempt
  fetch_request : ∀ f ∈ s.fetches, f.cancelled = false → s.priv.uuid = some f.uuid ∧
    ∀ c, s.priv.connection = some c → c.uuid = f.uuid ∧ getGeneratorParams c.sVpn = f.params
  fetch_phase : ∀ a, s.priv.fetchCancellable = some a →
    a = s.attempt ∧ s.priv.pid = 0 ∧ ∀ p ∈ s.procs, p.attempt ≠ s.attempt
  fetch_bound : ∀ f ∈ s.fetches, f.attempt ≤ s.attempt
  fetch_nodup : (s.fetches.map (·.attempt)).Nodup
  timers_eq : s.timers = if s.priv.connectTimer = 0 then [] else [s.priv.connectTimer]
  timer_phase : s.priv.connectTimer ≠ 0 → s.priv.connectTimer = s.attempt ∧ s.priv.pid ≠ 0
  tracked : s.priv.pid ≠ 0 → ∃ p ∈ s.procs, Tracked s.attempt s.priv.pid p
  proc_bound : ∀ p ∈ s.procs, p.attempt ≤ s.attempt
  proc_nodup : (s.procs.map (·.attempt)).Nodup
  proc_current : ∀ p ∈ s.procs, p.attempt = s.attempt → s.priv.uuid.isSome →
    p.uuid = s.priv.uuid ∧ ∀ c, s.priv.connection = some c → p.connection = some c
  proc_uuid : ∀ p ∈ s.procs, p.uuid.isSome
  connection_uuid : ∀ c, s.priv.connection = some c → s.priv.uuid = some c.uuid
  idle : s.priv.uuid = none → s.priv.pid = 0 ∧ s.priv.fetchCancellable = none
  attempt_pos : s.priv.uuid.isSome → 0 < s.attempt
  reached_bound : ∀ a ∈ s.reached, a ≤ s.attempt
  started_iff : s.priv.uuid.isSome → (s.priv.started = true ↔ s.attempt ∈ s.reached)

namespace Coherent

variable {s : Daemon}

theorem quiet (h : Coherent s) : Coherent (quiet s) := { h with }

/-! ## Consequences -/

theorem clearedTimers_eq (h : Coherent s) : clearedTimers s = [] := by
  unfold clearedTimers
  rw [h.timers_eq]
  split <;> simp

theorem timer_zero (h : Coherent s) (hp : s.priv.pid = 0) : s.priv.connectTimer = 0 := by
  by_contra hne
  exact (h.timer_phase hne).2 hp

theorem not_idle (h : Coherent s) (hp : s.priv.pid ≠ 0) : s.priv.uuid.isSome := by
  rw [Option.isSome_iff_ne_none]
  exact fun hu => hp (h.idle hu).1

theorem proc_unique (h : Coherent s) {p q : Proc} (hp : p ∈ s.procs) (hq : q ∈ s.procs)
    (heq : p.attempt = q.attempt) : p = q :=
  List.inj_on_of_nodup_map h.proc_nodup hp hq heq

theorem fetch_unique (h : Coherent s) {f g : Fetch} (hf : f ∈ s.fetches) (hg : g ∈ s.fetches)
    (hcf : f.cancelled = false) (hcg : g.cancelled = false) : f = g := by
  apply List.inj_on_of_nodup_map h.fetch_nodup hf hg
  exact Option.some.inj ((h.fetch_live f hf hcf).symm.trans (h.fetch_live g hg hcg))

/-! ## Changes of the children -/

/-- Children may change state and collect signals; as long as something is
tracked, a pending exit of the current attempt stays pending. -/
theorem mapProcs (h : Coherent s) (g : Proc → Proc)
    (hg : ∀ p, (g p).attempt = p.attempt ∧ (g p).pid = p.pid ∧ (g p).uuid = p.uuid ∧
      (g p).connection = p.connection)
    (hstate : s.priv.pid ≠ 0 → ∀ p ∈ s.procs, p.attempt = s.attempt → p.state ≠ .notified →
      (g p).state ≠ .notified) :
    Coherent { s with procs := s.procs.map g } where
  fetch_live := h.fetch_live
  fetch_request := h.fetch_request
  fetch_phase a ha := by
    obtain ⟨h1, h2, h3⟩ := h.fetch_phase a ha
    refine ⟨h1, h2, fun p hp => ?_⟩
    obtain ⟨q, hq, rfl⟩ := List.mem_map.mp hp
    rw [(hg q).1]
    exact h3 q hq
  fetch_bound := h.fetch_bound
  fetch_nodup := h.fetch_nodup
  timers_eq := h.timers_eq
  timer_phase := h.timer_phase
  tracked hp := by
    obtain ⟨p, hm, ht⟩ := h.tracked hp
    exact ⟨g p, List.mem_map_of_mem hm, (hg p).1.trans ht.attempt, (hg p).2.1.trans ht.pid,
      hstate hp p hm ht.attempt ht.pending⟩
  proc_bound p hp := by
    obtain ⟨q, hq, rfl⟩ := List.mem_map.mp hp
    rw [(hg q).1]
    exact h.proc_bound q hq
  proc_nodup := by
    have : (fun p => (g p).attempt) = fun p => p.attempt := funext fun p => (hg p).1
    simpa [List.map_map, Function.comp_def, this] using h.proc_nodup
  proc_current p hp ha hu := by
    obtain ⟨q, hq, rfl⟩ := List.mem_map.mp hp
    rw [(hg q).2.2.1, (hg q).2.2.2]
    exact h.proc_current q hq ((hg q).1.symm.trans ha) hu
  proc_uuid p hp := by
    obtain ⟨q, hq, rfl⟩ := List.mem_map.mp hp
    rw [(hg q).2.2.1]
    exact h.proc_uuid q hq
  connection_uuid := h.connection_uuid
  idle := h.idle
  attempt_pos := h.attempt_pos
  reached_bound := h.reached_bound
  started_iff := h.started_iff

theorem signal (h : Coherent s) (pid : Nat) (sig : Signal) :
    Coherent { s with procs := signalProcs pid sig s.procs } := by
  refine h.mapProcs _ (fun p => ?_) (fun _ p _ _ hs => ?_)
  · split <;> exact ⟨rfl, rfl, rfl, rfl⟩
  · split <;> exact hs

theorem setState (h : Coherent s) (which : Proc → Bool) (state : ProcState)
    (hstate : s.priv.pid ≠ 0 → state ≠ .notified) :
    Coherent { s with procs := setProcState which state s.procs } := by
  refine h.mapProcs _ (fun p => ?_) (fun hp p _ _ hs => ?_)
  · split <;> exact ⟨rfl, rfl, rfl, rfl⟩
  · split
    · exact hstate hp
    · exact hs

theorem release (h : Coherent s) :
    Coherent { s with priv := { s.priv with pid := 0, connectTimer := 0 }, timers := [] } :=
  { h with
    fetch_phase := fun a ha => ⟨(h.fetch_phase a ha).1, rfl, (h.fetch_phase a ha).2.2⟩
    timers_eq := rfl
    timer_phase := fun hne => absurd rfl hne
    tracked := fun hne => absurd rfl hne
    idle := fun hu => ⟨rfl, (h.idle hu).2⟩ }

theorem releaseTimer (h : Coherent s) :
    Coherent { s with priv := { s.priv with connectTimer := 0 }, timers := [] } :=
  { h with
    timers_eq := rfl
    timer_phase := fun hne => absurd rfl hne }

/-! ## Cleanup and new attempts -/

theorem cleanedProcs (h : Coherent s) : Coherent { s with procs := cleanedProcs s } := by
  unfold Service.cleanedProcs
  split
  · exact h
  · exact h.signal _ _

theorem cancelled_of_cancelFetches (h : Coherent s) :
    ∀ f ∈ cancelFetches s.priv.fetchCancellable s.fetches, f.cancelled = true := by
  intro f hf
  obtain ⟨g, hg, rfl⟩ := List.mem_map.mp hf
  split
  · rfl
  · rename_i hne
    by_contra hc
    exact hne (h.fetch_live g hg (by simpa using hc))

theorem cleanup (h : Coherent s) (cfg : Config) : Coherent (cleanupPlugin cfg s) := by
  have hp := h.cleanedProcs
  have hcancel := h.cancelled_of_cancelFetches
  have hattempt : ∀ f : Fetch, (if s.priv.fetchCancellable = some f.attempt then
      { f with cancelled := true } else f).attempt = f.attempt := by
    intro f
    split <;> rfl
  rw [cleanupPlugin_eq, h.clearedTimers_eq]
  exact
    { fetch_live := fun f hf hc => absurd (hcancel f hf) (by simp [hc])
      fetch_request := fun f hf hc => absurd (hcancel f hf) (by simp [hc])
      fetch_phase := fun a ha => absurd ha (by simp [cleanedPriv, initPriv])
      fetch_bound := fun f hf => by
        obtain ⟨g, hg, rfl⟩ := List.mem_map.mp hf
        rw [hattempt]
        exact h.fetch_bound g hg
      fetch_nodup := by
        simpa [cancelFetches, List.map_map, Function.comp_def, hattempt] using h.fetch_nodup
      timers_eq := rfl
      timer_phase := fun hne => absurd rfl hne
      tracked := fun hne => absurd rfl hne
      proc_bound := hp.proc_bound
      proc_nodup := hp.proc_nodup
      proc_current := fun _ _ _ hu => absurd hu (by simp [cleanedPriv, initPriv])
      proc_uuid := hp.proc_uuid
      connection_uuid := fun _ hc => absurd hc (by simp [cleanedPriv, initPriv])
      idle := fun _ => ⟨rfl, rfl⟩
      attempt_pos := fun hu => absurd hu (by simp [cleanedPriv, initPriv])
      reached_bound := h.reached_bound
      started_iff := fun hu => absurd hu (by simp [cleanedPriv, initPriv]) }

theorem beginAttempt (h : Coherent s) (hu : s.priv.uuid = none) (hs : s.priv.started = false)
    (c : NMConnection) : Coherent (beginAttempt c s) := by
  obtain ⟨hpid, hcancellable⟩ := h.idle hu
  have hdead : ∀ f ∈ s.fetches, f.cancelled ≠ false := fun f hf hc => by
    simpa [hcancellable] using h.fetch_live f hf hc
  have hnew : s.attempt + 1 ∉ s.reached := fun hr => by
    have := h.reached_bound _ hr
    omega
  have htimer : s.priv.connectTimer = 0 := h.timer_zero hpid
  exact
    { h with
      fetch_request := fun f hf hc => absurd hc (hdead f hf)
      fetch_phase := fun a ha => by simp [Service.beginAttempt, hcancellable] at ha
      fetch_bound := fun f hf => Nat.le_succ_of_le (h.fetch_bound f hf)
      timer_phase := fun hne => absurd htimer hne
      tracked := fun hne => absurd hpid hne
      proc_bound := fun p hp => Nat.le_succ_of_le (h.proc_bound p hp)
      proc_current := fun p hp ha => by
        have := h.proc_bound p hp
        simp only [Service.beginAttempt] at ha
        omega
      connection_uuid := fun c' hc => by
        cases hc
        rfl
      idle := fun hn => absurd hn (by simp [Service.beginAttempt])
      attempt_pos := fun _ => Nat.succ_pos _
      reached_bound := fun a ha => Nat.le_succ_of_le (h.reached_bound a ha)
      started_iff := fun _ => by simp [Service.beginAttempt, hs, hnew] }

theorem begun (h : Coherent s) (cfg : Config) (c : NMConnection) : Coherent (begun cfg c s) :=
  (h.cleanup cfg).beginAttempt (by rw [cleanupPlugin_eq]; rfl) (by rw [cleanupPlugin_eq]; rfl) c

end Coherent

/-- A state from which `run_openvpn` is called: the attempt has neither a fetch
nor a process. -/
structure Ready (s : Daemon) : Prop where
  coherent : Coherent s
  pid : s.priv.pid = 0
  cancellable : s.priv.fetchCancellable = none
  fresh : ∀ p ∈ s.procs, p.attempt ≠ s.attempt
  uuid : s.priv.uuid.isSome

theorem Coherent.begun_ready {s : Daemon} (h : Coherent s) (cfg : Config) (c : NMConnection) :
    Ready (Service.begun cfg c s) where
  coherent := h.begun cfg c
  pid := by rw [begun_eq]; rfl
  cancellable := by rw [begun_eq]; rfl
  fresh p hp := by
    have := (h.cleanup cfg).proc_bound p hp
    have hc : (cleanupPlugin cfg s).attempt = s.attempt := by rw [cleanupPlugin_eq]
    have ha : (Service.begun cfg c s).attempt = s.attempt + 1 := by rw [begun_eq]
    omega
  uuid := by rw [begun_eq]; rfl

namespace Ready

variable {s : Daemon}

theorem connectTimer (h : Ready s) : s.priv.connectTimer = 0 := h.coherent.timer_zero h.pid

theorem timers (h : Ready s) : s.timers = [] := by
  rw [h.coherent.timers_eq, if_pos h.connectTimer]

theorem cancelled (h : Ready s) : ∀ f ∈ s.fetches, f.cancelled = true := by
  intro f hf
  by_contra hc
  have := h.coherent.fetch_live f hf (by simpa using hc)
  rw [h.cancellable] at this
  cases this

theorem congr (h : Ready s) (disk : Disk) (effects : List Effect) :
    Ready { s with disk := disk, effects := effects } :=
  ⟨{ h.coherent with }, h.pid, h.cancellable, h.fresh, h.uuid⟩

end Ready

/-! ## One lemma per handler -/

namespace Coherent

variable {s s' : Daemon} {cfg : Config} {env : Env}

theorem startFetch (h : Ready s) {c : NMConnection} (hc : s.priv.connection = some c)
    (hbound : ∀ f ∈ s.fetches, f.attempt < s.attempt) (apiKey : String) :
    Coherent (nmAirvpnGeneratorFetchAsync c.uuid (getGeneratorParams c.sVpn) apiKey s) := by
  have hu := h.coherent.connection_uuid c hc
  have hlive : ∀ f ∈ s.fetches, f.cancelled ≠ false := fun f hf => by
    rw [h.cancelled f hf]
    decide
  exact
    { h.coherent with
      fetch_live := fun f hf hcf => by
        rcases List.mem_cons.mp hf with rfl | hf
        · rfl
        · exact absurd hcf (hlive f hf)
      fetch_request := fun f hf hcf => by
        rcases List.mem_cons.mp hf with rfl | hf
        · refine ⟨hu, fun c' hc' => ?_⟩
          cases hc.symm.trans hc'
          exact ⟨rfl, rfl⟩
        · exact absurd hcf (hlive f hf)
      fetch_phase := fun a ha => ⟨(Option.some.inj ha).symm, h.pid, h.fresh⟩
      fetch_bound := fun f hf => by
        rcases List.mem_cons.mp hf with rfl | hf
        · exact Nat.le_refl _
        · exact Nat.le_of_lt (hbound f hf)
      fetch_nodup := by
        refine List.nodup_cons.mpr ⟨fun hm => ?_, h.coherent.fetch_nodup⟩
        obtain ⟨f, hf, heq⟩ := List.mem_map.mp hm
        exact absurd heq (Nat.ne_of_lt (hbound f hf))
      idle := fun hn => by
        rw [show s.priv.uuid = none from hn] at hu
        cases hu }

/-- `run_openvpn` either leaves the attempt without a process or tracks the one
it has started. -/
theorem run (h : Ready s) (hpid : ∀ pid, env.spawn = .ok pid → pid ≠ 0)
    {r : Except GError Unit} (hr : RunOutcome cfg env s s' r) : Coherent s' := by
  cases hr with
  | noBinary e => exact h.coherent
  | notArmed e _ => exact { h.coherent with }
  | notSpawned e _ => exact { h.coherent with }
  | @spawned openvpn pid table active effects _ hs =>
      have hc := h.coherent
      have hne := hpid pid hs
      have hpos := hc.attempt_pos h.uuid
      have hcancellable : (supersededPriv s.priv).fetchCancellable = none := h.cancellable
      rw [hc.clearedTimers_eq]
      exact
        { fetch_live := hc.fetch_live
          fetch_request := hc.fetch_request
          fetch_phase := fun a ha => by
            rw [hcancellable] at ha
            cases ha
          fetch_bound := hc.fetch_bound
          fetch_nodup := hc.fetch_nodup
          timers_eq := (if_neg (Nat.ne_of_gt hpos)).symm
          timer_phase := fun _ => ⟨rfl, hne⟩
          tracked := fun _ => ⟨_, List.mem_cons_self, rfl, rfl, by simp [child]⟩
          proc_bound := fun p hp => by
            rcases List.mem_cons.mp hp with rfl | hp
            · exact Nat.le_refl _
            · exact hc.proc_bound p hp
          proc_nodup := by
            refine List.nodup_cons.mpr ⟨fun hm => ?_, hc.proc_nodup⟩
            obtain ⟨p, hp, heq⟩ := List.mem_map.mp hm
            exact h.fresh p hp heq
          proc_current := fun p hp ha hu => by
            rcases List.mem_cons.mp hp with rfl | hp
            · exact ⟨rfl, fun _ hc' => hc'⟩
            · exact absurd ha (h.fresh p hp)
          proc_uuid := fun p hp => by
            rcases List.mem_cons.mp hp with rfl | hp
            · exact h.uuid
            · exact hc.proc_uuid p hp
          connection_uuid := hc.connection_uuid
          idle := fun hn => by
            have := h.uuid
            rw [show s.priv.uuid = none from hn] at this
            cases this
          attempt_pos := hc.attempt_pos
          reached_bound := hc.reached_bound
          started_iff := hc.started_iff }

/-- The completion of a live fetch leaves the attempt with nothing pending. -/
theorem finishFetch (h : Coherent s) {f : Fetch} (hf : f ∈ s.fetches)
    (hc : f.cancelled = false) :
    Ready (clearFetchCancellable
      { s with fetches := s.fetches.filter (·.attempt ≠ f.attempt) }) := by
  have hlive := h.fetch_live f hf hc
  have hphase := h.fetch_phase _ hlive
  have hdead : ∀ g ∈ s.fetches.filter (·.attempt ≠ f.attempt), g.cancelled ≠ false := by
    intro g hg hcg
    obtain ⟨hg, hne⟩ := List.mem_filter.mp hg
    have := h.fetch_unique hg hf hcg hc
    simp [this] at hne
  refine ⟨?_, hphase.2.1, rfl, hphase.2.2,
    by simp [clearFetchCancellable, (h.fetch_request f hf hc).1]⟩
  exact
    { h with
      fetch_live := fun g hg hcg => absurd hcg (hdead g hg)
      fetch_request := fun g hg hcg => absurd hcg (hdead g hg)
      fetch_phase := fun a ha => by cases ha
      fetch_bound := fun g hg => h.fetch_bound g (List.mem_of_mem_filter hg)
      fetch_nodup := h.fetch_nodup.sublist (List.filter_sublist.map _)
      idle := fun hu => ⟨(h.idle hu).1, rfl⟩ }

theorem dropFetch (h : Coherent s) (a : Nat) :
    Coherent { s with fetches := s.fetches.filter (·.attempt ≠ a) } :=
  { h with
    fetch_live := fun g hg => h.fetch_live g (List.mem_of_mem_filter hg)
    fetch_request := fun g hg => h.fetch_request g (List.mem_of_mem_filter hg)
    fetch_bound := fun g hg => h.fetch_bound g (List.mem_of_mem_filter hg)
    fetch_nodup := h.fetch_nodup.sublist (List.filter_sublist.map _) }

theorem afterRun {r : Daemon × Except GError Unit} (h : Coherent r.1) : Coherent (afterRun r) := by
  rw [afterRun_eq]
  exact { h with }

theorem fetchDone (h : Coherent s) {f : Fetch} {result : FetchResult} (hf : f ∈ s.fetches)
    (hpid : ∀ pid, env.spawn = .ok pid → pid ≠ 0)
    (ho : FetchOutcome cfg env f result
      { s with fetches := s.fetches.filter (·.attempt ≠ f.attempt) } s') : Coherent s' := by
  cases ho with
  | cancelled _ => exact h.dropFetch _
  | abandoned hc _ => exact (h.finishFetch hf hc).coherent
  | notStored hc _ _ _ => exact { (h.finishFetch hf hc).coherent with }
  | stored hc _ _ _ _ hr => exact (run ((h.finishFetch hf hc).congr _ _) hpid hr).afterRun
  | noProfile _ hc _ => exact { (h.finishFetch hf hc).coherent with }
  | fallback hc _ _ _ hr => exact (run (h.finishFetch hf hc) hpid hr).afterRun

theorem request (h : Coherent s) {c : NMConnection} {r : Except GError Unit}
    (hpid : ∀ pid, env.spawn = .ok pid → pid ≠ 0)
    (ho : RequestOutcome cfg env c s s' r) : Coherent s' := by
  cases ho with
  | rejected _ => exact h
  | stopped _ _ _ => exact h.begun cfg c
  | fetching apiKey _ _ =>
      refine startFetch (h.begun_ready cfg c) (by rw [begun_eq]) ?_ apiKey
      intro f hf
      have hb := (h.cleanup cfg).fetch_bound f hf
      have hc : (cleanupPlugin cfg s).attempt = s.attempt := by rw [cleanupPlugin_eq]
      have ha : (Service.begun cfg c s).attempt = s.attempt + 1 := by rw [begun_eq]
      omega
  | ran _ _ hr => exact run (h.begun_ready cfg c) hpid hr

theorem stateChange (h : Coherent s) (state : NMVpnServiceState) :
    Coherent (nmVpnServicePluginSetState state s) := by
  by_cases hs : s.svc = state
  · rw [setState_same hs]
    exact h
  rw [setState_new hs, h.clearedTimers_eq]
  by_cases hstarting : state = .starting
  · subst hstarting
    exact { h with }
  have hr := h.releaseTimer
  by_cases hstarted : state = .started
  · subst hstarted
    exact
      { hr with
        reached_bound := fun a ha => by
          cases hu : s.priv.uuid <;> simp only [hu, decide_true, Option.isSome_none,
            Option.isSome_some, Bool.and_false, Bool.and_true, Bool.false_eq_true, ↓reduceIte,
            List.mem_cons] at ha
          · exact h.reached_bound a ha
          · rcases ha with rfl | ha
            · exact Nat.le_refl _
            · exact h.reached_bound a ha
        started_iff := fun hu => by
          have hu : s.priv.uuid.isSome = true := hu
          simp [statePriv, hu] }
  · have hp : statePriv state s.priv = { s.priv with connectTimer := 0, connection := none } := by
      cases state <;> first | rfl | exact absurd rfl hstarting | exact absurd rfl hstarted
    simp only [hp, hstarting, hstarted, ↓reduceIte, decide_false, Bool.false_and]
    exact
      { hr with
        fetch_request := fun f hf hcf =>
          ⟨(h.fetch_request f hf hcf).1, fun c hc => by cases hc⟩
        proc_current := fun p hm ha hu => ⟨(h.proc_current p hm ha hu).1, fun c hc => by cases hc⟩
        connection_uuid := fun c hc => by cases hc }

theorem disconnect (h : Coherent s) (cfg : Config) (env : Env) :
    Coherent (nmVpnServicePluginDisconnect cfg env s) := by
  cases hs : svcActive s with
  | false =>
      rw [disconnect_inactive hs]
      exact h
  | true =>
      have hc := h.cleanup cfg
      rw [cleanupPlugin_eq] at hc
      rw [disconnect_active hs]
      exact { hc with }

/-- The watch of a child has run: whatever the plugin tracked before, it tracks
nothing while the exit is handled. -/
theorem watch (h : Coherent s) (a : Nat) (env : Env) :
    Coherent (Service.released env (s.setProc a .notified)) := by
  have hn := h.release.setState (fun p => p.attempt = a) .notified (fun hne => absurd rfl hne)
  have hw := (hn.setState (fun p => p.state = .zombie &&
    if s.priv.pid = 0 then env.waitAny = some p.attempt else p.pid = s.priv.pid) .reaped
    (fun _ => by decide))
  have ht : clearedTimers (s.setProc a .notified) = [] := h.clearedTimers_eq
  unfold Service.released
  rw [ht]
  exact hw

theorem watchCb (h : Coherent s) (a : Nat) (cfg : Config) (env : Env) (status : WaitStatus) :
    Coherent (openvpnWatchCb cfg env status (s.setProc a .notified)) := by
  have hw := h.watch a env
  rw [watch_eq]
  split
  · split
    · exact { hw with }
    · exact { hw with }
  · exact hw.disconnect cfg env

theorem timeoutCb (h : Coherent s) {timer : Nat} (ht : timer ∈ s.timers) (cfg : Config)
    (env : Env) :
    Coherent (connectTimeoutCb cfg env { s with timers := s.timers.filter (· ≠ timer) }) := by
  have htimers : s.timers.filter (· ≠ timer) = [] := by
    rw [h.timers_eq] at ht ⊢
    split at ht
    · cases ht
    · rw [List.mem_singleton.mp ht]
      simp
  rw [timeout_eq, htimers]
  split
  · exact h.releaseTimer
  · have hk := h.releaseTimer.cleanedProcs
    exact { hk with }

end Coherent

/-! ## Every reachable state -/

theorem spawnFeasible_pid {env : Env} {s : Daemon} (h : s.spawnFeasible env = true) :
    ∀ pid, env.spawn = .ok pid → pid ≠ 0 ∧ s.pidExists pid = false := by
  intro pid hs
  simpa [spawnFeasible, hs, freshPid] using h

theorem coherent_step {cfg : Config} {s s' : Daemon} {e : Event} (h : Coherent s)
    (hs : step cfg s e = some s') : Coherent s' := by
  have hq := h.quiet
  cases step_cases hs with
  | request _ _ hf ho _ =>
      have hr := hq.request (fun pid hp => (spawnFeasible_pid hf pid hp).1) ho
      exact { hr with }
  | disconnect env => exact hq.disconnect cfg env
  | stateChange state => exact hq.stateChange state
  | fetchDone result hm ha hf ho =>
      subst ha
      exact hq.fetchDone hm (fun pid hp => (spawnFeasible_pid hf pid hp).1) ho
  | childExits hm _ => exact hq.setState _ _ (fun _ => by decide)
  | childReaped hm _ => exact hq.setState _ _ (fun _ => by decide)
  | childWatch status env hm _ => exact hq.watchCb _ cfg env status
  | connectTimeout env ht => exact hq.timeoutCb ht cfg env
  | @killTimeout pid _ =>
      have hk := hq.signal pid .kill
      rw [kill_eq]
      exact { hk with }
  | otherStarts _ => exact { h with }
  | otherEnds _ => exact { h with }
  | dispose => exact hq.cleanup cfg

theorem coherent_boot (cfg : Config) (left : Leftover) : Coherent (boot cfg left) := by
  rw [boot_eq]
  constructor <;> simp [initPriv]

theorem coherent_inductive (cfg : Config) (left : Leftover) :
    Machine.Inductive (step cfg) (boot cfg left) Coherent :=
  ⟨coherent_boot cfg left, coherent_step⟩

end AirVpn.Service
