import AirVpn.Service.Launches
import Mathlib.Algebra.GroupWithZero.Nat
import Mathlib.Algebra.Order.BigOperators.Group.List
import Mathlib.Algebra.Order.Group.Nat

/-! # Left to itself, the daemon comes to rest

Fetches complete, children die and are waited for, timers fire: each of these uses up
what it came from, and what it starts is less. So between two requests only so much can
happen, and what is left then is a plugin that waits for nothing.
-/

namespace AirVpn.Service

open Daemon Machine

variable {cfg : Config} {env : Env} {s s' : Daemon}

/-! ## Work -/

/-- Neither a request, nor a state change of libnm, nor anything of other programs. -/
def Event.internal : Event → Bool
  | .fetchDone _ _ _ | .childExits _ | .childReaped _ | .childWatch _ _ _
  | .connectTimeout _ _ | .killTimeout _ => true
  | _ => false

theorem request_of_internal {e : Event} (h : e.internal = true) : e.request = none := by
  cases e <;> first | rfl | cases h

def ProcState.pending : ProcState → Nat
  | .running => 3
  | .zombie => 2
  | .reaped => 1
  | .notified => 0

def pendingExits (procs : List Proc) : Nat := (procs.map (·.state.pending)).sum

/-- What is left to happen: a fetch may start a child and a timer. -/
def work (s : Daemon) : Nat :=
  5 * s.fetches.length + pendingExits s.procs + s.timers.length + s.killTimers.length

theorem pendingExits_setProcState_le {which : Proc → Bool} {state : ProcState} {procs : List Proc}
    (h : ∀ p ∈ procs, which p = true → state.pending ≤ p.state.pending) :
    pendingExits (setProcState which state procs) ≤ pendingExits procs := by
  unfold pendingExits setProcState
  rw [List.map_map]
  refine List.sum_le_sum fun p hp => ?_
  show (if which p then _ else p : Proc).state.pending ≤ _
  split
  · next hw => exact h p hp hw
  · exact Nat.le_refl _

theorem pendingExits_setProcState_lt {which : Proc → Bool} {state : ProcState} {procs : List Proc}
    (h : ∀ p ∈ procs, which p = true → state.pending < p.state.pending) {d : Proc}
    (hd : d ∈ procs) (hw : which d = true) :
    pendingExits (setProcState which state procs) < pendingExits procs := by
  unfold pendingExits setProcState
  rw [List.map_map]
  refine List.sum_lt_sum _ _ (fun p hp => ?_) ⟨d, hd, ?_⟩
  · show (if which p then _ else p : Proc).state.pending ≤ _
    split
    · next hw => exact Nat.le_of_lt (h p hp hw)
    · exact Nat.le_refl _
  · show (if which d then _ else d : Proc).state.pending < _
    rw [if_pos hw]
    exact h d hd hw

theorem pendingExits_setProc_lt (h : Coherent s) {p : Proc} (hp : p ∈ s.procs) (state : ProcState)
    (hless : state.pending < p.state.pending) :
    pendingExits (s.setProc p.attempt state).procs < pendingExits s.procs :=
  pendingExits_setProcState_lt
    (fun q hq hw => by rwa [h.proc_unique hq hp (of_decide_eq_true hw)]) hp (by simp)

theorem pendingExits_signalProcs (pid : Nat) (signal : Signal) (procs : List Proc) :
    pendingExits (signalProcs pid signal procs) = pendingExits procs := by
  unfold pendingExits signalProcs
  rw [List.map_map]
  refine congrArg List.sum (List.map_congr_left fun p _ => ?_)
  show (if _ then _ else p : Proc).state.pending = _
  split <;> rfl

theorem pendingExits_cleanedProcs (s : Daemon) :
    pendingExits (cleanedProcs s) = pendingExits s.procs := by
  unfold cleanedProcs
  split
  · rfl
  · exact pendingExits_signalProcs _ _ _

theorem length_clearedTimers_le (s : Daemon) : (clearedTimers s).length ≤ s.timers.length := by
  unfold clearedTimers
  split
  · exact Nat.le_refl _
  · exact List.length_filter_le _ _

/-! ## Each internal event uses something up -/

theorem RunOutcome.work_le {r : Except GError Unit} (hr : RunOutcome cfg env s s' r) :
    work s' ≤ work s + 4 := by
  cases hr with
  | noBinary _ => exact Nat.le_add_right _ _
  | notArmed _ _ => exact Nat.le_add_right _ _
  | notSpawned _ _ => exact Nat.le_add_right _ _
  | @spawned openvpn pid _ _ _ _ _ =>
      have htimers := length_clearedTimers_le s
      have hchild : pendingExits (child cfg env openvpn pid s :: s.procs) =
          3 + pendingExits s.procs := List.sum_cons
      simp only [work, hchild, List.length_cons]
      omega

theorem FetchOutcome.work_le {f : Fetch} {result : FetchResult}
    (ho : FetchOutcome cfg env f result s s') : work s' ≤ work s + 4 := by
  have afterRun : ∀ r : Daemon × Except GError Unit, work (afterRun r) = work r.1 := fun r => by
    rw [afterRun_eq]
    rfl
  cases ho with
  | cancelled _ => exact Nat.le_add_right _ _
  | abandoned _ _ => exact Nat.le_add_right _ _
  | notStored _ _ _ _ => exact Nat.le_add_right _ _
  | stored _ _ _ _ _ hr =>
      rw [afterRun]
      exact hr.work_le
  | noProfile _ _ _ => exact Nat.le_add_right _ _
  | fallback _ _ _ _ hr =>
      rw [afterRun]
      exact hr.work_le

theorem work_disconnect_le (cfg : Config) (env : Env) (h : s.priv.pid = 0) :
    work (nmVpnServicePluginDisconnect cfg env s) ≤ work s := by
  cases hs : svcActive s with
  | false => rw [disconnect_inactive hs]
  | true =>
      have htimers := length_clearedTimers_le s
      have hkill : cleanedKillTimers s = s.killTimers := by simp [cleanedKillTimers, h]
      rw [disconnect_active hs]
      simp only [work, pendingExits_cleanedProcs, hkill, cancelFetches, List.length_map]
      omega

theorem work_watch_le (cfg : Config) (env : Env) (status : WaitStatus) (s : Daemon) :
    work (openvpnWatchCb cfg env status s) ≤ work s := by
  have hreleased : work (released env s) ≤ work s := by
    have htimers := length_clearedTimers_le s
    have hprocs : pendingExits (s.waitpid s.priv.pid env.waitAny).procs ≤ pendingExits s.procs :=
      pendingExits_setProcState_le fun p _ hw => by
        simp only [Bool.and_eq_true, decide_eq_true_eq] at hw
        rw [hw.1]
        decide
    have hfetches : (released env s).fetches = s.fetches := rfl
    have hkill : (released env s).killTimers = s.killTimers := rfl
    change 5 * (released env s).fetches.length +
      pendingExits (s.waitpid s.priv.pid env.waitAny).procs + (clearedTimers s).length +
        (released env s).killTimers.length ≤ work s
    unfold work
    rw [hfetches, hkill]
    omega
  rw [watch_eq]
  split
  · split
    · exact hreleased
    · exact hreleased
  · exact Nat.le_trans (work_disconnect_le cfg env rfl) hreleased

theorem internal_less {e : Event} (h : Coherent s) (hinternal : e.internal = true)
    (hs : step cfg s e = some s') : work s' < work s := by
  cases step_cases hs with
  | request _ he _ _ _ => cases he.symm.trans (request_of_internal hinternal)
  | @fetchDone a result env f _ hf ha _ ho =>
      have hle := ho.work_le
      have hfilter : (s.fetches.filter (·.attempt ≠ a)).length < s.fetches.length :=
        List.length_filter_lt_length_iff_exists.mpr ⟨f, hf, by simpa using ha⟩
      simp only [work, quiet] at hle ⊢
      omega
  | @childExits p hp hstate =>
      have hless := pendingExits_setProc_lt h hp (.zombie) (by rw [hstate]; decide)
      simp only [work, quiet, setProc] at hless ⊢
      omega
  | @childReaped p hp hstate =>
      have hless := pendingExits_setProc_lt h hp (.reaped) (by rw [hstate]; decide)
      simp only [work, quiet, setProc] at hless ⊢
      omega
  | @childWatch p status env hp hstate =>
      have hless := pendingExits_setProc_lt h hp (.notified) (by rw [hstate]; decide)
      have hle := work_watch_le cfg env status ((quiet s).setProc p.attempt .notified)
      simp only [work, quiet, setProc] at hless hle ⊢
      omega
  | @connectTimeout timer env ht =>
      have hfilter : (s.timers.filter (· ≠ timer)).length < s.timers.length :=
        List.length_filter_lt_length_iff_exists.mpr ⟨timer, ht, by simp⟩
      rw [timeout_eq]
      split
      · simp only [work, quiet] at hfilter ⊢
        omega
      · simp only [work, quiet, pendingExits_cleanedProcs] at hfilter ⊢
        omega
  | @killTimeout pid hp =>
      have herase := List.length_erase_of_mem hp
      have hpos := List.length_pos_of_mem hp
      rw [kill_eq]
      simp only [work, quiet, pendingExits_signalProcs] at herase ⊢
      omega
  | _ => cases hinternal

theorem internal_usesUp (cfg : Config) :
    UsesUp (step cfg) Coherent (fun e => e.internal = true) work :=
  ⟨fun h _ hs => coherent_step h hs, internal_less⟩

/-! ## What the plugin waits for -/

def Awaited (s : Daemon) : Prop :=
  ∀ a, s.priv.fetchCancellable = some a → ∃ f ∈ s.fetches, f.attempt = a ∧ f.cancelled = false

theorem Awaited.of_none (h : s.priv.fetchCancellable = none) : Awaited s := fun a ha => by
  rw [h] at ha
  cases ha

theorem Awaited.disconnect (h : Awaited s) (env : Env) :
    Awaited (nmVpnServicePluginDisconnect cfg env s) := by
  cases hs : svcActive s with
  | false => rwa [disconnect_inactive hs]
  | true =>
      rw [disconnect_active hs]
      exact .of_none rfl

theorem RequestOutcome.awaited {c : NMConnection} {r : Except GError Unit} (h : Awaited s)
    (ho : RequestOutcome cfg env c s s' r) : Awaited s' := by
  have hbegun : (begun cfg c s).priv.fetchCancellable = none := by
    rw [begun_eq]
    rfl
  cases ho with
  | rejected _ => exact h
  | stopped _ _ _ => exact .of_none hbegun
  | fetching apiKey _ _ => exact fun a ha => ⟨_, List.mem_cons_self, Option.some.inj ha, rfl⟩
  | ran _ _ hr => exact .of_none (hr.cancellable.trans hbegun)

theorem FetchOutcome.awaited (hc : Coherent s) (h : Awaited s) {f : Fetch} {result : FetchResult}
    (hf : f ∈ s.fetches) (ho : FetchOutcome cfg env f result
      { quiet s with fetches := s.fetches.filter (·.attempt ≠ f.attempt) } s') : Awaited s' := by
  cases ho with
  | cancelled hcancelled =>
      intro a ha
      obtain ⟨g, hg, hga, hgc⟩ := h a ha
      refine ⟨g, List.mem_filter.mpr ⟨hg, ?_⟩, hga, hgc⟩
      have hne : g.attempt ≠ f.attempt := fun heq => by
        rw [List.inj_on_of_nodup_map hc.fetch_nodup hg hf heq, hcancelled] at hgc
        cases hgc
      simpa using hne
  | abandoned _ _ => exact .of_none rfl
  | notStored _ _ _ _ => exact .of_none rfl
  | stored _ _ _ _ _ hr =>
      rw [afterRun_eq]
      exact .of_none hr.cancellable
  | noProfile _ _ _ => exact .of_none rfl
  | fallback _ _ _ _ hr =>
      rw [afterRun_eq]
      exact .of_none hr.cancellable

theorem awaited_step {e : Event} (hc : Coherent s) (h : Awaited s)
    (hs : step cfg s e = some s') : Awaited s' := by
  have hq : Awaited (quiet s) := h
  cases step_cases hs with
  | request _ _ _ ho _ =>
      have hr := ho.awaited hq
      exact hr
  | disconnect env => exact hq.disconnect env
  | stateChange state =>
      by_cases hsame : (quiet s).svc = state
      · rwa [setState_same hsame]
      · rw [setState_new hsame]
        cases state <;> exact h
  | fetchDone _ hf ha _ ho =>
      subst ha
      exact ho.awaited hc h hf
  | childExits _ _ => exact h
  | childReaped _ _ => exact h
  | @childWatch p status env _ _ =>
      have hreleased : Awaited (released env ((quiet s).setProc p.attempt .notified)) := h
      rw [watch_eq]
      split
      · split <;> exact h
      · exact hreleased.disconnect env
  | connectTimeout env _ =>
      rw [timeout_eq]
      split <;> exact h
  | killTimeout _ =>
      rw [kill_eq]
      exact h
  | otherStarts _ => exact h
  | otherEnds _ => exact h
  | dispose =>
      rw [cleanupPlugin_eq]
      exact .of_none rfl

/-! ## At rest -/

def Drained (cfg : Config) (s : Daemon) : Prop := ∀ e, e.internal = true → step cfg s e = none

/-- The exit of every child has been handled, no callback is pending, and the plugin
waits for none. -/
structure Settled (s : Daemon) : Prop where
  fetches : s.fetches = []
  exits : ∀ p ∈ s.procs, p.state = .notified
  timers : s.timers = []
  killTimers : s.killTimers = []
  pid : s.priv.pid = 0
  connectTimer : s.priv.connectTimer = 0
  fetchCancellable : s.priv.fetchCancellable = none

def idleEnv : Env := { sampleEnv (.error ⟨.spawnError, "no process"⟩) with now := 0 }

theorem Drained.fetches (h : Drained cfg s) : s.fetches = [] := by
  refine List.eq_nil_iff_forall_not_mem.mpr fun f hf => ?_
  have hnone := h (.fetchDone f.attempt (.failed "") idleEnv) rfl
  have hfind : s.fetches.find? (·.attempt = f.attempt) = none := by
    simpa [step, react, spawnFeasible, idleEnv, sampleEnv] using hnone
  exact absurd (List.find?_eq_none.mp hfind f hf) (by simp)

theorem Drained.exits (h : Drained cfg s) {p : Proc} (hp : p ∈ s.procs) :
    p.state = .notified := by
  have hother : ∀ state, s.hasProc p.attempt state = false → p.state ≠ state := by
    intro state hno heq
    have hhas : s.hasProc p.attempt state = true :=
      List.any_eq_true.mpr ⟨p, hp, by simp [heq]⟩
    rw [hno] at hhas
    cases hhas
  have hrunning := h (.childExits p.attempt) rfl
  have hzombie := h (.childReaped p.attempt) rfl
  have hreaped := h (.childWatch p.attempt .unknown idleEnv) rfl
  simp only [step, react, ite_eq_right_iff, reduceCtorEq, imp_false, Bool.not_eq_true]
    at hrunning hzombie hreaped
  cases hstate : p.state with
  | notified => rfl
  | running => exact absurd hstate (hother .running hrunning)
  | zombie => exact absurd hstate (hother .zombie hzombie)
  | reaped => exact absurd hstate (hother .reaped hreaped)

theorem Drained.settled (h : Drained cfg s) (hc : Coherent s) (ha : Awaited s) : Settled s := by
  have htimers : s.timers = [] := by
    refine List.eq_nil_iff_forall_not_mem.mpr fun timer ht => ?_
    have hnone := h (.connectTimeout timer idleEnv) rfl
    simp [step, react, ht] at hnone
  have hkill : s.killTimers = [] := by
    refine List.eq_nil_iff_forall_not_mem.mpr fun pid hp => ?_
    have hnone := h (.killTimeout pid) rfl
    simp [step, react, hp] at hnone
  have hpid : s.priv.pid = 0 := by
    by_contra hne
    obtain ⟨p, hp, htracked⟩ := hc.tracked hne
    exact htracked.pending (h.exits hp)
  refine ⟨h.fetches, fun p hp => h.exits hp, htimers, hkill, hpid, hc.timer_zero hpid, ?_⟩
  cases hcancellable : s.priv.fetchCancellable with
  | none => rfl
  | some a =>
      obtain ⟨f, hf, -⟩ := ha a hcancellable
      rw [h.fetches] at hf
      cases hf

structure Settles (cfg : Config) (s : Daemon) : Prop where
  bounded : ∀ es, (∀ e ∈ es, e.internal = true) → (run (step cfg) s es).length ≤ work s
  ends : ∃ es, (∀ e ∈ es, e.internal = true) ∧ Drained cfg (final (step cfg) s es)
  settled : ∀ es, Drained cfg (final (step cfg) s es) → Settled (final (step cfg) s es)

/-- From every reachable state only so many internal events can happen, some of them
lead to where none can, and there the plugin waits for nothing. -/
theorem settles (cfg : Config) (left : Leftover) (events : List Event) :
    Settles cfg (final (step cfg) (boot cfg left) events) := by
  have hinv := (coherent_inductive cfg left).and (fun hc h hs => awaited_step hc h hs)
    (.of_none (by rw [boot_eq]; rfl))
  have hs := hinv.final events
  refine ⟨fun es hes => ?_, (internal_usesUp cfg).exists_end hs.1, fun es hdrained => ?_⟩
  · exact Nat.le_of_add_right_le ((internal_usesUp cfg).length_le hs.1 hes)
  · have hlater := (hinv.restart hs).final es
    exact hdrained.settled hlater.1 hlater.2

end AirVpn.Service
