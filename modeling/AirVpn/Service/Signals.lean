import AirVpn.Service.Children

/-! # Who is signalled

The plugin knows its process by a number only, and the kernel gives the number of
a process that has been waited for to another one. A signal finds the process it is
meant for as long as nobody else has taken the number over, and this is the exact
condition.
-/

namespace AirVpn.Service

open Daemon Machine

variable {cfg : Config} {env : Env} {s s' : Daemon}

/-! ## The signals of a step -/

/-- The event makes a handler signal the tracked process. -/
def signalsTracked (s : Daemon) : Event → Bool
  | .connect c _ | .connectInteractive c _ | .newSecrets c _ => (validateConnection c).isOk
  | .disconnect _ => svcActive s
  | .connectTimeout _ _ => !s.priv.started
  | .dispose => true
  | _ => false

def sentSignals (s : Daemon) : Event → List Effect
  | .killTimeout pid => killEffects pid .kill s
  | e => if signalsTracked s e then cleanedEffects s else []

theorem isOk_iff {x : Except GError Unit} : x.isOk = true ↔ x = .ok () := by
  cases x <;> simp [Except.isOk, Except.toBool]

theorem RunOutcome.signalled_iff {r : Except GError Unit} {pid : Nat} {signal : Signal}
    {target : Option Nat} (h : RunOutcome cfg env s s' r) :
    .signalled pid signal target ∈ s'.effects ↔ .signalled pid signal target ∈ s.effects := by
  refine ⟨fun he => ?_, h.keeps⟩
  rcases h.effects he with he | hrun
  · exact he
  · cases hrun

theorem begun_signals (cfg : Config) (c : NMConnection) (s : Daemon) :
    (begun cfg c (quiet s)).effects = cleanedEffects s := by
  rw [begun_eq]
  exact List.append_nil _

theorem RequestOutcome.signalled_iff {c : NMConnection} {r : Except GError Unit} {pid : Nat}
    {signal : Signal} {target : Option Nat} (h : RequestOutcome cfg env c (quiet s) s' r) :
    .signalled pid signal target ∈ s'.effects ↔
      validateConnection c = .ok () ∧ .signalled pid signal target ∈ cleanedEffects s := by
  have hbegun := begun_signals cfg c s
  cases h with
  | rejected hv => simp [hv, quiet]
  | stopped _ hv _ => simp [hv, hbegun]
  | fetching _ hv _ => simp [hv, nmAirvpnGeneratorFetchAsync, hbegun]
  | ran hv _ hr => rw [hr.signalled_iff, hbegun]; simp [hv]

theorem disconnect_signalled_iff {pid : Nat} {signal : Signal} {target : Option Nat}
    (hno : .signalled pid signal target ∉ s.effects) :
    .signalled pid signal target ∈ (nmVpnServicePluginDisconnect cfg env s).effects ↔
      svcActive s = true ∧ .signalled pid signal target ∈ cleanedEffects s := by
  cases hs : svcActive s with
  | false =>
      rw [disconnect_inactive hs]
      simpa using hno
  | true =>
      rw [disconnect_active hs]
      simp [mem_markEffects, hno]

theorem step_signalled_iff {e : Event} (hs : step cfg s e = some s') {pid : Nat} {signal : Signal}
    {target : Option Nat} :
    .signalled pid signal target ∈ s'.effects ↔
      .signalled pid signal target ∈ sentSignals s e := by
  have silent : mayEmit e (.signalled pid signal target) = false → sentSignals s e = [] →
      (.signalled pid signal target ∈ s'.effects ↔
        .signalled pid signal target ∈ sentSignals s e) := by
    intro hno hsent
    have hnot : .signalled pid signal target ∉ s'.effects := fun he => by
      simp [step_effects hs he] at hno
    simp [hnot, hsent]
  cases step_cases hs with
  | @request _ c env r _ hreq _ ho _ =>
      have hsent : .signalled pid signal target ∈ sentSignals s e ↔
          validateConnection c = .ok () ∧ .signalled pid signal target ∈ cleanedEffects s := by
        rw [← isOk_iff]
        cases e <;> cases hreq <;> exact List.mem_ite_nil_right
      rw [hsent, ← ho.signalled_iff]
      simp
  | disconnect env =>
      rw [disconnect_signalled_iff (by simp [quiet])]
      exact List.mem_ite_nil_right.symm
  | stateChange state => exact silent (by cases state <;> rfl) rfl
  | fetchDone _ _ _ _ _ => exact silent rfl rfl
  | childExits _ _ => exact silent rfl rfl
  | childReaped _ _ => exact silent rfl rfl
  | @childWatch p status env _ _ =>
      -- the number has been let go of before the disconnect
      have hnone : cleanedEffects (released env ((quiet s).setProc p.attempt .notified)) = [] := rfl
      have hsent : sentSignals s (.childWatch p.attempt status env) = [] := rfl
      rw [watch_eq, hsent]
      cases status.abnormal with
      | false =>
          rw [if_neg (by decide),
            disconnect_signalled_iff (by simp [released, quiet, waitpid, setProc]), hnone]
          simp
      | true =>
          rw [if_pos rfl]
          split <;> simp [quiet, setProc, mem_markEffects]
  | @connectTimeout timer env _ =>
      have hsent : sentSignals s (.connectTimeout timer env) =
          if !s.priv.started then cleanedEffects s else [] := rfl
      rw [timeout_eq, hsent]
      cases hst : s.priv.started with
      | true => simp [quiet, hst]
      | false =>
          rw [if_neg (by simp [quiet, hst])]
          simp [quiet, mem_markEffects]
          rfl
  | killTimeout _ =>
      rw [kill_eq]
      exact (List.mem_append.trans (or_iff_left (by simp [quiet])))
  | otherStarts _ => exact silent rfl rfl
  | otherEnds _ => exact silent rfl rfl
  | dispose =>
      rw [cleanupPlugin_eq]
      exact (List.mem_append.trans (or_iff_left (by simp [quiet])))

/-! ## Whose number it is -/

/-- Nobody shares the number of a child that has not been waited for, and the
tracked number is that of the current attempt or of no child. -/
structure Numbered (s : Daemon) : Prop where
  apart : ∀ p ∈ s.procs, p.unreaped = true → p.pid ∉ s.others
  distinct : ∀ p ∈ s.procs, ∀ q ∈ s.procs, p.unreaped = true → q.unreaped = true →
    p.pid = q.pid → p.attempt = q.attempt
  tracked : s.priv.pid ≠ 0 → ∀ p ∈ s.procs, p.unreaped = true → p.pid = s.priv.pid →
    p.attempt = s.attempt

def NoneBorn (s s' : Daemon) : Prop :=
  ∀ p' ∈ s'.procs, p'.unreaped = true → ∃ p ∈ s.procs, Later p p' ∧ p.unreaped = true

theorem NoneBorn.refl (h : s'.procs = s.procs) : NoneBorn s s' :=
  fun p hp hu => ⟨p, h ▸ hp, .refl p, hu⟩

theorem NoneBorn.trans {s'' : Daemon} (h : NoneBorn s s') (h' : NoneBorn s' s'') :
    NoneBorn s s'' := by
  intro p'' hp'' hu''
  obtain ⟨p', hp', hl', hu'⟩ := h' p'' hp'' hu''
  obtain ⟨p, hp, hl, hu⟩ := h p' hp' hu'
  exact ⟨p, hp, hl.trans hl', hu⟩

theorem noneBorn_of_cleaned (h : s'.procs = cleanedProcs s) : NoneBorn s s' := by
  intro p' hp' hu
  rw [h] at hp'
  obtain ⟨p, hp, hl, hstate⟩ := later_of_cleanedProcs hp'
  exact ⟨p, hp, hl, by simpa [Proc.unreaped, hstate] using hu⟩

theorem noneBorn_of_signalProcs {pid : Nat} {signal : Signal}
    (h : s'.procs = signalProcs pid signal s.procs) : NoneBorn s s' := by
  intro p' hp' hu
  rw [h] at hp'
  obtain ⟨p, hp, hl, hstate⟩ := later_of_signalProcs hp'
  exact ⟨p, hp, hl, by simpa [Proc.unreaped, hstate] using hu⟩

theorem noneBorn_of_setProcState {which : Proc → Bool} {state : ProcState}
    (hwhich : state = .zombie → ∀ p ∈ s.procs, which p = true → p.unreaped = true)
    (hstate : state ≠ .running) (h : s'.procs = setProcState which state s.procs) :
    NoneBorn s s' := by
  intro p' hp' hu
  rw [h] at hp'
  obtain ⟨p, hp, rfl⟩ := mem_setProcState.mp hp'
  by_cases hw : which p = true
  · rw [if_pos hw] at hu ⊢
    refine ⟨p, hp, ⟨rfl, rfl, rfl, rfl, rfl⟩, hwhich ?_ p hp hw⟩
    cases state <;> first | rfl | exact absurd rfl hstate | cases hu
  · rw [if_neg hw] at hu ⊢
    exact ⟨p, hp, .refl p, hu⟩

theorem Numbered.mono (h : Numbered s) (hborn : NoneBorn s s')
    (hothers : ∀ pid ∈ s'.others, pid ∈ s.others ∨ s.pidExists pid = false)
    (hpid : s'.priv.pid = 0 ∨ s'.priv.pid = s.priv.pid ∧ s'.attempt = s.attempt) :
    Numbered s' := by
  refine ⟨fun p' hp' hu' hmem => ?_, fun p' hp' q' hq' hu' hv' heq => ?_,
    fun hne p' hp' hu' heq => ?_⟩
  · obtain ⟨p, hp, hl, hu⟩ := hborn p' hp' hu'
    rw [hl.pid] at hmem
    rcases hothers _ hmem with hold | hfree
    · exact h.apart p hp hu hold
    · simp only [pidExists, Bool.or_eq_false_iff, List.any_eq_false] at hfree
      exact hfree.1 p hp (by simp [hu])
  · obtain ⟨p, hp, hlp, hu⟩ := hborn p' hp' hu'
    obtain ⟨q, hq, hlq, hv⟩ := hborn q' hq' hv'
    rw [hlp.attempt, hlq.attempt]
    exact h.distinct p hp q hq hu hv (by rw [← hlp.pid, heq, hlq.pid])
  · obtain ⟨p, hp, hl, hu⟩ := hborn p' hp' hu'
    rcases hpid with hzero | ⟨hsame, hattempt⟩
    · exact absurd hzero hne
    · rw [hl.attempt, hattempt]
      exact h.tracked (hsame ▸ hne) p hp hu (by rw [← hl.pid, heq, hsame])

theorem Numbered.run {r : Except GError Unit} (h : Numbered s) (hpid : s.priv.pid = 0)
    (hfresh : ∀ pid, env.spawn = .ok pid → s.pidExists pid = false)
    (hr : RunOutcome cfg env s s' r) : Numbered s' := by
  have same : ∀ {s' : Daemon}, s'.procs = s.procs → s'.others = s.others → s'.priv.pid = 0 →
      Numbered s' := fun hp ho hz => h.mono (.refl hp) (fun _ hm => .inl (ho ▸ hm)) (.inl hz)
  cases hr with
  | noBinary _ => exact h
  | notArmed _ _ => exact same rfl rfl hpid
  | notSpawned _ _ => exact same rfl rfl hpid
  | @spawned openvpn pid _ _ _ _ hspawn =>
      have hfree := hfresh pid hspawn
      simp only [pidExists, Bool.or_eq_false_iff, List.any_eq_false, List.contains_eq_mem,
        decide_eq_false_iff_not] at hfree
      have other : ∀ p ∈ s.procs, p.unreaped = true → p.pid ≠ pid := fun p hp hu heq =>
        hfree.1 p hp (by simp [heq, hu])
      refine ⟨fun p hp hu => ?_, fun p hp q hq hu hv heq => ?_, fun _ p hp hu heq => ?_⟩
      · rcases List.mem_cons.mp hp with rfl | hp
        · exact hfree.2
        · exact h.apart p hp hu
      · rcases List.mem_cons.mp hp with rfl | hp
        · rcases List.mem_cons.mp hq with rfl | hq
          · rfl
          · exact absurd heq.symm (other q hq hv)
        · rcases List.mem_cons.mp hq with rfl | hq
          · exact absurd heq (other p hp hu)
          · exact h.distinct p hp q hq hu hv heq
      · rcases List.mem_cons.mp hp with rfl | hp
        · rfl
        · exact absurd heq (other p hp hu)

theorem NoneBorn.not_exists (h : NoneBorn s s') (ho : s'.others = s.others) {pid : Nat}
    (hpid : s.pidExists pid = false) : s'.pidExists pid = false := by
  simp only [pidExists, Bool.or_eq_false_iff, List.any_eq_false, Bool.and_eq_true,
    decide_eq_true_eq, not_and] at hpid ⊢
  refine ⟨fun p' hp' heq hu => ?_, ho ▸ hpid.2⟩
  obtain ⟨p, hp, hl, hup⟩ := h p' hp' hu
  exact hpid.1 p hp (hl.pid.symm.trans heq) hup

theorem begun_numbered (h : Numbered s) (cfg : Config) (c : NMConnection) :
    Numbered (begun cfg c s) ∧ (begun cfg c s).priv.pid = 0 ∧
      ∀ pid, s.pidExists pid = false → (begun cfg c s).pidExists pid = false := by
  rw [begun_eq]
  have hborn : NoneBorn s (begun cfg c s) := noneBorn_of_cleaned (by rw [begun_eq])
  rw [begun_eq] at hborn
  exact ⟨h.mono hborn (fun _ hm => .inl hm) (.inl rfl), rfl, fun _ => hborn.not_exists rfl⟩

theorem Numbered.request {c : NMConnection} {r : Except GError Unit} (h : Numbered s)
    (hfresh : ∀ pid, env.spawn = .ok pid → s.pidExists pid = false)
    (ho : RequestOutcome cfg env c s s' r) : Numbered s' := by
  obtain ⟨hb, hpid, hfree⟩ := begun_numbered h cfg c
  cases ho with
  | rejected _ => exact h
  | stopped _ _ _ => exact hb
  | fetching _ _ _ => exact { hb with }
  | ran _ _ hr => exact hb.run hpid (fun pid hs => hfree pid (hfresh pid hs)) hr

theorem Numbered.disconnect (h : Numbered s) (cfg : Config) (env : Env) :
    Numbered (nmVpnServicePluginDisconnect cfg env s) := by
  cases hs : svcActive s with
  | false =>
      rw [disconnect_inactive hs]
      exact h
  | true =>
      rw [disconnect_active hs]
      exact h.mono (noneBorn_of_cleaned rfl) (fun _ hm => .inl hm) (.inl rfl)

theorem Numbered.fetchDone {f : Fetch} {result : FetchResult} {fs : List Fetch} (hc : Coherent s)
    (h : Numbered s) (hf : f ∈ s.fetches)
    (hfresh : ∀ pid, env.spawn = .ok pid → s.pidExists pid = false)
    (ho : FetchOutcome cfg env f result { quiet s with fetches := fs } s') : Numbered s' := by
  have hpid : f.cancelled = false → s.priv.pid = 0 := fun hlive =>
    (hc.fetch_phase _ (hc.fetch_live f hf hlive)).2.1
  have ran : ∀ {s₀ : Daemon} {r : Daemon × Except GError Unit}, RunOutcome cfg env s₀ r.1 r.2 →
      f.cancelled = false → s₀.procs = s.procs → s₀.others = s.others →
      s₀.priv.pid = s.priv.pid → Numbered (afterRun r) := by
    intro s₀ r hr hlive hprocs hothers hsame
    have hzero := hsame.trans (hpid hlive)
    have h₀ : Numbered s₀ := h.mono (.refl hprocs) (fun _ hm => .inl (hothers ▸ hm)) (.inl hzero)
    have hr' := h₀.run hzero (fun pid hs => by
      have hfree := hfresh pid hs
      unfold pidExists at hfree ⊢
      rw [hprocs, hothers]
      exact hfree) hr
    rw [afterRun_eq]
    exact { hr' with }
  cases ho with
  | cancelled _ => exact { h with }
  | abandoned _ _ => exact { h with }
  | notStored _ _ _ _ => exact { h with }
  | stored hlive _ _ _ _ hr => exact ran hr hlive rfl rfl rfl
  | noProfile _ _ _ => exact { h with }
  | fallback hlive _ _ _ hr => exact ran hr hlive rfl rfl rfl

theorem watch_others (cfg : Config) (env : Env) (status : WaitStatus) (s : Daemon) :
    (openvpnWatchCb cfg env status s).others = s.others := by
  rw [watch_eq]
  split
  · split <;> rfl
  · cases hs : svcActive (released env s) with
    | false =>
        rw [disconnect_inactive hs]
        rfl
    | true =>
        rw [disconnect_active hs]
        rfl

theorem numbered_step {e : Event} (hc : Coherent s) (h : Numbered s)
    (hs : step cfg s e = some s') : Numbered s' := by
  have hq : Numbered (quiet s) := { h with }
  have fresh : ∀ {env : Env}, s.spawnFeasible env = true →
      ∀ pid, env.spawn = .ok pid → s.pidExists pid = false :=
    fun hf pid hp => (spawnFeasible_pid hf pid hp).2
  cases step_cases hs with
  | request _ _ hf ho _ =>
      have hr := hq.request (fresh hf) ho
      exact { hr with }
  | disconnect env => exact hq.disconnect cfg env
  | stateChange state =>
      have hp := (setState_priv state (quiet s)).1
      have heq := setState_eq state (quiet s)
      rw [heq]
      exact hq.mono (.refl rfl) (fun _ hm => .inl hm) (.inr ⟨hp, rfl⟩)
  | fetchDone result hm _ hf ho => exact h.fetchDone hc hm (fresh hf) ho
  | childExits hm hrun =>
      refine hq.mono (noneBorn_of_setProcState (fun _ p hp hw => ?_) (by decide) rfl)
        (fun _ hm => .inl hm) (.inr ⟨rfl, rfl⟩)
      rw [hc.proc_unique hp hm (by simpa using hw)]
      simp [Proc.unreaped, hrun]
  | childReaped _ _ =>
      exact hq.mono (noneBorn_of_setProcState (fun hz => by cases hz) (by decide) rfl)
        (fun _ hm => .inl hm) (.inr ⟨rfl, rfl⟩)
  | @childWatch p status env _ _ =>
      obtain ⟨hpid, hprocs⟩ := watch_procs cfg env status ((quiet s).setProc p.attempt .notified)
      have hnotified : NoneBorn (quiet s) ((quiet s).setProc p.attempt .notified) :=
        noneBorn_of_setProcState (fun hz => by cases hz) (by decide) rfl
      have hborn : NoneBorn (quiet s)
          (openvpnWatchCb cfg env status ((quiet s).setProc p.attempt .notified)) :=
        hnotified.trans (noneBorn_of_setProcState (fun hz => by cases hz) (by decide) hprocs)
      have hothers := watch_others cfg env status ((quiet s).setProc p.attempt .notified)
      exact hq.mono hborn (fun _ hm => .inl (hothers ▸ hm)) (.inl hpid)
  | connectTimeout env _ =>
      rw [timeout_eq]
      split
      · exact hq.mono (.refl rfl) (fun _ hm => .inl hm) (.inr ⟨rfl, rfl⟩)
      · exact hq.mono (noneBorn_of_cleaned rfl) (fun _ hm => .inl hm) (.inr ⟨rfl, rfl⟩)
  | killTimeout _ =>
      rw [kill_eq]
      exact hq.mono (noneBorn_of_signalProcs rfl) (fun _ hm => .inl hm) (.inr ⟨rfl, rfl⟩)
  | otherStarts hf =>
      refine hq.mono (.refl rfl) (fun pid hm => ?_) (.inr ⟨rfl, rfl⟩)
      rcases List.mem_cons.mp hm with rfl | hm
      · have hfree : s.pidExists pid = false := by simpa using (Bool.and_eq_true_iff.mp hf).2
        exact .inr hfree
      · exact .inl hm
  | otherEnds _ =>
      refine hq.mono (.refl rfl) (fun pid hm => ?_) (.inr ⟨rfl, rfl⟩)
      exact .inl (List.mem_filter.mp hm).1
  | dispose =>
      rw [cleanupPlugin_eq]
      exact hq.mono (noneBorn_of_cleaned rfl) (fun _ hm => .inl hm) (.inl rfl)

theorem numbered_inductive (cfg : Config) (left : Leftover) :
    Inductive (step cfg) (boot cfg left) fun s => Coherent s ∧ Numbered s :=
  (coherent_inductive cfg left).and (fun hc h hs => numbered_step hc h hs) (by
    rw [boot_eq]
    constructor <;> simp [initPriv])

/-! ## Every run -/

/-- The process belongs to what is being torn down: the current attempt where the
tracked process is signalled, a process that has been sent SIGTERM where the delayed
kill is. -/
def TornDown (t : Transition Daemon Event) (p : Proc) : Prop :=
  match t.event with
  | .killTimeout _ => .term ∈ p.signals
  | _ => p.attempt = t.before.attempt

/-- Every signal goes to a child that has not been waited for and is being torn
down. -/
def SignalsOwn (t : Transition Daemon Event) : Prop :=
  ∀ pid signal target, .signalled pid signal target ∈ t.after.effects →
    ∃ p ∈ t.before.procs, p.pid = pid ∧ p.unreaped = true ∧ target = some p.attempt ∧ TornDown t p

/-- The number that is going to be signalled has not been taken over. For the
tracked one, which is of the current attempt, only an unrelated process can; for
the delayed kill, also a newer child. -/
def NumberKept (t : Transition Daemon Event) : Prop :=
  match t.event with
  | .killTimeout pid =>
      pid ∉ t.before.others ∧
        ∀ p ∈ t.before.procs, p.unreaped = true → p.pid = pid → .term ∈ p.signals
  | e => signalsTracked t.before e = true → t.before.priv.pid ≠ 0 →
      t.before.priv.pid ∉ t.before.others

theorem kill_own_iff (hc : Coherent s) (h : Numbered s) (pid : Nat) (signal : Signal)
    (fit : Proc → Prop) :
    (∀ pid' signal' target, .signalled pid' signal' target ∈ killEffects pid signal s →
        ∃ p ∈ s.procs, p.pid = pid' ∧ p.unreaped = true ∧ target = some p.attempt ∧ fit p) ↔
      pid ∉ s.others ∧ ∀ p ∈ s.procs, p.unreaped = true → p.pid = pid → fit p := by
  have hsome : ∀ p ∈ s.procs, p.unreaped = true → p.pid = pid →
      s.procs.find? (fun p => p.pid = pid && p.unreaped) = some p := by
    intro p hp hu heq
    cases hfind : s.procs.find? (fun p => p.pid = pid && p.unreaped) with
    | none => exact absurd (by simp [heq, hu]) (List.find?_eq_none.mp hfind p hp)
    | some q =>
        have hq := List.mem_of_find?_eq_some hfind
        have hqs := List.find?_some hfind
        simp only [Bool.and_eq_true, decide_eq_true_eq] at hqs
        have ha := h.distinct q hq p hp hqs.2 hu (hqs.1.trans heq.symm)
        rw [hc.proc_unique hq hp ha]
  constructor
  · intro hall
    refine ⟨fun hother => ?_, fun p hp hu heq => ?_⟩
    · have hexists : s.pidExists pid = true := by simp [pidExists, hother]
      obtain ⟨p, hp, heq, hu, _⟩ := hall pid signal _ (by
        rw [killEffects, if_pos hexists]
        exact List.mem_singleton_self _)
      exact h.apart p hp hu (heq ▸ hother)
    · have hexists : s.pidExists pid = true := by
        simp only [pidExists, Bool.or_eq_true, List.any_eq_true]
        exact .inl ⟨p, hp, by simp [heq, hu]⟩
      obtain ⟨q, hq, _, _, htarget, hfit⟩ := hall pid signal _ (by
        rw [killEffects, if_pos hexists]
        exact List.mem_singleton_self _)
      rw [hsome p hp hu heq] at htarget
      rw [hc.proc_unique hp hq (Option.some.inj htarget)]
      exact hfit
  · rintro ⟨hother, hfit⟩ pid' signal' target he
    unfold killEffects at he
    split at he
    · rename_i hexists
      cases List.mem_singleton.mp he
      simp only [pidExists, Bool.or_eq_true, List.any_eq_true, Bool.and_eq_true,
        decide_eq_true_eq, List.contains_eq_mem] at hexists
      obtain ⟨p, hp, heq, hu⟩ := hexists.resolve_right hother
      exact ⟨p, hp, heq, hu, by rw [hsome p hp hu heq]; rfl, hfit p hp hu heq⟩
    · cases he

theorem signalsOwn_iff {t : Transition Daemon Event} (hc : Coherent t.before)
    (h : Numbered t.before) (hs : step cfg t.before t.event = some t.after) :
    SignalsOwn t ↔ NumberKept t := by
  unfold SignalsOwn
  simp only [step_signalled_iff hs]
  have htracked : (∀ pid signal target, .signalled pid signal target ∈ cleanedEffects t.before →
      ∃ p ∈ t.before.procs, p.pid = pid ∧ p.unreaped = true ∧ target = some p.attempt ∧
        p.attempt = t.before.attempt) ↔
      (t.before.priv.pid ≠ 0 → t.before.priv.pid ∉ t.before.others) := by
    unfold cleanedEffects
    by_cases hz : t.before.priv.pid = 0
    · simp [hz]
    · rw [if_neg hz, kill_own_iff hc h]
      exact ⟨fun hk _ => hk.1, fun hk => ⟨hk hz, h.tracked hz⟩⟩
  obtain ⟨s, e, s'⟩ := t
  have tracked : sentSignals s e = (if signalsTracked s e then cleanedEffects s else []) →
      (∀ p, TornDown ⟨s, e, s'⟩ p ↔ p.attempt = s.attempt) →
      (NumberKept ⟨s, e, s'⟩ ↔
        (signalsTracked s e = true → s.priv.pid ≠ 0 → s.priv.pid ∉ s.others)) →
      ((∀ pid signal target, .signalled pid signal target ∈ sentSignals s e →
          ∃ p ∈ s.procs, p.pid = pid ∧ p.unreaped = true ∧ target = some p.attempt ∧
            TornDown ⟨s, e, s'⟩ p) ↔ NumberKept ⟨s, e, s'⟩) := by
    intro hsent htorn hkept
    rw [hkept, hsent]
    simp only [htorn]
    cases signalsTracked s e with
    | false => simp
    | true => simpa using htracked
  cases e with
  | killTimeout pid => exact kill_own_iff hc h pid .kill _
  | _ => exact tracked rfl (fun _ => .rfl) .rfl

/-- In every run every signal goes to the plugin's own children exactly when no
number that is signalled has been taken over. -/
theorem signals_own_iff (cfg : Config) (left : Leftover) (events : List Event) :
    Always SignalsOwn (runs cfg left events) ↔ Always NumberKept (runs cfg left events) :=
  run_forall_iff (numbered_inductive cfg left)
    (fun _ h hs => signalsOwn_iff h.1 h.2 hs) events

/-- The tunnel is disconnected, its process exits, and another program gets the
number within the two seconds. -/
def sampleReuse : List Event :=
  sampleStart ++
    [.disconnect (sampleEnv (.ok 701)), .childExits 1, .childReaped 1,
      .childWatch 1 (.signaled 15) (sampleEnv (.ok 701)), .otherStarts 700]

theorem delayed_kill_hits_other :
    ¬ Always SignalsOwn
      (runs (sampleConfig true) (sampleLeftover none) (sampleReuse ++ [.killTimeout 700])) := by
  intro h
  obtain ⟨s', he, hown⟩ := h.last
    (Q := fun s' => .signalled 700 .kill none ∈ s'.effects) (by decide +kernel) (by decide +kernel)
  obtain ⟨p, _, _, _, htarget, _⟩ := hown 700 .kill none he
  cases htarget

end AirVpn.Service
