import AirVpn.Lib.Traces
import AirVpn.Model.Reconnect

/-! # Apply and reconnect

What can happen to one `ReconnectCtx`, stage by stage, and that the editor runs at most
one such life at a time: with whatever outcome, each callback and each poll either
finishes the context or hands it on to exactly one successor.
-/

namespace AirVpn.Reconnect

open Logs Machine Traces

variable {uuid : Option String}

/-! ## The life of a context -/

/-- What a context waits for; the poll has found the connection active so many times. -/
inductive Stage where
  | absent
  | waits (callback : Callback)
  | polls (count : Fin 21)
  | finished

/-- How a context goes on, and what happens to it then. -/
inductive Next (uuid : Option String) : Stage → List Act → Stage → Prop
  | created : Next uuid .absent [.created] (.waits .clientReady)
  | saving : Next uuid (.waits .clientReady) [.called .clientReady] (.waits .commitDone)
  | disconnecting :
      Next uuid (.waits .commitDone) [.called .commitDone, .committed] (.waits .deactivateDone)
  | polling : Next uuid (.waits .deactivateDone) [.called .deactivateDone] (.polls 0)
  | stillActive {count again : Fin 21} (actives : Actives) (h : again.val = count.val + 1) :
      Next uuid (.polls count) [.polled actives] (.polls again)
  | activating {count : Fin 21} {actives : Actives} (h : uuid ∉ actives) :
      Next uuid (.polls count) [.polled actives, .activationRequested] (.waits .activateDone)
  | timedOut {count : Fin 21} (actives : Actives) (errorMsg : Option String) :
      Next uuid (.polls count) [.polled actives, .finished errorMsg] .finished
  | returned (callback : Callback) (errorMsg : Option String) :
      Next uuid (.waits callback) [.called callback, .finished errorMsg] .finished
  | saved (errorMsg : Option String) :
      Next uuid (.waits .commitDone) [.called .commitDone, .committed, .finished errorMsg]
        .finished

abbrev Life (uuid : Option String) : Stage → List Act → Prop := Trace (Next uuid) .absent

def Act.isFinished : Act → Bool
  | .finished _ => true
  | _ => false

def Act.isPolled : Act → Bool
  | .polled _ => true
  | _ => false

def Act.isRun : Act → Bool
  | .called _ | .polled _ => true
  | _ => false

namespace Stage

def maxPolls : Stage → Nat
  | .absent | .waits .clientReady | .waits .commitDone | .waits .deactivateDone => 0
  | .polls count => count
  | .waits .activateDone | .finished => 21

def maxRuns : Stage → Nat
  | .absent | .waits .clientReady => 0
  | .waits .commitDone => 1
  | .waits .deactivateDone => 2
  | .polls count => 3 + count
  | .waits .activateDone => 24
  | .finished => 25

def finishes : Stage → Nat
  | .finished => 1
  | _ => 0

def Saved : Stage → Prop
  | .waits .deactivateDone | .polls _ | .waits .activateDone => True
  | _ => False

theorem maxPolls_le (stage : Stage) : stage.maxPolls ≤ 21 := by
  match stage with
  | .absent | .finished => decide
  | .waits callback => cases callback <;> decide
  | .polls count => exact Nat.le_of_lt count.is_lt

theorem maxRuns_le (stage : Stage) : stage.maxRuns ≤ 25 := by
  match stage with
  | .absent | .finished => decide
  | .waits callback => cases callback <;> decide
  | .polls count =>
      show 3 + count.val ≤ 25
      omega

end Stage

namespace Life

variable {stage : Stage} {acts before after : List Act}

theorem countP_isPolled_le (h : Life uuid stage acts) :
    acts.countP Act.isPolled ≤ stage.maxPolls := by
  refine h.countP_le fun hnext => ?_
  cases hnext with
  | returned callback errorMsg => cases callback <;> simp [Stage.maxPolls, Act.isPolled]
  | stillActive actives h => exact Nat.le_of_eq h.symm
  | activating | timedOut => exact Fin.is_lt _
  | created | saving | disconnecting | polling | saved => exact Nat.zero_le _

theorem countP_isRun_le (h : Life uuid stage acts) : acts.countP Act.isRun ≤ stage.maxRuns := by
  refine h.countP_le fun hnext => ?_
  cases hnext with
  | returned callback errorMsg =>
      cases callback <;> simp [Stage.maxRuns, List.countP_cons, Act.isRun]
  | stillActive actives h => exact Nat.le_of_eq (congrArg (3 + ·) h.symm)
  | @activating count actives h =>
      show 3 + count.val + 1 ≤ 24
      omega
  | @timedOut count actives errorMsg =>
      show 3 + count.val + 1 ≤ 25
      omega
  | created | saving | disconnecting | polling | saved =>
      simp [Stage.maxRuns, List.countP_cons, Act.isRun]

theorem countP_isFinished (h : Life uuid stage acts) :
    acts.countP Act.isFinished = stage.finishes := by
  refine h.countP_eq rfl fun hnext => ?_
  cases hnext <;> rfl

theorem after_finished (h : Life uuid stage acts) {errorMsg : Option String}
    (hcut : acts = before ++ .finished errorMsg :: after) : after = [] := by
  refine (h.last (Act.isFinished · = true) (· = .finished) ?_ ?_ ?_ hcut rfl).1
  · intro s new s' hnext
    cases hnext <;> exact nofun
  · intro s new s' hnext
    cases hnext <;> simp [Act.isFinished]
  · intro s new s' hnext
    cases hnext <;> simp [Act.isFinished]

theorem committed_before (h : Life uuid stage acts)
    (hcut : acts = before ++ .activationRequested :: after) : .committed ∈ before := by
  have hbefore := h.precedes (· = .committed) Stage.Saved id ?_ ?_ hcut
  · obtain ⟨act, hmem, rfl⟩ := hbefore
    exact hmem
  · intro s new s' hnext
    cases hnext <;> simp [Stage.Saved]
  · intro s new s' hnext
    cases hnext with
    | activating h => exact fun _ => ⟨[_], rfl, by simp, .inl trivial⟩
    | _ => simp

theorem gone_before (h : Life uuid stage acts)
    (hcut : acts = before ++ .activationRequested :: after) :
    ∃ actives, .polled actives ∈ before ∧ uuid ∉ actives := by
  have hbefore := h.precedes (fun act => ∃ actives, act = .polled actives ∧ uuid ∉ actives)
    (fun _ => False) id (fun _ => False.elim) ?_ hcut
  · obtain ⟨act, hmem, actives, rfl, hactives⟩ := hbefore
    exact ⟨actives, hmem, hactives⟩
  · intro s new s' hnext
    cases hnext with
    | @activating count actives h =>
        exact fun _ => ⟨[.polled actives], rfl, by simp,
          .inr ⟨_, List.mem_singleton_self _, _, rfl, h⟩⟩
    | _ => simp

theorem not_dangling (h : Life uuid stage acts) : .dangling ∉ acts := by
  have hother := h.forall_mem (P := (· ≠ .dangling)) ?_
  · exact fun hmem => hother _ hmem rfl
  · intro s new s' hnext
    cases hnext <;> simp

end Life

/-! ## The invariant -/

structure Idle (s : State) : Prop where
  ctxs : s.ctxs = []
  busy : s.reconnectBusy = false
  pending : s.pending = []
  sources : s.sources = []

/-- The one callback or source that a stage waits for. -/
def Registered (s : State) (id : Nat) (ctx : ReconnectCtx) : Stage → Prop
  | .waits callback => s.pending = [(callback, id)] ∧ s.sources = []
  | .polls count => s.pending = [] ∧ s.sources = [(ctx.pollId, id)] ∧ ctx.pollCount = count
  | _ => False

structure Live (s : State) (id : Nat) (ctx : ReconnectCtx) (stage : Stage) : Prop where
  ctxs : s.ctxs = [(id, ctx)]
  busy : s.reconnectBusy = true
  kept : s.disposed = false
  registered : Registered s id ctx stage

/-- Each context that has been created is either finished or the one that is live. -/
structure Coherent (uuid : Option String) (s : State) : Prop where
  same_uuid : s.disposed = false → s.uuid = uuid
  fresh : ∀ id, s.nextCtx ≤ id → entriesOf id s.log = []
  ended : ∀ id, id < s.nextCtx → id ∉ s.ctxs.map Prod.fst →
    Life uuid .finished (entriesOf id s.log)
  now : Idle s ∨ ∃ id ctx stage, id < s.nextCtx ∧ Live s id ctx stage ∧
    Life uuid stage (entriesOf id s.log)

structure Grown (s s' : State) (id : Nat) (acts : List Act) : Prop where
  log : s'.log = s.log ++ acts.map (id, ·)
  nextCtx : s'.nextCtx = s.nextCtx
  uuid : s'.disposed = false → s'.uuid = s.uuid

def Turns (uuid : Option String) (s s' : State) (id : Nat) (stage : Stage) : Prop :=
  ∃ acts stage', Grown s s' id acts ∧ Next uuid stage acts stage' ∧
    (stage' = .finished ∧ Idle s' ∨ ∃ ctx, Live s' id ctx stage')

theorem Coherent.turns {s s' : State} {id : Nat} {ctx : ReconnectCtx} {stage : Stage}
    (h : Coherent uuid s) (hlt : id < s.nextCtx) (hlive : Live s id ctx stage)
    (hlife : Life uuid stage (entriesOf id s.log)) (hturns : Turns uuid s s' id stage) :
    Coherent uuid s' := by
  obtain ⟨acts, stage', hgrown, hnext, hnow⟩ := hturns
  have hown : Life uuid stage' (entriesOf id s'.log) := by
    rw [hgrown.log, entriesOf_append_own]
    exact hlife.snoc hnext
  have hother : ∀ other, other ≠ id → entriesOf other s'.log = entriesOf other s.log := by
    intro other hne
    rw [hgrown.log, entriesOf_append_foreign hne.symm]
  have hended : ∀ other, other < s.nextCtx → other ≠ id →
      Life uuid .finished (entriesOf other s'.log) := by
    intro other hother_lt hne
    rw [hother other hne]
    refine h.ended other hother_lt ?_
    rw [hlive.ctxs]
    simpa using hne
  constructor
  case same_uuid => exact fun hkept => (hgrown.uuid hkept).trans (h.same_uuid hlive.kept)
  case fresh =>
    intro other hle
    rw [hgrown.nextCtx] at hle
    rw [hother other (Nat.ne_of_gt (Nat.lt_of_lt_of_le hlt hle))]
    exact h.fresh other hle
  case ended =>
    intro other hother_lt hnot
    rw [hgrown.nextCtx] at hother_lt
    rcases hnow with ⟨rfl, hidle⟩ | ⟨ctx', hlive'⟩
    · by_cases heq : other = id
      · exact heq ▸ hown
      · exact hended other hother_lt heq
    · refine hended other hother_lt fun heq => hnot ?_
      rw [hlive'.ctxs, heq]
      exact List.mem_singleton_self id
  case now =>
    rw [hgrown.nextCtx]
    rcases hnow with ⟨-, hidle⟩ | ⟨ctx', hlive'⟩
    · exact .inl hidle
    · exact .inr ⟨id, ctx', stage', hlt, hlive', hown⟩

/-! ## The handlers -/

theorem unref_eq {α : Type} (f : State → α) (hf : ∀ s, f (dispose s) = f s) (s : State) :
    f s.unref = f s := by
  unfold State.unref
  split
  · rfl
  · exact hf s

theorem unref_uuid {s : State} (h : s.unref.disposed = false) : s.unref.uuid = s.uuid := by
  unfold State.unref at h ⊢
  split at h
  · rw [if_pos ‹_›]
  · cases h

theorem unref_kept {s : State} (h : s.unref.disposed = false) : s.disposed = false := by
  unfold State.unref at h
  split at h
  · exact h
  · cases h

theorem setCtx_ctxs {s : State} {id : Nat} {ctx : ReconnectCtx} (h : s.ctxs = [(id, ctx)])
    (ctx' : ReconnectCtx) : (s.setCtx id ctx').ctxs = [(id, ctx')] := by
  show s.ctxs.map _ = _
  rw [h, List.map_singleton, if_pos rfl]

/-- Within a callback, where nothing is registered for its context. -/
structure Running (s s' : State) (id : Nat) (ctx : ReconnectCtx) (acts : List Act) : Prop where
  grown : Grown s s' id acts
  ctxs : s'.ctxs = [(id, ctx)]
  busy : s'.reconnectBusy = true
  kept : s'.disposed = false
  pending : s'.pending = []
  sources : s'.sources = []

namespace Running

variable {s s' : State} {id : Nat} {ctx : ReconnectCtx} {acts : List Act} {stage : Stage}

theorem record (h : Running s s' id ctx acts) (act : Act) :
    Running s (s'.record id act) id ctx (acts ++ [act]) := by
  refine ⟨⟨?_, h.grown.nextCtx, h.grown.uuid⟩, h.ctxs, h.busy, h.kept, h.pending, h.sources⟩
  show s'.log ++ [(id, act)] = _
  rw [h.grown.log, List.append_assoc, List.map_append, List.map_singleton]

theorem setLabel (h : Running s s' id ctx acts) (label : String) :
    Running s (reconnectSetLabel s' label) id ctx acts :=
  ⟨⟨h.grown.log, h.grown.nextCtx, h.grown.uuid⟩, h.ctxs, h.busy, h.kept, h.pending, h.sources⟩

theorem setCtx (h : Running s s' id ctx acts) (ctx' : ReconnectCtx) :
    Running s (s'.setCtx id ctx') id ctx' acts :=
  ⟨⟨h.grown.log, h.grown.nextCtx, h.grown.uuid⟩, setCtx_ctxs h.ctxs ctx', h.busy, h.kept,
    h.pending, h.sources⟩

theorem start (h : Running s s' id ctx acts) {callback : Callback}
    (hnext : Next uuid stage acts (.waits callback)) :
    Turns uuid s (s'.start callback id) id stage := by
  refine ⟨acts, _, ⟨h.grown.log, h.grown.nextCtx, h.grown.uuid⟩, hnext,
    .inr ⟨ctx, h.ctxs, h.busy, h.kept, ?_, h.sources⟩⟩
  show s'.pending ++ _ = _
  rw [h.pending, List.nil_append]

theorem finish (h : Running s s' id ctx acts) {errorMsg : Option String} (ctx' : ReconnectCtx)
    (hnext : Next uuid stage (acts ++ [.finished errorMsg]) .finished) :
    Turns uuid s (reconnectCtxFinish errorMsg s' id ctx') id stage := by
  have hlog := (h.record (.finished errorMsg)).grown
  refine ⟨_, _, ⟨?_, ?_, ?_⟩, hnext, .inl ⟨rfl, ?_, ?_, ?_, ?_⟩⟩
  · exact (unref_eq (·.log) (fun _ => rfl) _).trans hlog.log
  · exact (unref_eq (·.nextCtx) (fun _ => rfl) _).trans h.grown.nextCtx
  · exact fun hkept => (unref_uuid hkept).trans (h.grown.uuid h.kept)
  · refine (unref_eq (·.ctxs) (fun _ => rfl) _).trans ?_
    show s'.ctxs.filter _ = []
    rw [h.ctxs]
    simp
  · exact unref_eq (·.reconnectBusy) (fun _ => rfl) _
  · exact (unref_eq (·.pending) (fun _ => rfl) _).trans h.pending
  · refine (unref_eq (·.sources) (fun _ => rfl) _).trans ?_
    show clearSource s'.sources _ = []
    rw [h.sources]
    unfold clearSource
    split <;> rfl

/-! Each callback finishes its context or hands it on. -/

theorem clientReady (h : Running s s' id ctx [.called .clientReady])
    (result : Except GError NMClient) (dialog : Editor.Dialog) :
    Turns uuid s (reconnectClientReady result dialog s' id ctx) id (.waits .clientReady) := by
  unfold reconnectClientReady
  split
  case h_1 => exact h.finish _ (.returned _ _)
  case h_2 =>
    dsimp only
    split
    case h_1 => exact h.finish _ (.returned _ _)
    case h_2 =>
      split
      case h_1 => exact h.finish _ (.returned _ _)
      case h_2 => exact ((h.setCtx _).setLabel _).start .saving

theorem commitDone (h : Running s s' id ctx [.called .commitDone]) (result : Except GError Unit)
    (actives : Actives) :
    Turns uuid s (reconnectCommitDone result actives s' id ctx) id (.waits .commitDone) := by
  unfold reconnectCommitDone
  split
  case h_1 => exact h.finish _ (.returned _ _)
  case h_2 =>
    have hcommitted := h.record .committed
    dsimp only
    split
    case h_1 => exact hcommitted.finish _ (.saved _)
    case h_2 => exact (hcommitted.setLabel _).start .disconnecting

theorem deactivateDone (h : Running s s' id ctx [.called .deactivateDone])
    (result : Except GError Unit) :
    Turns uuid s (reconnectDeactivateDone result s' id ctx) id (.waits .deactivateDone) := by
  unfold reconnectDeactivateDone
  split
  case h_1 => exact h.finish _ (.returned _ _)
  case h_2 =>
    have hpolling := h.setCtx { ctx with pollCount := 0, pollId := s'.nextSource }
    refine ⟨_, _, ⟨h.grown.log, h.grown.nextCtx, h.grown.uuid⟩, .polling,
      .inr ⟨_, hpolling.ctxs, h.busy, h.kept, h.pending, ?_, rfl⟩⟩
    show s'.sources ++ _ = _
    rw [h.sources, List.nil_append]

theorem activateDone (h : Running s s' id ctx [.called .activateDone])
    (result : Except GError Unit) :
    Turns uuid s (reconnectActivateDone result s' id ctx) id (.waits .activateDone) := by
  unfold reconnectActivateDone
  split
  case h_1 => exact h.finish _ (.returned _ _)
  case h_2 => exact h.finish _ (.returned _ _)

end Running

section

variable {s s' : State} {id : Nat} {ctx : ReconnectCtx}

theorem Live.lookup {stage : Stage} (h : Live s id ctx stage) : s.ctxs.lookup id = some ctx := by
  rw [h.ctxs]
  exact List.lookup_cons_self

theorem Live.turns_completion {callback : Callback} (h : Live s id ctx (.waits callback))
    {completion : Completion} (hcallback : completion.callback = callback) :
    Turns uuid s (dispatch completion s id) id (.waits callback) := by
  subst hcallback
  obtain ⟨hpending, hsources⟩ := h.registered
  have hrun : Running s
      (State.record { s with pending := s.pending.erase (completion.callback, id) } id
        (.called completion.callback)) id ctx [.called completion.callback] := by
    refine ⟨⟨rfl, rfl, fun _ => rfl⟩, h.ctxs, h.busy, h.kept, ?_, hsources⟩
    show s.pending.erase _ = []
    rw [hpending]
    exact List.erase_cons_head _ _
  unfold dispatch
  dsimp only
  rw [h.lookup]
  cases completion with
  | clientReady result dialog => exact hrun.clientReady result dialog
  | commitDone result actives => exact hrun.commitDone result actives
  | deactivateDone result => exact hrun.deactivateDone result
  | activateDone result => exact hrun.activateDone result

theorem finish_filter {errorMsg : Option String} (hpoll : ctx.pollId = 0)
    (p : Nat × Nat → Bool) :
    { reconnectCtxFinish errorMsg s id ctx with
      sources := (reconnectCtxFinish errorMsg s id ctx).sources.filter p } =
      reconnectCtxFinish errorMsg { s with sources := s.sources.filter p } id ctx := by
  unfold reconnectCtxFinish clearSource State.unref
  simp only [hpoll, if_true, State.record]
  split <;> rfl

theorem Live.turns_tick {count : Fin 21} (h : Live s id ctx (.polls count)) (actives : Actives) :
    Turns s.uuid s (tick ctx.pollId actives s id) id (.polls count) := by
  obtain ⟨hpending, hsources, hcount⟩ := h.registered
  have hcleared : s.sources.filter (·.1 ≠ ctx.pollId) = [] := by
    rw [hsources]
    simp
  have hrun : Running s (State.record { s with sources := s.sources.filter (·.1 ≠ ctx.pollId) } id
      (.polled actives)) id ctx [.polled actives] :=
    ⟨⟨rfl, rfl, fun _ => rfl⟩, h.ctxs, h.busy, h.kept, hpending, hcleared⟩
  unfold tick reconnectPollDeactivated
  rw [h.lookup]
  dsimp only
  cases hfind : reconnectFindActive (s.record id (.polled actives)) actives with
  | none =>
      have hgone : s.uuid ∉ actives := by
        intro hmem
        exact List.find?_eq_none.mp hfind _ hmem (decide_eq_true rfl)
      exact (((hrun.setCtx { ctx with pollId := 0 }).setLabel _).record _).start
        (.activating hgone)
  | some active =>
      dsimp only
      by_cases hmore : 20 < ctx.pollCount + 1
      · rw [if_pos hmore]
        dsimp only
        rw [if_neg Bool.false_ne_true, finish_filter rfl]
        exact hrun.finish _ (.timedOut _ _)
      · rw [if_neg hmore]
        have hagain : ctx.pollCount + 1 < 21 := by omega
        exact ⟨_, .polls ⟨_, hagain⟩, ⟨rfl, rfl, fun _ => rfl⟩,
          .stillActive actives (by rw [← hcount]),
          .inr ⟨_, setCtx_ctxs h.ctxs _, h.busy, h.kept, hpending, hsources, rfl⟩⟩

end

theorem Coherent.of_pending {s : State} {id : Nat} {callback : Callback} (h : Coherent uuid s)
    (hmem : (callback, id) ∈ s.pending) :
    ∃ ctx, id < s.nextCtx ∧ Live s id ctx (.waits callback) ∧
      Life uuid (.waits callback) (entriesOf id s.log) := by
  rcases h.now with hidle | ⟨current, ctx, stage, hlt, hlive, hlife⟩
  · rw [hidle.pending] at hmem
    cases hmem
  · have hregistered := hlive.registered
    cases stage with
    | waits waiting =>
        rw [hregistered.1, List.mem_singleton] at hmem
        obtain ⟨rfl, rfl⟩ := Prod.mk.inj hmem
        exact ⟨ctx, hlt, hlive, hlife⟩
    | polls count =>
        rw [hregistered.1] at hmem
        cases hmem
    | absent | finished => exact hregistered.elim

theorem Coherent.of_source {s : State} {source id : Nat} (h : Coherent uuid s)
    (hlookup : s.sources.lookup source = some id) :
    ∃ ctx count, source = ctx.pollId ∧ id < s.nextCtx ∧ Live s id ctx (.polls count) ∧
      Life uuid (.polls count) (entriesOf id s.log) := by
  rcases h.now with hidle | ⟨current, ctx, stage, hlt, hlive, hlife⟩
  · rw [hidle.sources] at hlookup
    cases hlookup
  · have hregistered := hlive.registered
    cases stage with
    | waits waiting =>
        rw [hregistered.2] at hlookup
        cases hlookup
    | polls count =>
        rw [hregistered.2.1] at hlookup
        by_cases heq : source = ctx.pollId
        · subst heq
          rw [List.lookup_cons_self] at hlookup
          cases hlookup
          exact ⟨ctx, count, rfl, hlt, hlive, hlife⟩
        · rw [List.lookup_cons, beq_false_of_ne heq] at hlookup
          cases hlookup
    | absent | finished => exact hregistered.elim

theorem Coherent.clicked {s : State} (h : Coherent uuid s) (hkept : s.disposed = false) :
    Coherent uuid (reconnectButtonClicked s) := by
  unfold reconnectButtonClicked
  split
  case isTrue => exact h
  case isFalse hbusy =>
    have hidle : Idle s := by
      rcases h.now with hidle | ⟨id, ctx, stage, -, hlive, -⟩
      · exact hidle
      · exact absurd hlive.busy hbusy
    split
    case h_1 =>
      exact ⟨h.same_uuid, h.fresh, h.ended,
        .inl ⟨hidle.ctxs, hidle.busy, hidle.pending, hidle.sources⟩⟩
    case h_2 =>
      have hfresh := h.fresh s.nextCtx (Nat.le_refl _)
      have hother : ∀ id, id ≠ s.nextCtx →
          entriesOf id (s.log ++ [Act.created].map (s.nextCtx, ·)) = entriesOf id s.log :=
        fun id hne => entriesOf_append_foreign hne.symm _
      have hcreated : Life uuid (.waits .clientReady)
          (entriesOf s.nextCtx (s.log ++ [Act.created].map (s.nextCtx, ·))) := by
        rw [entriesOf_append_own, hfresh]
        exact Trace.nil.snoc .created
      constructor
      case same_uuid => exact h.same_uuid
      case fresh =>
        intro id hle
        exact (hother id (by simpa using Nat.ne_of_gt hle)).trans (h.fresh id (Nat.le_of_lt hle))
      case ended =>
        intro id hlt hnot
        have hne : id ≠ s.nextCtx := by
          rintro rfl
          exact hnot (by simp [State.start])
        refine (hother id hne).symm ▸ h.ended id ?_ ?_
        · exact Nat.lt_of_le_of_ne (Nat.le_of_lt_succ hlt) hne
        · simp [hidle.ctxs]
      case now =>
        refine .inr ⟨s.nextCtx, ⟨none, none, 0, 0⟩, .waits .clientReady, Nat.lt_succ_self _,
          ⟨?_, rfl, hkept, ?_, ?_⟩, hcreated⟩
        · show s.ctxs ++ _ = _
          rw [hidle.ctxs, List.nil_append]
        · show s.pending ++ _ = _
          rw [hidle.pending, List.nil_append]
        · exact hidle.sources

theorem Coherent.released {s : State} (h : Coherent uuid s) :
    Coherent uuid (State.unref { s with held := false }) := by
  have hlog : (State.unref { s with held := false }).log = s.log :=
    unref_eq (·.log) (fun _ => rfl) _
  have hctxs : (State.unref { s with held := false }).ctxs = s.ctxs :=
    unref_eq (·.ctxs) (fun _ => rfl) _
  have hnextCtx : (State.unref { s with held := false }).nextCtx = s.nextCtx :=
    unref_eq (·.nextCtx) (fun _ => rfl) _
  constructor
  case same_uuid =>
    intro hkept
    rw [unref_uuid hkept]
    exact h.same_uuid (unref_kept (s := { s with held := false }) hkept)
  case fresh =>
    rw [hlog, hnextCtx]
    exact h.fresh
  case ended =>
    rw [hlog, hnextCtx, hctxs]
    exact h.ended
  case now =>
    rw [hlog, hnextCtx]
    rcases h.now with hidle | ⟨id, ctx, stage, hlt, hlive, hlife⟩
    · exact .inl ⟨hctxs.trans hidle.ctxs,
        (unref_eq (·.reconnectBusy) (fun _ => rfl) _).trans hidle.busy,
        (unref_eq (·.pending) (fun _ => rfl) _).trans hidle.pending,
        (unref_eq (·.sources) (fun _ => rfl) _).trans hidle.sources⟩
    · have hsame : State.unref { s with held := false } = { s with held := false } := by
        unfold State.unref
        rw [if_pos (by simp [hlive.ctxs])]
      rw [hsame]
      exact .inr ⟨id, ctx, stage, hlt,
        ⟨hlive.ctxs, hlive.busy, hlive.kept, hlive.registered⟩, hlife⟩

theorem Coherent.next {s s' : State} {event : Event} (h : Coherent uuid s)
    (hstep : step s event = some s') : Coherent uuid s' := by
  unfold step at hstep
  split at hstep
  case isTrue => cases hstep
  case isFalse hkept =>
    have hkept : s.disposed = false := by simpa using hkept
    cases event with
    | clicked =>
        cases hstep
        exact h.clicked hkept
    | completes completion id =>
        dsimp only at hstep
        split at hstep
        case isFalse => cases hstep
        case isTrue hmem =>
          cases hstep
          obtain ⟨ctx, hlt, hlive, hlife⟩ := h.of_pending hmem
          exact h.turns hlt hlive hlife (hlive.turns_completion rfl)
    | ticks source actives =>
        obtain ⟨id, hlookup, rfl⟩ := Option.map_eq_some_iff.mp hstep
        obtain ⟨ctx, count, rfl, hlt, hlive, hlife⟩ := h.of_source hlookup
        refine h.turns hlt hlive hlife ?_
        rw [← h.same_uuid hkept]
        exact hlive.turns_tick actives
    | released =>
        dsimp only at hstep
        split at hstep
        case isFalse => cases hstep
        case isTrue =>
          cases hstep
          exact h.released

theorem coherent_inductive (uuid : Option String) :
    Inductive step (init uuid) (Coherent uuid) where
  start := ⟨fun _ => rfl, fun _ _ => rfl, nofun, .inl ⟨rfl, rfl, rfl, rfl⟩⟩
  next h hstep := h.next hstep

/-! ## The protocol -/

/-- What holds of the editor between any two dispatches. -/
structure ReconnectSafe (uuid : Option String) (s : State) : Prop where
  one : s.ctxs.length ≤ 1
  busy : s.reconnectBusy = true ↔ s.ctxs ≠ []
  finishes : ∀ id, .created ∈ entriesOf id s.log →
    (entriesOf id s.log).countP Act.isFinished = if id ∈ s.ctxs.map Prod.fst then 0 else 1
  afterwards : ∀ before id errorMsg after, s.log = before ++ (id, .finished errorMsg) :: after →
    ∀ entry ∈ after, entry.1 ≠ id
  valid : ∀ id, (id, .dangling) ∉ s.log
  handed : ∀ id, s.pending.countP (·.2 = id) + s.sources.countP (·.2 = id) =
    if id ∈ s.ctxs.map Prod.fst then 1 else 0
  runs : ∀ id, (entriesOf id s.log).countP Act.isRun ≤ 25
  polls : ∀ id, (entriesOf id s.log).countP Act.isPolled ≤ 21
  activation : ∀ before id after, s.log = before ++ (id, .activationRequested) :: after →
    (id, .committed) ∈ before ∧ ∃ actives, (id, .polled actives) ∈ before ∧ uuid ∉ actives

theorem Coherent.live_of_mem {s : State} {id : Nat} (h : Coherent uuid s)
    (hmem : id ∈ s.ctxs.map Prod.fst) :
    ∃ ctx stage, Live s id ctx stage ∧ Life uuid stage (entriesOf id s.log) := by
  rcases h.now with hidle | ⟨current, ctx, stage, -, hlive, hlife⟩
  · simp [hidle.ctxs] at hmem
  · rw [hlive.ctxs] at hmem
    rw [List.mem_singleton.mp hmem]
    exact ⟨ctx, stage, hlive, hlife⟩

theorem Coherent.life {s : State} (h : Coherent uuid s) (id : Nat) :
    ∃ stage, Life uuid stage (entriesOf id s.log) := by
  by_cases hlt : id < s.nextCtx
  · by_cases hmem : id ∈ s.ctxs.map Prod.fst
    · obtain ⟨ctx, stage, -, hlife⟩ := h.live_of_mem hmem
      exact ⟨stage, hlife⟩
    · exact ⟨_, h.ended id hlt hmem⟩
  · rw [h.fresh id (Nat.le_of_not_lt hlt)]
    exact ⟨_, Trace.nil⟩

theorem Registered.finishes {s : State} {id : Nat} {ctx : ReconnectCtx} {stage : Stage}
    (h : Registered s id ctx stage) : stage.finishes = 0 := by
  cases stage with
  | finished => exact h.elim
  | absent | waits | polls => rfl

theorem Live.countP_registered {s : State} {id : Nat} {ctx : ReconnectCtx} {stage : Stage}
    (h : Live s id ctx stage) (other : Nat) :
    s.pending.countP (·.2 = other) + s.sources.countP (·.2 = other) =
      if other ∈ s.ctxs.map Prod.fst then 1 else 0 := by
  have hregistered := h.registered
  rw [h.ctxs]
  cases stage with
  | waits callback =>
      rw [hregistered.1, hregistered.2]
      simp [List.countP_cons, eq_comm]
  | polls count =>
      rw [hregistered.1, hregistered.2.1]
      simp [List.countP_cons, eq_comm]
  | absent | finished => exact hregistered.elim

theorem Coherent.safe {s : State} (h : Coherent uuid s) : ReconnectSafe uuid s := by
  constructor
  case one =>
    rcases h.now with hidle | ⟨id, ctx, stage, -, hlive, -⟩
    · simp [hidle.ctxs]
    · simp [hlive.ctxs]
  case busy =>
    rcases h.now with hidle | ⟨id, ctx, stage, -, hlive, -⟩
    · simp [hidle.ctxs, hidle.busy]
    · simp [hlive.ctxs, hlive.busy]
  case finishes =>
    intro id hcreated
    split
    case isTrue hmem =>
      obtain ⟨ctx, stage, hlive, hlife⟩ := h.live_of_mem hmem
      rw [hlife.countP_isFinished, hlive.registered.finishes]
    case isFalse hmem =>
      have hlt : id < s.nextCtx := by
        by_contra hle
        rw [h.fresh id (Nat.le_of_not_lt hle)] at hcreated
        cases hcreated
      exact (h.ended id hlt hmem).countP_isFinished
  case afterwards =>
    intro before id errorMsg after hcut entry hentry
    obtain ⟨stage, hlife⟩ := h.life id
    have hnil := hlife.after_finished (hcut ▸ entriesOf_cut)
    exact entriesOf_eq_nil.mp hnil entry hentry
  case valid =>
    intro id hmem
    obtain ⟨stage, hlife⟩ := h.life id
    exact hlife.not_dangling (mem_entriesOf.mpr hmem)
  case handed =>
    intro id
    rcases h.now with hidle | ⟨current, ctx, stage, -, hlive, -⟩
    · simp [hidle.ctxs, hidle.pending, hidle.sources]
    · exact hlive.countP_registered id
  case runs =>
    intro id
    obtain ⟨stage, hlife⟩ := h.life id
    exact hlife.countP_isRun_le.trans stage.maxRuns_le
  case polls =>
    intro id
    obtain ⟨stage, hlife⟩ := h.life id
    exact hlife.countP_isPolled_le.trans stage.maxPolls_le
  case activation =>
    intro before id after hcut
    obtain ⟨stage, hlife⟩ := h.life id
    have hentries : entriesOf id s.log = _ := hcut ▸ entriesOf_cut
    obtain ⟨actives, hmem, hgone⟩ := hlife.gone_before hentries
    exact ⟨mem_entriesOf.mp (hlife.committed_before hentries),
      actives, mem_entriesOf.mp hmem, hgone⟩

/-- After whatever clicks, completions and polls in whatever order. -/
theorem reconnect_safe (uuid : Option String) (events : List Event) :
    ReconnectSafe uuid (final step (init uuid) events) :=
  ((coherent_inductive uuid).final events).safe

/-- A run through all the stages, where the second click and the last tick do nothing. -/
example :
    (final step (init (some "u"))
      [.clicked, .clicked,
        .completes (.clientReady (.ok [("u", ⟨[], [], by decide, by decide⟩)])
          (Editor.initEditorPlugin false .agentOwned none)) 0,
        .completes (.commitDone (.ok ()) [some "u"]) 0, .completes (.deactivateDone (.ok ())) 0,
        .ticks 1 [some "u"], .ticks 1 [], .completes (.activateDone (.ok ())) 0,
        .ticks 1 []]).log.map Prod.snd =
      [.created, .called .clientReady, .called .commitDone, .committed, .called .deactivateDone,
        .polled [some "u"], .polled [], .activationRequested, .called .activateDone,
        .finished none] := by decide +kernel

end AirVpn.Reconnect
