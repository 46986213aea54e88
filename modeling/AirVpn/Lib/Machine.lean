import Mathlib.Tactic.Common

/-! # Runs of an event machine

A machine is a partial step function: an event that is not enabled in a state
does not happen. A run is the list of the transitions that a list of events
makes, so that every list of events is a run and no statement about runs needs
a side condition on its events. Equal repeated transitions stay positionally
distinct.
-/

namespace AirVpn.Machine

variable {σ ε : Type}

/-- One executed event, with the states around it. -/
structure Transition (σ ε : Type) where
  before : σ
  event : ε
  after : σ

/-- The transitions of a list of events, in order. -/
def run (step : σ → ε → Option σ) : σ → List ε → List (Transition σ ε)
  | _, [] => []
  | s, e :: es =>
      match step s e with
      | none => run step s es
      | some s' => ⟨s, e, s'⟩ :: run step s' es

def final (step : σ → ε → Option σ) : σ → List ε → σ
  | s, [] => s
  | s, e :: es => final step ((step s e).getD s) es

variable {step : σ → ε → Option σ}

@[simp] theorem run_nil (s : σ) : run step s [] = [] := rfl

@[simp] theorem final_nil (s : σ) : final step s [] = s := rfl

theorem run_cons_none {s : σ} {e : ε} (h : step s e = none) (es : List ε) :
    run step s (e :: es) = run step s es := by
  simp [run, h]

theorem run_cons_some {s s' : σ} {e : ε} (h : step s e = some s') (es : List ε) :
    run step s (e :: es) = ⟨s, e, s'⟩ :: run step s' es := by
  simp [run, h]

theorem run_append (s : σ) (first second : List ε) :
    run step s (first ++ second) =
      run step s first ++ run step (final step s first) second := by
  induction first generalizing s with
  | nil => rfl
  | cons e es ih =>
      cases h : step s e with
      | none => simp [run, final, h, ih]
      | some s' => simp [run, final, h, ih]

theorem mem_run_append {s s' : σ} {first : List ε} {e : ε}
    (h : step (final step s first) e = some s') (rest : List ε) :
    ⟨final step s first, e, s'⟩ ∈ run step s (first ++ e :: rest) := by
  rw [run_append, run_cons_some h]
  exact List.mem_append_right _ List.mem_cons_self

theorem mem_run_step {s : σ} {es : List ε} {t : Transition σ ε} (h : t ∈ run step s es) :
    step t.before t.event = some t.after := by
  induction es generalizing s with
  | nil => simp at h
  | cons e es ih =>
      cases hs : step s e with
      | none =>
          rw [run_cons_none hs] at h
          exact ih h
      | some s' =>
          rw [run_cons_some hs] at h
          rcases List.mem_cons.mp h with rfl | h
          · exact hs
          · exact ih h

/-! ## Invariants -/

/-- `I` holds at the start and every enabled event keeps it. -/
structure Inductive (step : σ → ε → Option σ) (s₀ : σ) (I : σ → Prop) : Prop where
  start : I s₀
  next : ∀ {s e s'}, I s → step s e = some s' → I s'

theorem Inductive.restart {s₀ s : σ} {I : σ → Prop} (hI : Inductive step s₀ I) (hs : I s) :
    Inductive step s I := ⟨hs, hI.next⟩

theorem Inductive.final {s₀ : σ} {I : σ → Prop} (hI : Inductive step s₀ I) (es : List ε) :
    I (final step s₀ es) := by
  induction es generalizing s₀ with
  | nil => exact hI.start
  | cons e es ih =>
      cases h : step s₀ e with
      | none => simpa [Machine.final, h] using ih hI
      | some s' => simpa [Machine.final, h] using ih (hI.restart (hI.next hI.start h))

theorem Inductive.run {s₀ : σ} {I : σ → Prop} (hI : Inductive step s₀ I) {es : List ε}
    {t : Transition σ ε} (ht : t ∈ run step s₀ es) : I t.before ∧ I t.after := by
  induction es generalizing s₀ with
  | nil => simp at ht
  | cons e es ih =>
      cases h : step s₀ e with
      | none =>
          rw [run_cons_none h] at ht
          exact ih hI ht
      | some s' =>
          have hs' := hI.next hI.start h
          rw [run_cons_some h] at ht
          rcases List.mem_cons.mp ht with rfl | ht
          · exact ⟨hI.start, hs'⟩
          · exact ih (hI.restart hs') ht

theorem Inductive.and {s₀ : σ} {I J : σ → Prop} (hI : Inductive step s₀ I)
    (hJ : ∀ {s e s'}, I s → J s → step s e = some s' → J s') (hj : J s₀) :
    Inductive step s₀ fun s => I s ∧ J s :=
  ⟨⟨hI.start, hj⟩, fun h hs => ⟨hI.next h.1 hs, hJ h.1 h.2 hs⟩⟩

/-! ## Conditions on the steps of a run -/

def Always (P : Transition σ ε → Prop) (ts : List (Transition σ ε)) : Prop := ∀ t ∈ ts, P t

/-- Where the last event of a list is enabled, its transition has the property,
beside whatever is known of the state it leads to. -/
theorem Always.last {P : Transition σ ε → Prop} {s : σ} {first : List ε} {e : ε}
    (h : Always P (run step s (first ++ [e]))) {Q : σ → Prop}
    (henabled : (step (final step s first) e).isSome = true)
    (hQ : ∀ s' ∈ step (final step s first) e, Q s') :
    ∃ s', Q s' ∧ P ⟨final step s first, e, s'⟩ := by
  obtain ⟨s', hs⟩ := Option.isSome_iff_exists.mp henabled
  exact ⟨s', hQ s' hs, h _ (mem_run_append hs [])⟩

/-- Every transition of a run has the property, given the transitions before it. -/
def AlwaysAfter (P : List (Transition σ ε) → Transition σ ε → Prop)
    (ts : List (Transition σ ε)) : Prop :=
  ∀ i (h : i < ts.length), P (ts.take i) ts[i]

theorem AlwaysAfter.always {P : List (Transition σ ε) → Transition σ ε → Prop}
    {Q : Transition σ ε → Prop} {ts : List (Transition σ ε)} (h : AlwaysAfter P ts)
    (hPQ : ∀ past t, P past t → Q t) : Always Q ts := by
  intro t ht
  obtain ⟨i, hi, rfl⟩ := List.mem_iff_getElem.mp ht
  exact hPQ _ _ (h i hi)

theorem AlwaysAfter.last {P : List (Transition σ ε) → Transition σ ε → Prop} {s : σ}
    {first : List ε} {e : ε} (h : AlwaysAfter P (run step s (first ++ [e]))) {Q : σ → Prop}
    (henabled : (step (final step s first) e).isSome = true)
    (hQ : ∀ s' ∈ step (final step s first) e, Q s') :
    ∃ s', Q s' ∧ P (run step s first) ⟨final step s first, e, s'⟩ := by
  obtain ⟨s', hs⟩ := Option.isSome_iff_exists.mp henabled
  have hrun : run step s (first ++ [e]) = run step s first ++ [⟨final step s first, e, s'⟩] := by
    rw [run_append, run_cons_some hs, run_nil]
  rw [hrun] at h
  refine ⟨s', hQ s' hs, ?_⟩
  simpa using h (run step s first).length (by simp)

theorem Inductive.always {s₀ : σ} {I : σ → Prop} {P : Transition σ ε → Prop}
    (hI : Inductive step s₀ I)
    (hP : ∀ t, I t.before → step t.before t.event = some t.after → P t) (es : List ε) :
    Always P (Machine.run step s₀ es) :=
  fun t ht => hP t (hI.run ht).1 (mem_run_step ht)

/-- Where an invariant makes two transition properties equivalent, every run
has the one throughout exactly when it has the other throughout. -/
theorem run_forall_iff {s₀ : σ} {I : σ → Prop} {P Q : Transition σ ε → Prop}
    (hI : Inductive step s₀ I)
    (hPQ : ∀ t, I t.before → step t.before t.event = some t.after → (P t ↔ Q t))
    (es : List ε) :
    Always P (run step s₀ es) ↔ Always Q (run step s₀ es) :=
  forall₂_congr fun t ht => hPQ t (hI.run ht).1 (mem_run_step ht)

/-- A state property that the steps meeting a condition preserve holds after
every step of a run whose steps all meet the condition. -/
theorem run_safe {s₀ : σ} {I P : σ → Prop} {Q : Transition σ ε → Prop}
    (hI : Inductive step s₀ I) (hP : P s₀)
    (hstep : ∀ t, I t.before → P t.before → step t.before t.event = some t.after →
      Q t → P t.after)
    (es : List ε) (hQ : Always Q (run step s₀ es)) :
    Always (fun t => P t.before ∧ P t.after) (run step s₀ es) := by
  induction es generalizing s₀ with
  | nil => simp [Always]
  | cons e es ih =>
      cases h : step s₀ e with
      | none =>
          rw [run_cons_none h] at hQ ⊢
          exact ih hI hP hQ
      | some s' =>
          rw [run_cons_some h] at hQ ⊢
          have hs' : P s' := hstep ⟨s₀, e, s'⟩ hI.start hP h (hQ _ (by simp))
          intro t ht
          rcases List.mem_cons.mp ht with rfl | ht
          · exact ⟨hP, hs'⟩
          · exact ih (hI.restart (hI.next hI.start h)) hs'
              (fun t ht => hQ t (List.mem_cons_of_mem _ ht)) t ht

/-- The exact form: when a step from a safe state ends in a safe state if and
only if it meets the condition, a run is safe throughout if and only if all its
steps meet the condition. -/
theorem run_safe_iff {s₀ : σ} {I P : σ → Prop} {Q : Transition σ ε → Prop}
    (hI : Inductive step s₀ I) (hP : P s₀)
    (hstep : ∀ t, I t.before → P t.before → step t.before t.event = some t.after →
      (P t.after ↔ Q t))
    (es : List ε) :
    Always (fun t => P t.after) (run step s₀ es) ↔ Always Q (run step s₀ es) := by
  constructor
  · intro h
    induction es generalizing s₀ with
    | nil => simp [Always]
    | cons e es ih =>
        cases hs : step s₀ e with
        | none =>
            rw [run_cons_none hs] at h ⊢
            exact ih hI hP h
        | some s' =>
            rw [run_cons_some hs] at h ⊢
            have hs' : P s' := h ⟨s₀, e, s'⟩ (by simp)
            intro t ht
            rcases List.mem_cons.mp ht with rfl | ht
            · exact (hstep _ hI.start hP hs).mp hs'
            · exact ih (hI.restart (hI.next hI.start hs)) hs'
                (fun t ht => h t (List.mem_cons_of_mem _ ht)) t ht
  · intro h t ht
    exact (run_safe hI hP (fun t hi hp hs hq => (hstep t hi hp hs).mpr hq) es h t ht).2

end AirVpn.Machine
