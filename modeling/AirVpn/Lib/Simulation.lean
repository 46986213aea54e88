import AirVpn.Lib.Machine
import AirVpn.Lib.Traces

/-! # Runs beside what they mean

What is known of a state and of the transitions that led to it, machines that follow
one another step by step, the traces that a run writes, and events that use
something up.
-/

namespace AirVpn.Machine

open Traces

variable {σ τ ε δ α β : Type} {step : σ → ε → Option σ} {step' : τ → δ → Option τ} {s₀ : σ}

/-! ## The transitions so far -/

/-- A property of the state and of the transitions so far that every step keeps. -/
theorem final_induction {P : σ → List (Transition σ ε) → Prop} (hstart : P s₀ [])
    (hnext : ∀ ts t, P t.before ts → step t.before t.event = some t.after → P t.after (ts ++ [t]))
    (es : List ε) : P (final step s₀ es) (run step s₀ es) := by
  have general : ∀ (es : List ε) (s : σ) (ts : List (Transition σ ε)), P s ts →
      P (final step s es) (ts ++ run step s es) := by
    intro es
    induction es with
    | nil =>
        intro s ts h
        simpa using h
    | cons e es ih =>
        intro s ts h
        cases hs : step s e with
        | none => simpa [final, run, hs] using ih s ts h
        | some s' =>
            have hnew := ih s' (ts ++ [⟨s, e, s'⟩]) (hnext ts ⟨s, e, s'⟩ h hs)
            simpa [final, run, hs] using hnew
  simpa using general es s₀ [] hstart

theorem Always.append {P : Transition σ ε → Prop} {ts us : List (Transition σ ε)} :
    Always P (ts ++ us) ↔ Always P ts ∧ Always P us := List.forall_mem_append

theorem Always.singleton {P : Transition σ ε → Prop} {t : Transition σ ε} :
    Always P [t] ↔ P t := List.forall_mem_singleton

theorem mem_run_event {s : σ} {es : List ε} {t : Transition σ ε} (h : t ∈ run step s es) :
    t.event ∈ es := by
  induction es generalizing s with
  | nil => cases h
  | cons e es ih =>
      cases he : step s e with
      | none =>
          rw [run_cons_none he] at h
          exact List.mem_cons_of_mem _ (ih h)
      | some s' =>
          rw [run_cons_some he] at h
          rcases List.mem_cons.mp h with rfl | h
          · exact List.mem_cons_self
          · exact List.mem_cons_of_mem _ (ih h)

/-! ## Machines that follow one another -/

def Transition.map (f : σ → τ) (g : ε → δ) (t : Transition σ ε) : Transition τ δ :=
  ⟨f t.before, g t.event, f t.after⟩

/-- The second machine does with the images what the first one does. -/
def Follows (step : σ → ε → Option σ) (step' : τ → δ → Option τ) (f : σ → τ) (g : ε → δ) : Prop :=
  ∀ s e, step' (f s) (g e) = (step s e).map f

theorem Follows.run {f : σ → τ} {g : ε → δ} (h : Follows step step' f g) (s : σ) (es : List ε) :
    run step' (f s) (es.map g) = (run step s es).map (Transition.map f g) := by
  induction es generalizing s with
  | nil => rfl
  | cons e es ih =>
      have he := h s e
      cases hs : step s e with
      | none =>
          rw [hs] at he
          rw [List.map_cons, run_cons_none he, run_cons_none hs, ih]
      | some s' =>
          rw [hs] at he
          rw [List.map_cons, run_cons_some he, run_cons_some hs, ih]
          rfl

theorem Follows.run_congr {f : σ → τ} {g : ε → δ} (h : Follows step step' f g) {es es' : List ε}
    (hes : es.map g = es'.map g) :
    (Machine.run step s₀ es).map (Transition.map f g) =
      (Machine.run step s₀ es').map (Transition.map f g) := by
  rw [← h.run, ← h.run, hes]

/-! ## What a run writes -/

/-- The abstract transitions that the steps of a run stand for make a trace. -/
theorem trace_of_run {I : σ → Prop} {next : α → List β → α → Prop} (abstract : σ → α)
    (writes : Transition σ ε → List β) (hI : Inductive step s₀ I)
    (hnext : ∀ t, I t.before → step t.before t.event = some t.after →
      next (abstract t.before) (writes t) (abstract t.after))
    (es : List ε) :
    Trace next (abstract s₀) (abstract (final step s₀ es)) ((run step s₀ es).flatMap writes) := by
  have h : I (final step s₀ es) ∧
      Trace next (abstract s₀) (abstract (final step s₀ es)) ((run step s₀ es).flatMap writes) :=
    final_induction
      (P := fun s ts => I s ∧ Trace next (abstract s₀) (abstract s) (ts.flatMap writes))
      ⟨hI.start, .nil⟩
      (fun ts t h hs => by
        refine ⟨hI.next h.1 hs, ?_⟩
        rw [List.flatMap_append, List.flatMap_singleton]
        exact h.2.snoc (hnext t h.1 hs)) es
  exact h.2

/-! ## Events that use something up -/

/-- Every event of a kind that happens leaves less to do. -/
structure UsesUp (step : σ → ε → Option σ) (I : σ → Prop) (kind : ε → Prop) (work : σ → Nat) :
    Prop where
  keeps : ∀ {s e s'}, I s → kind e → step s e = some s' → I s'
  less : ∀ {s e s'}, I s → kind e → step s e = some s' → work s' < work s

namespace UsesUp

variable {I : σ → Prop} {kind : ε → Prop} {work : σ → Nat}

theorem length_le (h : UsesUp step I kind work) {s : σ} (hs : I s) {es : List ε}
    (hes : ∀ e ∈ es, kind e) :
    (Machine.run step s es).length + work (final step s es) ≤ work s := by
  induction es generalizing s with
  | nil => simp
  | cons e es ih =>
      have hrest := fun e' he' => hes e' (List.mem_cons_of_mem _ he')
      have hkind := hes e List.mem_cons_self
      cases he : step s e with
      | none => simpa [Machine.run, final, he] using ih hs hrest
      | some s' =>
          have hlater := ih (h.keeps hs hkind he) hrest
          have hless := h.less hs hkind he
          simp only [Machine.run, final, he, List.length_cons, Option.getD_some]
          omega

theorem exists_end (h : UsesUp step I kind work) {s : σ} (hs : I s) :
    ∃ es, (∀ e ∈ es, kind e) ∧ ∀ e, kind e → step (final step s es) e = none := by
  induction hn : work s using Nat.strongRecOn generalizing s with
  | ind n ih =>
      by_cases hend : ∀ e, kind e → step s e = none
      · exact ⟨[], nofun, hend⟩
      · simp only [not_forall] at hend
        obtain ⟨e, hkind, he⟩ := hend
        obtain ⟨s', he⟩ := Option.ne_none_iff_exists'.mp he
        have hless : work s' < n := hn ▸ h.less hs hkind he
        obtain ⟨es, hes, hlast⟩ := ih (work s') hless (h.keeps hs hkind he) rfl
        refine ⟨e :: es, fun e' he' => ?_, ?_⟩
        · rcases List.mem_cons.mp he' with rfl | he'
          · exact hkind
          · exact hes e' he'
        · simpa [final, he] using hlast

end UsesUp

end AirVpn.Machine
