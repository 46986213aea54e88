import Mathlib.Data.List.Basic
import Mathlib.Tactic.Common

/-! # Traces of a labelled transition relation

A transition may emit several actions at once. What every transition does to a count, or
has to wait for before it emits an action, holds of all that has been emitted.
-/

namespace Traces

variable {σ α : Type*} {next : σ → List α → σ → Prop} {start s : σ} {acts : List α}

/-- What has been emitted on the way from the start to a state. -/
inductive Trace (next : σ → List α → σ → Prop) (start : σ) : σ → List α → Prop
  | nil : Trace next start start []
  | snoc {s s' : σ} {acts new : List α} :
      Trace next start s acts → next s new s' → Trace next start s' (acts ++ new)

theorem cut_append {old new front back : List α} {x : α} (h : old ++ new = front ++ x :: back) :
    (∃ rest, old = front ++ x :: rest ∧ back = rest ++ new) ∨
      ∃ middle, front = old ++ middle ∧ new = middle ++ x :: back := by
  rcases List.append_eq_append_iff.mp h with ⟨middle, hfront, hnew⟩ | ⟨middle, hold, hback⟩
  · exact .inr ⟨middle, hfront, hnew⟩
  · cases middle with
    | nil => exact .inr ⟨[], by simpa using hold.symm, by simpa using hback.symm⟩
    | cons y middle =>
        obtain ⟨rfl, hrest⟩ := List.cons.inj hback
        exact .inl ⟨middle, hold, hrest⟩

namespace Trace

theorem countP_le {p : α → Bool} {bound : σ → Nat}
    (hnext : ∀ {s new s'}, next s new s' → bound s + new.countP p ≤ bound s')
    (h : Trace next start s acts) : acts.countP p ≤ bound s := by
  induction h with
  | nil => exact Nat.zero_le _
  | snoc _ hstep ih =>
      rw [List.countP_append]
      exact Nat.le_trans (Nat.add_le_add_right ih _) (hnext hstep)

theorem countP_eq {p : α → Bool} {count : σ → Nat} (hstart : count start = 0)
    (hnext : ∀ {s new s'}, next s new s' → count s + new.countP p = count s')
    (h : Trace next start s acts) : acts.countP p = count s := by
  induction h with
  | nil => exact hstart.symm
  | snoc _ hstep ih => rw [List.countP_append, ih, hnext hstep]

theorem increasing {key : α → Nat} {bound : σ → Nat}
    (hnew : ∀ {s new s'}, next s new s' → new.Pairwise fun a b => key a < key b)
    (habove : ∀ {s new s'}, next s new s' → ∀ x ∈ new, bound s < key x)
    (hbelow : ∀ {s new s'}, next s new s' → bound s ≤ bound s' ∧ ∀ x ∈ new, key x ≤ bound s')
    (h : Trace next start s acts) : acts.Pairwise fun a b => key a < key b := by
  have hall : (acts.Pairwise fun a b => key a < key b) ∧ ∀ x ∈ acts, key x ≤ bound s := by
    induction h with
    | nil => exact ⟨.nil, nofun⟩
    | snoc _ hstep ih =>
        have hbelow := hbelow hstep
        refine ⟨List.pairwise_append.mpr ⟨ih.1, hnew hstep, fun a ha b hb => ?_⟩, fun x hx => ?_⟩
        · exact Nat.lt_of_le_of_lt (ih.2 a ha) (habove hstep b hb)
        · rcases List.mem_append.mp hx with hx | hx
          · exact Nat.le_trans (ih.2 x hx) hbelow.1
          · exact hbelow.2 x hx
  exact hall.1

theorem forall_mem {P : α → Prop} (hnext : ∀ {s new s'}, next s new s' → ∀ x ∈ new, P x)
    (h : Trace next start s acts) : ∀ x ∈ acts, P x := by
  induction h with
  | nil => exact nofun
  | snoc _ hstep ih =>
      intro x hx
      rcases List.mem_append.mp hx with hx | hx
      · exact ih x hx
      · exact hnext hstep x hx

section

variable (P : α → Prop) (known : σ → Prop) (hstart : ¬ known start)
  (hnext : ∀ {s new s'}, next s new s' → known s' → known s ∨ ∃ y ∈ new, P y)

include hstart hnext

/-- In a state that is only reached by emitting an action, it has been emitted. -/
theorem exists_mem (h : Trace next start s acts) (hknown : known s) : ∃ y ∈ acts, P y := by
  induction h with
  | nil => exact absurd hknown hstart
  | snoc _ hstep ih =>
      rcases hnext hstep hknown with hbefore | ⟨y, hy, hP⟩
      · obtain ⟨y, hy, hP⟩ := ih hbefore
        exact ⟨y, List.mem_append_left _ hy, hP⟩
      · exact ⟨y, List.mem_append_right _ hy, hP⟩

/-- An action that is emitted last, and only once another has been, comes after it. -/
theorem precedes {x : α}
    (hemit : ∀ {s new s'}, next s new s' → x ∈ new →
      ∃ front, new = front ++ [x] ∧ x ∉ front ∧ (known s ∨ ∃ y ∈ front, P y))
    (h : Trace next start s acts) {before after : List α} (hcut : acts = before ++ x :: after) :
    ∃ y ∈ before, P y := by
  induction h generalizing after with
  | nil => simp at hcut
  | @snoc s s' acts new htrace hstep ih =>
      rcases cut_append hcut with ⟨rest, hold, -⟩ | ⟨middle, rfl, hnew⟩
      · exact ih hold
      · obtain ⟨front, hfront, hx, hor⟩ := hemit hstep (hnew ▸ by simp)
        have hmiddle : middle = front := by
          rcases cut_append (hfront.symm.trans hnew) with ⟨rest, rfl, -⟩ | ⟨m, rfl, hlast⟩
          · exact absurd (by simp) hx
          · cases m with
            | nil => exact List.append_nil _
            | cons y m => simp at hlast
        rcases hor with hknown | ⟨y, hy, hP⟩
        · obtain ⟨y, hy, hP⟩ := htrace.exists_mem P known hstart hnext hknown
          exact ⟨y, List.mem_append_left _ hy, hP⟩
        · exact ⟨y, List.mem_append_right _ (hmiddle ▸ hy), hP⟩

end

/-- Nothing is emitted after an action that leads to a state without transitions. -/
theorem last (p : α → Prop) (done : σ → Prop)
    (hdone : ∀ {s new s'}, next s new s' → ¬ done s)
    (hlast : ∀ {s new s'}, next s new s' → ∀ x ∈ new.dropLast, ¬ p x)
    (hreach : ∀ {s new s'}, next s new s' → ∀ x ∈ new, p x → done s')
    (h : Trace next start s acts) {before after : List α} {x : α}
    (hcut : acts = before ++ x :: after) (hx : p x) : after = [] ∧ done s := by
  induction h generalizing after with
  | nil => simp at hcut
  | snoc htrace hstep ih =>
      rcases cut_append hcut with ⟨rest, hold, -⟩ | ⟨middle, rfl, rfl⟩
      · exact absurd (ih hold).2 (hdone hstep)
      · refine ⟨?_, hreach hstep x (by simp) hx⟩
        by_contra hne
        refine hlast hstep x ?_ hx
        rw [List.dropLast_append_of_ne_nil (List.cons_ne_nil x after),
          List.dropLast_cons_of_ne_nil hne]
        simp

end Trace

end Traces
