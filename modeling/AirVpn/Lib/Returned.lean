import Mathlib.Tactic.Common

/-! # Results beside an error argument

The convention of C libraries: a function returns a value or nothing, and reports
through an error argument. Nothing in the convention itself makes the two agree.
-/

/-- What a function returned, and what its error argument then held. -/
structure Returned (ε α : Type*) where
  value : Option α
  error : Option ε
  deriving DecidableEq, Repr

namespace Returned

variable {ε α β : Type*}

def ok (a : α) : Returned ε α := ⟨some a, none⟩

def fail (e : ε) : Returned ε α := ⟨none, some e⟩

def silent : Returned ε α := ⟨none, none⟩

/-- The caller goes on if there is a value, and returns nothing otherwise. Both
report through one argument, which keeps the first error. -/
def bind (r : Returned ε α) (k : α → Returned ε β) : Returned ε β :=
  match r.value with
  | none => ⟨none, r.error⟩
  | some a => ⟨(k a).value, r.error.or (k a).error⟩

def ofExcept : Except ε α → Returned ε α
  | .error e => fail e
  | .ok a => ok a

/-- There is an error exactly when there is no value. -/
def Clean (r : Returned ε α) : Prop := r.value.isSome = r.error.isNone

@[simp] theorem value_ok (a : α) : (ok a : Returned ε α).value = some a := rfl

@[simp] theorem value_fail (e : ε) : (fail e : Returned ε α).value = none := rfl

instance (r : Returned ε α) : Decidable r.Clean := inferInstanceAs (Decidable (_ = _))

theorem clean_ofExcept (x : Except ε α) : (ofExcept x).Clean := by cases x <;> rfl

theorem clean_iff {r : Returned ε α} : r.Clean ↔ ∃ x, r = ofExcept x := by
  constructor
  · intro h
    obtain ⟨value, error⟩ := r
    unfold Clean at h
    cases value with
    | none =>
        cases error with
        | none => cases h
        | some e => exact ⟨.error e, rfl⟩
    | some a =>
        cases error with
        | none => exact ⟨.ok a, rfl⟩
        | some e => cases h
  · rintro ⟨x, rfl⟩
    exact clean_ofExcept x

@[simp] theorem clean_ok (a : α) : (ok a : Returned ε α).Clean := rfl

theorem not_clean_silent : ¬ (silent : Returned ε α).Clean := by
  intro h
  cases h

@[simp] theorem bind_ok (a : α) (k : α → Returned ε β) : (ok a).bind k = k a := rfl

@[simp] theorem bind_fail (e : ε) (k : α → Returned ε β) : (fail e).bind k = fail e := rfl

@[simp] theorem ofExcept_ok (a : α) : (ofExcept (.ok a) : Returned ε α) = ok a := rfl

@[simp] theorem ofExcept_error (e : ε) : (ofExcept (.error e) : Returned ε α) = fail e := rfl

theorem bind_value_eq_some {r : Returned ε α} {k : α → Returned ε β} {b : β} :
    (r.bind k).value = some b ↔ ∃ a, r.value = some a ∧ (k a).value = some b := by
  obtain ⟨value, error⟩ := r
  cases value with
  | none => simp [bind]
  | some a => simp [bind]

theorem forall_error_bind {P : ε → Prop} {r : Returned ε α} {k : α → Returned ε β}
    (hr : ∀ e, r.error = some e → P e) (hk : ∀ a e, (k a).error = some e → P e) :
    ∀ e, (r.bind k).error = some e → P e := by
  intro e he
  obtain ⟨value, error⟩ := r
  cases value with
  | none => exact hr e he
  | some a =>
      cases error with
      | none => exact hk a e he
      | some e' =>
          cases he
          exact hr e rfl

@[simp] theorem value_ofExcept (x : Except ε α) : (ofExcept x).value = x.toOption := by
  cases x <;> rfl

theorem Clean.bind {r : Returned ε α} (hr : r.Clean) {k : α → Returned ε β}
    (hk : ∀ a, (k a).Clean) : (r.bind k).Clean := by
  obtain ⟨x, rfl⟩ := clean_iff.mp hr
  cases x with
  | error e => rfl
  | ok a => exact hk a

theorem Clean.ite {p : Prop} [Decidable p] {r t : Returned ε α} (hr : p → r.Clean)
    (ht : ¬ p → t.Clean) : (if p then r else t).Clean := by
  split
  · next h => exact hr h
  · next h => exact ht h

end Returned
