import Mathlib.Data.List.Basic
import Mathlib.Tactic.Common

/-! # A log that several instances share

The entries of one instance, in their order: what is known of the order of these is
known of the shared log.
-/

namespace Logs

variable {ι α : Type*} [DecidableEq ι] {i j : ι} {x : α} {log before after : List (ι × α)}

def entriesOf (i : ι) (log : List (ι × α)) : List α :=
  (log.filter (·.1 = i)).map Prod.snd

theorem entriesOf_append :
    entriesOf i (before ++ after) = entriesOf i before ++ entriesOf i after := by
  simp [entriesOf]

theorem entriesOf_cons_self : entriesOf i ((i, x) :: log) = x :: entriesOf i log := by
  simp [entriesOf]

theorem entriesOf_own (xs : List α) : entriesOf i (xs.map (i, ·)) = xs := by
  induction xs with
  | nil => rfl
  | cons x xs ih => rw [List.map_cons, entriesOf_cons_self, ih]

theorem entriesOf_foreign (h : i ≠ j) (xs : List α) : entriesOf j (xs.map (i, ·)) = [] := by
  unfold entriesOf
  rw [List.map_eq_nil_iff, List.filter_eq_nil_iff]
  intro entry hentry
  obtain ⟨x, -, rfl⟩ := List.mem_map.mp hentry
  simpa using h

theorem entriesOf_append_own (xs : List α) :
    entriesOf i (log ++ xs.map (i, ·)) = entriesOf i log ++ xs := by
  rw [entriesOf_append, entriesOf_own]

theorem entriesOf_append_foreign (h : i ≠ j) (xs : List α) :
    entriesOf j (log ++ xs.map (i, ·)) = entriesOf j log := by
  rw [entriesOf_append, entriesOf_foreign h, List.append_nil]

theorem mem_entriesOf : x ∈ entriesOf i log ↔ (i, x) ∈ log := by
  simp [entriesOf]

theorem entriesOf_eq_nil : entriesOf i log = [] ↔ ∀ entry ∈ log, entry.1 ≠ i := by
  simp [entriesOf]

theorem entriesOf_cut :
    entriesOf i (before ++ (i, x) :: after) = entriesOf i before ++ x :: entriesOf i after := by
  rw [entriesOf_append, entriesOf_cons_self]

end Logs
