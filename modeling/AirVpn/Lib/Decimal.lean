import Mathlib.Algebra.Group.Nat.Defs
import Mathlib.Data.List.Induction
import Mathlib.Data.List.TakeWhile
import Mathlib.Tactic.Common

/-! # Decimal texts

Texts of decimal digits and the numbers that they write. The shortest text of a
number is `Nat.toDigits 10`.
-/

namespace Decimal

structure Plain (text : List Char) : Prop where
  ne_nil : text ≠ []
  digits : ∀ c ∈ text, c.isDigit = true

instance (text : List Char) : Decidable (Plain text) :=
  decidable_of_iff (text ≠ [] ∧ text.all Char.isDigit = true)
    ⟨fun h => ⟨h.1, List.all_eq_true.mp h.2⟩,
      fun h => ⟨h.ne_nil, List.all_eq_true.mpr h.digits⟩⟩

def value (text : List Char) : Nat := Nat.ofDigitChars 10 text 0

theorem plain_toDigits (n : Nat) : Plain (Nat.toDigits 10 n) where
  ne_nil := Nat.toDigits_ne_nil
  digits _ hc := Nat.isDigit_of_mem_toDigits (by decide) (by decide) hc

@[simp] theorem value_toDigits (n : Nat) : value (Nat.toDigits 10 n) = n :=
  Nat.ofDigitChars_ten_toDigits

theorem Plain.takeWhile {text : List Char} (h : Plain text) :
    text.takeWhile Char.isDigit = text :=
  List.takeWhile_eq_self_iff.mpr h.digits

theorem value_append_singleton (text : List Char) (c : Char) :
    value (text ++ [c]) = 10 * value text + (c.toNat - 48) := by
  simp [value, Nat.ofDigitChars_append, Nat.ofDigitChars_cons]

theorem digit_le {c : Char} (h : c.isDigit = true) : 48 ≤ c.toNat ∧ c.toNat ≤ 57 := by
  simpa [Char.isDigit, UInt32.le_iff_toNat_le] using h

theorem value_lt {text : List Char} (h : ∀ c ∈ text, c.isDigit = true) :
    value text < 10 ^ text.length := by
  induction text using List.reverseRecOn with
  | nil => simp [value]
  | append_singleton text c ih =>
      have hrest := ih fun d hd => h d (List.mem_append_left _ hd)
      have hc := digit_le (h c (by simp))
      rw [value_append_singleton, List.length_append, List.length_singleton, Nat.pow_succ]
      omega

theorem Plain.length_toDigits_le {text : List Char} (h : Plain text) :
    (Nat.toDigits 10 (value text)).length ≤ text.length :=
  (Nat.length_toDigits_le_iff (by decide) (List.length_pos_iff.mpr h.ne_nil)).mpr
    (value_lt h.digits)

end Decimal
