import AirVpn.Lib.Text
import AirVpn.Model.Glib

/-! # Numbers read strictly

`_nm_utils_ascii_str_to_int64` of `nm-shared-utils.c` over `g_ascii_strtoll`, and the
texts that it takes.
-/

namespace AirVpn

/-! ## The conversion -/

/-- The result of `g_ascii_strtoll` in base 10: the value, what follows it, and whether
`errno` is set. -/
structure Strtoll where
  value : Int
  rest : List Char
  erange : Bool

/-- The digits after a sign: the value saturates beyond 64 bits. -/
def strtollDigits (negative : Bool) (text digits : List Char) : Strtoll :=
  if digits.takeWhile gAsciiIsDigit = [] then ⟨0, text, false⟩
  else
    let magnitude : Int := leadingDigits digits
    { value := if negative then max longMin (-magnitude) else min longMax magnitude
      rest := digits.dropWhile gAsciiIsDigit
      erange := if negative then -magnitude < longMin else longMax < magnitude }

/-- Without digits nothing is read, the blanks before them included. -/
def gAsciiStrtoll (text : List Char) : Strtoll :=
  match text.dropWhile isSpace with
  | '-' :: rest => strtollDigits true text rest
  | '+' :: rest => strtollDigits false text rest
  | rest => strtollDigits false text rest

def checkStrtoll (v : Strtoll) (lower upper : Int) : Option Int :=
  if v.erange then none
  else if v.rest.dropWhile gAsciiIsSpace ≠ [] then none
  else if upper < v.value || v.value < lower then none
  else some v.value

/-- `_nm_utils_ascii_str_to_int64` in base 10; `none` is the fallback, with `errno`
set. -/
def nmUtilsAsciiStrToInt64 (str : Option (List Char)) (lower upper : Int) : Option Int :=
  let text := (str.getD []).dropWhile gAsciiIsSpace
  if text = [] then none else checkStrtoll (gAsciiStrtoll text) lower upper

/-! ## What it takes -/

/-- A decimal integer, with or without a sign and with white space around it. -/
def DecimalInteger (text : List Char) (n : Int) : Prop :=
  ∃ before sign digits after, text = before ++ (sign ++ (digits ++ after)) ∧
    (∀ c ∈ before, isSpace c = true) ∧ Decimal.Plain digits ∧
    (∀ c ∈ after, gAsciiIsSpace c = true) ∧
    ((sign = [] ∨ sign = ['+']) ∧ n = Decimal.value digits ∨
      sign = ['-'] ∧ n = -(Decimal.value digits : Int))

theorem isSpace_of_gAsciiIsSpace {c : Char} (h : gAsciiIsSpace c = true) : isSpace c = true := by
  unfold isSpace
  rw [h]
  rfl

theorem isSpace_of_isDigit {c : Char} (h : c.isDigit = true) : isSpace c = false := by
  have hcode := Decimal.digit_le h
  unfold isSpace gAsciiIsSpace
  simp only [Bool.or_eq_false_iff, decide_eq_false_iff_not]
  refine ⟨⟨⟨⟨⟨?_, ?_⟩, ?_⟩, ?_⟩, by omega⟩, by omega⟩
  all_goals
    rintro rfl
    exact absurd h (by decide)

def StartsSolid (text : List Char) : Prop := ∀ c rest, text = c :: rest → isSpace c = false

theorem startsSolid_signed {sign digits : List Char} (hdigits : Decimal.Plain digits)
    (hsign : sign = [] ∨ sign = ['+'] ∨ sign = ['-']) (after : List Char) :
    StartsSolid (sign ++ (digits ++ after)) := by
  intro c rest h
  rcases hsign with rfl | rfl | rfl
  · obtain ⟨d, digits, rfl⟩ := List.exists_cons_of_ne_nil hdigits.ne_nil
    obtain ⟨rfl, -⟩ := List.cons.inj h
    exact isSpace_of_isDigit (hdigits.digits d List.mem_cons_self)
  · obtain ⟨rfl, -⟩ := List.cons.inj h
    decide
  · obtain ⟨rfl, -⟩ := List.cons.inj h
    decide

theorem StartsSolid.dropWhile_blank {text : List Char} (h : StartsSolid text) {p : Char → Bool}
    (hp : ∀ c, p c = true → isSpace c = true) : text.dropWhile p = text := by
  cases text with
  | nil => rfl
  | cons c rest =>
      refine List.dropWhile_cons_of_neg fun hc => ?_
      exact absurd ((hp c hc).symm.trans (h c rest rfl)) (by decide)

theorem dropWhile_before {before text : List Char} (hbefore : ∀ c ∈ before, isSpace c = true)
    (htext : StartsSolid text) :
    ∃ before', (before ++ text).dropWhile gAsciiIsSpace = before' ++ text ∧
      ∀ c ∈ before', isSpace c = true := by
  refine ⟨before.dropWhile gAsciiIsSpace, ?_, fun c hc =>
    hbefore c ((List.dropWhile_sublist _).subset hc)⟩
  rw [List.dropWhile_append]
  split
  · next hnil =>
      rw [List.isEmpty_iff.mp hnil, List.nil_append]
      exact htext.dropWhile_blank fun _ => isSpace_of_gAsciiIsSpace
  · rfl

/-! ## The digits -/

theorem strtollDigits_plain {digits after : List Char} (hdigits : Decimal.Plain digits)
    (hafter : ∀ c rest, after = c :: rest → c.isDigit = false) (negative : Bool)
    (text : List Char) :
    strtollDigits negative text (digits ++ after) =
      { value := if negative then max longMin (-(Decimal.value digits : Int))
          else min longMax (Decimal.value digits)
        rest := after
        erange := if negative then -(Decimal.value digits : Int) < longMin
          else longMax < Decimal.value digits } := by
  have hrun : (digits ++ after).takeWhile gAsciiIsDigit = digits := by
    rw [funext gAsciiIsDigit_eq]
    exact Text.takeWhile_eq_iff.mpr ⟨hdigits.digits, after, rfl, hafter⟩
  have hrest : (digits ++ after).dropWhile gAsciiIsDigit = after := by
    have hcut := List.takeWhile_append_dropWhile (p := gAsciiIsDigit) (l := digits ++ after)
    rw [hrun] at hcut
    exact List.append_cancel_left hcut
  have hvalue : leadingDigits (digits ++ after) = Decimal.value digits := by
    rw [leadingDigits_eq, ← funext gAsciiIsDigit_eq, hrun]
  unfold strtollDigits
  rw [if_neg (by rw [hrun]; exact hdigits.ne_nil), hrest, hvalue]

theorem strtollDigits_cases (negative : Bool) (text rest : List Char) :
    strtollDigits negative text rest = ⟨0, text, false⟩ ∨
      ∃ digits after, rest = digits ++ after ∧ Decimal.Plain digits ∧
        ∀ c more, after = c :: more → c.isDigit = false := by
  by_cases hnil : rest.takeWhile Char.isDigit = []
  · refine .inl ?_
    unfold strtollDigits
    rw [funext gAsciiIsDigit_eq, if_pos hnil]
  · obtain ⟨hall, after, hrest, hafter⟩ := Text.takeWhile_eq_iff.mp (rfl :
      rest.takeWhile Char.isDigit = _)
    exact .inr ⟨_, after, hrest, ⟨hnil, hall⟩, hafter⟩

/-! ## The sign -/

theorem gAsciiStrtoll_cases (text : List Char) :
    ∃ before sign rest, text = before ++ (sign ++ rest) ∧ (∀ c ∈ before, isSpace c = true) ∧
      ((sign = [] ∨ sign = ['+']) ∧ gAsciiStrtoll text = strtollDigits false text rest ∨
        sign = ['-'] ∧ gAsciiStrtoll text = strtollDigits true text rest) := by
  have hcut := List.takeWhile_append_dropWhile (p := isSpace) (l := text)
  have hbefore : ∀ c ∈ text.takeWhile isSpace, isSpace c = true := fun c hc =>
    List.mem_takeWhile_imp hc
  unfold gAsciiStrtoll
  split
  · next rest heq =>
      rw [heq] at hcut
      exact ⟨_, ['-'], rest, hcut.symm, hbefore, .inr ⟨rfl, rfl⟩⟩
  · next rest heq =>
      rw [heq] at hcut
      exact ⟨_, ['+'], rest, hcut.symm, hbefore, .inl ⟨.inr rfl, rfl⟩⟩
  · exact ⟨_, [], _, hcut.symm, hbefore, .inl ⟨.inl rfl, rfl⟩⟩

theorem gAsciiStrtoll_signed {before sign digits after : List Char}
    (hbefore : ∀ c ∈ before, isSpace c = true) (hdigits : Decimal.Plain digits)
    (hsign : sign = [] ∨ sign = ['+'] ∨ sign = ['-']) :
    gAsciiStrtoll (before ++ (sign ++ (digits ++ after))) =
      strtollDigits (sign = ['-']) (before ++ (sign ++ (digits ++ after))) (digits ++ after) := by
  have hsolid := startsSolid_signed hdigits hsign after
  have hdrop : (before ++ (sign ++ (digits ++ after))).dropWhile isSpace =
      sign ++ (digits ++ after) := by
    rw [List.dropWhile_append_of_pos hbefore]
    exact hsolid.dropWhile_blank fun _ h => h
  unfold gAsciiStrtoll
  rw [hdrop]
  rcases hsign with rfl | rfl | rfl
  · obtain ⟨d, digits, rfl⟩ := List.exists_cons_of_ne_nil hdigits.ne_nil
    have hd := hdigits.digits d List.mem_cons_self
    split
    · next rest heq =>
        obtain ⟨rfl, -⟩ := List.cons.inj heq
        exact absurd hd (by decide)
    · next rest heq =>
        obtain ⟨rfl, -⟩ := List.cons.inj heq
        exact absurd hd (by decide)
    · rfl
  · rfl
  · rfl

/-! ## The specification -/

theorem checkStrtoll_eq_some_iff {v : Strtoll} {lower upper n : Int} :
    checkStrtoll v lower upper = some n ↔
      v.erange = false ∧ v.rest.dropWhile gAsciiIsSpace = [] ∧ v.value = n ∧
        lower ≤ n ∧ n ≤ upper := by
  unfold checkStrtoll
  by_cases hrange : v.erange = true
  · simp [hrange]
  · rw [if_neg hrange]
    by_cases hrest : v.rest.dropWhile gAsciiIsSpace = []
    · rw [if_neg (not_not.mpr hrest)]
      by_cases hbound : (upper < v.value || v.value < lower) = true
      · rw [if_pos hbound]
        simp only [Bool.or_eq_true, decide_eq_true_eq] at hbound
        refine ⟨nofun, ?_⟩
        rintro ⟨-, -, rfl, hl, hu⟩
        omega
      · rw [if_neg hbound]
        simp only [Bool.or_eq_true, decide_eq_true_eq, not_or] at hbound
        constructor
        · intro h
          obtain rfl := Option.some.inj h
          exact ⟨by simpa using hrange, hrest, rfl, by omega, by omega⟩
        · exact fun h => congrArg some h.2.2.1
    · rw [if_pos hrest]
      exact ⟨nofun, fun h => absurd h.2.1 hrest⟩

theorem checkStrtoll_digits_iff {digits after : List Char} (hdigits : Decimal.Plain digits)
    (hafter : ∀ c rest, after = c :: rest → c.isDigit = false) {negative : Bool}
    {text : List Char} {lower upper n : Int} (hlower : longMin ≤ lower) (hupper : upper ≤ longMax) :
    checkStrtoll (strtollDigits negative text (digits ++ after)) lower upper = some n ↔
      (∀ c ∈ after, gAsciiIsSpace c = true) ∧
        n = (if negative then -(Decimal.value digits : Int) else Decimal.value digits) ∧
        lower ≤ n ∧ n ≤ upper := by
  rw [checkStrtoll_eq_some_iff, strtollDigits_plain hdigits hafter, List.dropWhile_eq_nil_iff]
  cases negative with
  | true =>
      simp only [if_true, decide_eq_false_iff_not]
      constructor
      · rintro ⟨hrange, hall, hvalue, hl, hu⟩
        exact ⟨hall, by omega, hl, hu⟩
      · rintro ⟨hall, rfl, hl, hu⟩
        exact ⟨by omega, hall, by omega, hl, hu⟩
  | false =>
      simp only [Bool.false_eq_true, if_false, decide_eq_false_iff_not]
      constructor
      · rintro ⟨hrange, hall, hvalue, hl, hu⟩
        exact ⟨hall, by omega, hl, hu⟩
      · rintro ⟨hall, rfl, hl, hu⟩
        exact ⟨by omega, hall, by omega, hl, hu⟩

theorem digits_of_checkStrtoll {negative : Bool} {text rest : List Char} {lower upper n : Int}
    (htext : text.dropWhile gAsciiIsSpace ≠ []) (hlower : longMin ≤ lower)
    (hupper : upper ≤ longMax)
    (h : checkStrtoll (strtollDigits negative text rest) lower upper = some n) :
    ∃ digits after, rest = digits ++ after ∧ Decimal.Plain digits ∧
      (∀ c ∈ after, gAsciiIsSpace c = true) ∧
      n = (if negative then -(Decimal.value digits : Int) else Decimal.value digits) ∧
      lower ≤ n ∧ n ≤ upper := by
  rcases strtollDigits_cases negative text rest with hnone | ⟨digits, after, rfl, hdigits, hafter⟩
  · rw [hnone, checkStrtoll_eq_some_iff] at h
    exact absurd h.2.1 htext
  · exact ⟨digits, after, rfl, hdigits,
      (checkStrtoll_digits_iff hdigits hafter hlower hupper).mp h⟩

theorem nmUtilsAsciiStrToInt64_eq_some_iff {text : List Char} {lower upper n : Int}
    (hlower : longMin ≤ lower) (hupper : upper ≤ longMax) :
    nmUtilsAsciiStrToInt64 (some text) lower upper = some n ↔
      DecimalInteger text n ∧ lower ≤ n ∧ n ≤ upper := by
  unfold nmUtilsAsciiStrToInt64
  rw [Option.getD_some]
  dsimp only
  constructor
  · intro h
    split at h
    · cases h
    · next hne =>
        have hcut := List.takeWhile_append_dropWhile (p := gAsciiIsSpace) (l := text)
        have hblank : ∀ c ∈ text.takeWhile gAsciiIsSpace, isSpace c = true := fun c hc =>
          isSpace_of_gAsciiIsSpace (List.mem_takeWhile_imp hc)
        have hdrop : (text.dropWhile gAsciiIsSpace).dropWhile gAsciiIsSpace ≠ [] := by
          rwa [List.dropWhile_idempotent]
        obtain ⟨before, sign, rest, htext, hbefore, hsigned⟩ :=
          gAsciiStrtoll_cases (text.dropWhile gAsciiIsSpace)
        have hspaces : ∀ c ∈ text.takeWhile gAsciiIsSpace ++ before, isSpace c = true := by
          intro c hc
          rcases List.mem_append.mp hc with hc | hc
          · exact hblank c hc
          · exact hbefore c hc
        rcases hsigned with ⟨hsign, hread⟩ | ⟨hsign, hread⟩
        · rw [hread] at h
          obtain ⟨digits, after, rfl, hdigits, hafter, hn, hbounds⟩ :=
            digits_of_checkStrtoll hdrop hlower hupper h
          refine ⟨⟨_, sign, digits, after, ?_, hspaces, hdigits, hafter, .inl ⟨hsign, hn⟩⟩,
            hbounds⟩
          rw [List.append_assoc, ← htext, hcut]
        · rw [hread] at h
          obtain ⟨digits, after, rfl, hdigits, hafter, hn, hbounds⟩ :=
            digits_of_checkStrtoll hdrop hlower hupper h
          refine ⟨⟨_, sign, digits, after, ?_, hspaces, hdigits, hafter, .inr ⟨hsign, hn⟩⟩,
            hbounds⟩
          rw [List.append_assoc, ← htext, hcut]
  · rintro ⟨⟨before, sign, digits, after, rfl, hbefore, hdigits, hafter, hsigned⟩, hl, hu⟩
    have hsign : sign = [] ∨ sign = ['+'] ∨ sign = ['-'] := by
      rcases hsigned with ⟨hs | hs, -⟩ | ⟨hs, -⟩ <;> simp [hs]
    have hnotDigit : ∀ c rest, after = c :: rest → c.isDigit = false := by
      rintro c rest rfl
      by_contra hdigit
      have hspace := isSpace_of_gAsciiIsSpace (hafter c List.mem_cons_self)
      exact absurd (hspace.symm.trans (isSpace_of_isDigit (by simpa using hdigit))) (by decide)
    obtain ⟨before', hdrop, hbefore'⟩ :=
      dropWhile_before hbefore (startsSolid_signed hdigits hsign after)
    have hne : before' ++ (sign ++ (digits ++ after)) ≠ [] := by
      have hplain := hdigits.ne_nil
      simp [hplain]
    rw [hdrop, if_neg hne, gAsciiStrtoll_signed hbefore' hdigits hsign,
      checkStrtoll_digits_iff hdigits hnotDigit hlower hupper]
    refine ⟨hafter, ?_, hl, hu⟩
    rcases hsigned with ⟨rfl | rfl, hn⟩ | ⟨rfl, hn⟩
    · exact hn
    · exact hn
    · exact hn

theorem nmUtilsAsciiStrToInt64_toDigits {n : Nat} {lower upper : Int} (hlower : longMin ≤ lower)
    (hupper : upper ≤ longMax) (hl : lower ≤ n) (hu : (n : Int) ≤ upper) :
    nmUtilsAsciiStrToInt64 (some (Nat.toDigits 10 n)) lower upper = some (n : Int) := by
  refine (nmUtilsAsciiStrToInt64_eq_some_iff hlower hupper).mpr ⟨⟨[], [], Nat.toDigits 10 n, [],
    by simp, by simp, Decimal.plain_toDigits n, by simp, .inl ⟨.inl rfl, ?_⟩⟩, hl, hu⟩
  rw [Decimal.value_toDigits]

end AirVpn
