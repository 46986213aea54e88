import Mathlib.Data.List.DropRight
import AirVpn.Lib.Decimal
import Mathlib.Tactic.Common

/-! # The C and GLib string functions that the sources call

A C string is a `String` without a NUL character; a missing one (`NULL`) is
`none`. Bytes that are not ASCII are never looked at by these functions, so a
text that is not UTF-8 is read as the characters with its byte codes.
-/

namespace AirVpn

/-- `G_FILE_ERROR`, `G_SPAWN_ERROR`, `G_RESOLVER_ERROR`, `JSON_PARSER_ERROR`, the two
codes of `NM_VPN_PLUGIN_ERROR` and the four of `G_IO_ERROR` that the sources set or
get. -/
inductive ErrorCode where
  | invalidConnection
  | launchFailed
  | fileError
  | spawnError
  | resolverError
  | jsonError
  | ioCancelled
  | ioFailed
  | ioInvalidData
  | ioPermissionDenied
  deriving DecidableEq, Repr

structure GError where
  code : ErrorCode
  message : String
  deriving DecidableEq, Repr

theorem except_bind_eq_ok {ε α β : Type} {x : Except ε α} {f : α → Except ε β} {b : β} :
    x >>= f = .ok b ↔ ∃ a, x = .ok a ∧ f a = .ok b := by
  cases x with
  | error e => exact ⟨nofun, fun ⟨_, h, _⟩ => nomatch h⟩
  | ok a => exact ⟨fun h => ⟨a, rfl, h⟩, fun ⟨_, h, hf⟩ => Except.ok.inj h ▸ hf⟩

/-! ## Character classes -/

/-- `g_ascii_isspace`; the vertical tab is not in GLib's table. -/
def gAsciiIsSpace (c : Char) : Bool :=
  c = ' ' || c = '\t' || c = '\n' || c = '\r' || c.toNat = 12

/-- `isspace` of the C locale, as `strtol` uses it. -/
def isSpace (c : Char) : Bool :=
  gAsciiIsSpace c || c.toNat = 11

def gAsciiIsDigit (c : Char) : Bool := 48 ≤ c.toNat && c.toNat ≤ 57

def gAsciiIsXDigit (c : Char) : Bool :=
  gAsciiIsDigit c || (65 ≤ c.toNat && c.toNat ≤ 70) || (97 ≤ c.toNat && c.toNat ≤ 102)

def gAsciiToLower (c : Char) : Char :=
  if 65 ≤ c.toNat && c.toNat ≤ 90 then Char.ofNat (c.toNat + 32) else c

def gAsciiStrdown (s : String) : String := String.ofList (s.toList.map gAsciiToLower)

/-! ## Searching and splitting -/

def gAsciiStrcaseequal (s1 s2 : String) : Bool :=
  s1.toList.map gAsciiToLower = s2.toList.map gAsciiToLower

def gStrHasPrefix (text part : List Char) : Bool := part.isPrefixOf text

def gStrHasSuffix (text part : List Char) : Bool := part.isSuffixOf text

def strstr (text part : List Char) : Bool := text.tails.any part.isPrefixOf

/-- What a C function sees of the characters of a buffer. -/
def cString (buf : List Char) : List Char := buf.takeWhile (·.toNat ≠ 0)

/-- What a C function sees of a buffer: the bytes before the first NUL. -/
def cText (s : String) : List Char := s.toList.takeWhile (·.toNat ≠ 0)

def gStrstrip (line : List Char) : List Char :=
  (line.dropWhile gAsciiIsSpace).rdropWhile gAsciiIsSpace

/-- `g_strsplit_set` with no limit on the number of tokens: every separator
ends a token, so neighbouring separators make empty ones; an empty text has no
token. -/
def gStrsplitSet (text separators : List Char) : List (List Char) :=
  if text = [] then [] else text.splitOnP separators.contains

def gStrsplit (text : List Char) (separator : Char) : List (List Char) :=
  gStrsplitSet text [separator]

/-- `tokens[i] && tokens[i][0]`, with the token. -/
def nonEmptyToken (tokens : List (List Char)) (i : Nat) : Option (List Char) :=
  tokens[i]?.filter (· ≠ [])

/-- `g_build_filename`. The elements passed to it in the sources neither begin
nor end with a separator and are not empty. -/
def gBuildFilename (elements : List String) : String := "/".intercalate elements

/-! ## Numbers -/

def longMax : Int := 9223372036854775807

def longMin : Int := -9223372036854775808

def leadingDigits (text : List Char) : Nat :=
  (text.takeWhile gAsciiIsDigit).foldl (fun n c => 10 * n + (c.toNat - 48)) 0

/-- `strtol (text, NULL, 10)`: leading blanks, an optional sign and the leading
digits count, whatever follows is ignored, and the result saturates. -/
def strtol (text : List Char) : Int :=
  match text.dropWhile isSpace with
  | '-' :: rest => max longMin (-(leadingDigits rest : Int))
  | '+' :: rest => min longMax (leadingDigits rest : Int)
  | rest => min longMax (leadingDigits rest : Int)

theorem gAsciiIsDigit_eq (c : Char) : gAsciiIsDigit c = c.isDigit := by
  simp only [gAsciiIsDigit, Char.isDigit, ge_iff_le, UInt32.le_iff_toNat_le]
  rfl

theorem leadingDigits_eq (text : List Char) :
    leadingDigits text = Decimal.value (text.takeWhile Char.isDigit) := by
  unfold leadingDigits Decimal.value
  rw [Nat.ofDigitChars_eq_foldl, funext gAsciiIsDigit_eq]
  rfl

theorem strtol_cons_digit {c : Char} (h : c.isDigit = true) (rest : List Char) :
    strtol (c :: rest) = min longMax (leadingDigits (c :: rest) : Int) := by
  have hblank : isSpace c = false := by
    by_contra hs
    have hcode : c.toNat = 32 ∨ c.toNat = 9 ∨ c.toNat = 10 ∨ c.toNat = 13 ∨ c.toNat = 12 ∨
        c.toNat = 11 := by
      simp only [isSpace, gAsciiIsSpace, Bool.not_eq_false, Bool.or_eq_true,
        decide_eq_true_eq] at hs
      rcases hs with ((((rfl | rfl) | rfl) | rfl) | h) | h <;> simp [*]
    rw [← gAsciiIsDigit_eq] at h
    simp only [gAsciiIsDigit, Bool.and_eq_true, decide_eq_true_eq] at h
    omega
  have hminus : c ≠ '-' := by
    rintro rfl
    exact absurd h (by decide)
  have hplus : c ≠ '+' := by
    rintro rfl
    exact absurd h (by decide)
  unfold strtol
  rw [List.dropWhile_cons_of_neg (by simp [hblank])]
  split
  · next heq => exact absurd (List.cons.inj heq).1 hminus
  · next heq => exact absurd (List.cons.inj heq).1 hplus
  · rfl

/-- A positive number begins with a digit, or with something that is skipped. -/
theorem digit_or_skipped_of_strtol {c : Char} {rest : List Char} (h : 0 < strtol (c :: rest)) :
    c.isDigit = true ∨ isSpace c = true ∨ c = '+' := by
  by_contra hnot
  simp only [not_or, Bool.not_eq_true] at hnot
  obtain ⟨hdigit, hspace, hplus⟩ := hnot
  unfold strtol at h
  rw [List.dropWhile_cons_of_neg (by simp [hspace])] at h
  split at h
  · unfold longMin at h
    omega
  · next heq => exact hplus (List.cons.inj heq).1
  · rw [leadingDigits_eq, List.takeWhile_cons_of_neg (by simp [hdigit])] at h
    exact absurd h (by decide)

theorem strtol_of_plain {text : List Char} (h : Decimal.Plain text) :
    strtol text = min longMax (Decimal.value text : Int) := by
  cases text with
  | nil => exact absurd rfl h.ne_nil
  | cons c rest =>
      rw [strtol_cons_digit (h.digits c List.mem_cons_self), leadingDigits_eq, h.takeWhile]

/-- `x ?: ""`. -/
def orEmpty (x : Option String) : String := x.getD ""

/-- `x && x[0]`, with the string. -/
def nonEmpty (x : Option String) : Option String := x.filter (· ≠ "")

theorem nonEmpty_some {value : String} (h : value ≠ "") : nonEmpty (some value) = some value := by
  simp [nonEmpty, Option.filter, h]

theorem nonEmpty_eq_some {item : Option String} {value : String} :
    nonEmpty item = some value ↔ item = some value ∧ value ≠ "" := by
  simp [nonEmpty, Option.filter_eq_some_iff]

theorem nonEmpty_orEmpty (item : Option String) :
    nonEmpty (some (orEmpty item)) = nonEmpty item := by
  cases item with
  | none => rfl
  | some value => rfl

theorem nonEmpty_nonEmpty (item : Option String) : nonEmpty (nonEmpty item) = nonEmpty item := by
  simp [nonEmpty, Option.filter_filter]

theorem orEmpty_nonEmpty (item : Option String) : orEmpty (nonEmpty item) = orEmpty item := by
  cases item with
  | none => rfl
  | some value =>
      by_cases h : value = ""
      · rw [h]
        rfl
      · rw [nonEmpty_some h]

end AirVpn
