import AirVpn.Lib.Text

/-! # Query strings

A query is a list of fields between `&`, each a key and a value around its first
`=`. Both may hold bytes written as `%XX`; every other character stands for its
UTF-8 bytes.
-/

namespace Query

/-! ## Decoding -/

def utf8 (text : List Char) : List UInt8 := text.flatMap String.utf8EncodeChar

def hexValue (c : Char) : Option Nat :=
  if 48 ≤ c.toNat ∧ c.toNat ≤ 57 then some (c.toNat - 48)
  else if 65 ≤ c.toNat ∧ c.toNat ≤ 70 then some (c.toNat - 55)
  else if 97 ≤ c.toNat ∧ c.toNat ≤ 102 then some (c.toNat - 87)
  else none

/-- Percent-decoding; a `%` without two hexadecimal digits stands for itself. -/
def unescape : List Char → List UInt8
  | '%' :: a :: b :: rest =>
      match hexValue a, hexValue b with
      | some x, some y => UInt8.ofNat (16 * x + y) :: unescape rest
      | _, _ => String.utf8EncodeChar '%' ++ unescape (a :: b :: rest)
  | c :: rest => String.utf8EncodeChar c ++ unescape rest
  | [] => []

def cut (field : List Char) : List Char × List Char :=
  (field.takeWhile (· ≠ '='), (field.dropWhile (· ≠ '=')).tail)

def decode (query : List Char) : List (List UInt8 × List UInt8) :=
  (query.splitOn '&').map fun field => (unescape (cut field).1, unescape (cut field).2)

/-! ## Single characters -/

@[simp] theorem unescape_nil : unescape [] = [] := rfl

theorem unescape_cons {c : Char} (h : c ≠ '%') (rest : List Char) :
    unescape (c :: rest) = String.utf8EncodeChar c ++ unescape rest := by
  rw [unescape]
  intro a b tail heq
  exact absurd heq h

theorem unescape_percent {a b : Char} {x y : Nat} (ha : hexValue a = some x)
    (hb : hexValue b = some y) (rest : List Char) :
    unescape ('%' :: a :: b :: rest) = UInt8.ofNat (16 * x + y) :: unescape rest := by
  rw [unescape, ha, hb]

theorem utf8EncodeChar_ne_nil (c : Char) : String.utf8EncodeChar c ≠ [] := by
  rw [ne_eq, ← List.length_eq_zero_iff, String.length_utf8EncodeChar]
  exact Nat.pos_iff_ne_zero.mp c.utf8Size_pos

theorem utf8EncodeChar_ascii {c : Char} (h : c.toNat < 128) :
    String.utf8EncodeChar c = [UInt8.ofNat c.toNat] := by
  have hsize : c.utf8Size = 1 := by
    rw [Char.utf8Size_eq_one_iff, UInt32.le_iff_toNat_le]
    exact Nat.le_of_lt_succ h
  rw [String.utf8EncodeChar_eq_singleton hsize]
  rfl

theorem utf8_ascii {text : List Char} (h : ∀ c ∈ text, c.toNat < 128) :
    utf8 text = text.map fun c => UInt8.ofNat c.toNat := by
  induction text with
  | nil => rfl
  | cons c text ih =>
      have hrest := ih fun d hd => h d (List.mem_cons_of_mem _ hd)
      unfold utf8 at hrest ⊢
      rw [List.flatMap_cons, utf8EncodeChar_ascii (h c List.mem_cons_self), hrest]
      rfl

theorem utf8_append (text rest : List Char) : utf8 (text ++ rest) = utf8 text ++ utf8 rest :=
  List.flatMap_append

theorem utf8_toList (s : String) : utf8 s.toList = s.toUTF8.data.toList := by
  have h : s.toList.utf8Encode = s.toByteArray := String.utf8Encode_toList
  exact (congrArg (fun bytes => bytes.data.toList) h |>.symm.trans
    List.toList_data_toByteArray).symm

theorem utf8_injective : Function.Injective utf8 := by
  intro text text' h
  have hbytes : (String.ofList text).toUTF8 = (String.ofList text').toUTF8 := by
    apply ByteArray.ext
    apply Array.toList_inj.mp
    rw [← utf8_toList, ← utf8_toList]
    simpa using h
  exact String.ofList_injective (String.toByteArray_inj.mp hbytes)

theorem unescape_eq_nil {text : List Char} : unescape text = [] ↔ text = [] := by
  constructor
  · intro h
    unfold unescape at h
    split at h
    · split at h
      · cases h
      · exact absurd (List.append_eq_nil_iff.mp h).1 (utf8EncodeChar_ne_nil _)
    · exact absurd (List.append_eq_nil_iff.mp h).1 (utf8EncodeChar_ne_nil _)
    · rfl
  · rintro rfl
    rfl

theorem unescape_append {text : List Char} (h : '%' ∉ text) (rest : List Char) :
    unescape (text ++ rest) = utf8 text ++ unescape rest := by
  induction text with
  | nil => rfl
  | cons c text ih =>
      have hc : c ≠ '%' := fun heq => h (heq ▸ List.mem_cons_self)
      rw [List.cons_append, unescape_cons hc, ih fun hm => h (List.mem_cons_of_mem _ hm)]
      simp [utf8]

theorem unescape_plain {text : List Char} (h : '%' ∉ text) : unescape text = utf8 text := by
  have happend := unescape_append h []
  simpa using happend

/-! ## Fields -/

theorem cut_append {key : List Char} (h : '=' ∉ key) (value : List Char) :
    cut (key ++ '=' :: value) = (key, value) := by
  have hall : ∀ c ∈ key, decide (c ≠ '=') = true := fun c hc =>
    decide_eq_true fun heq => h (heq ▸ hc)
  unfold cut
  rw [List.takeWhile_append_of_pos hall, List.dropWhile_append_of_pos hall]
  simp

theorem decode_append (first rest : List Char) :
    decode (first ++ '&' :: rest) = decode first ++ decode rest := by
  simp [decode, List.splitOn_append_cons_self]

theorem decode_field {key value : List Char} (hkey : '=' ∉ key) (hamp : '&' ∉ key)
    (hvalue : '&' ∉ value) :
    decode (key ++ '=' :: value) = [(unescape key, unescape value)] := by
  have hnone : '&' ∉ key ++ '=' :: value := by
    simp [hamp, hvalue]
  rw [decode, List.splitOn_eq_singleton hnone, List.map_singleton, cut_append hkey]

theorem decode_ne_nil (query : List Char) : decode query ≠ [] := by
  simp [decode, List.splitOn_ne_nil]

theorem amp_notMem_of_decode {query : List Char} (h : (decode query).length = 1) :
    '&' ∉ query := by
  intro hm
  obtain ⟨first, rest, rfl⟩ := List.append_of_mem hm
  have hfirst := List.length_pos_iff.mpr (decode_ne_nil first)
  have hrest := List.length_pos_iff.mpr (decode_ne_nil rest)
  rw [decode_append, List.length_append] at h
  omega

end Query
