import AirVpn.Lib.Text

/-! # Texts of statements

The lexical reading of a rule language: statements that end at stop letters, and in
them tokens that end at blanks, where some letters are tokens by themselves.
-/

/-- The letters of the language. -/
structure Lexis (α : Type*) where
  blank : α → Bool
  mark : α → Bool
  stop : α → Bool
  space : α
  blank_space : blank space = true
  mark_solid : ∀ c, mark c = true → blank c = false

namespace Lexis

variable {α : Type*} (L : Lexis α)

/-- Each letter that is a token by itself is set apart. -/
def spread (text : List α) : List α :=
  text.flatMap fun c => if L.mark c then [L.space, c, L.space] else [c]

def tokens (text : List α) : List (List α) := Text.words L.blank (L.spread text)

/-- A text without a token is no statement. -/
def statements (text : List α) : List (List (List α)) :=
  ((text.splitOnP L.stop).map L.tokens).filter (!·.isEmpty)

/-- A text that can only be read as one token. -/
def Solid (text : List α) : Prop := ∀ c ∈ text, L.blank c = false ∧ L.mark c = false

variable {L}

/-! ## Tokens -/

theorem spread_append (a b : List α) : L.spread (a ++ b) = L.spread a ++ L.spread b :=
  List.flatMap_append

theorem mark_of_blank {c : α} (h : L.blank c = true) : L.mark c = false := by
  cases hm : L.mark c with
  | false => rfl
  | true => exact absurd (L.mark_solid c hm) (by simp [h])

theorem spread_cons_blank {c : α} (h : L.blank c = true) (text : List α) :
    L.spread (c :: text) = c :: L.spread text := by
  simp [spread, mark_of_blank h]

theorem spread_of_solid {text : List α} (h : L.Solid text) : L.spread text = text := by
  induction text with
  | nil => rfl
  | cons c text ih =>
      have hrest := ih fun d hd => h d (List.mem_cons_of_mem _ hd)
      unfold spread at hrest ⊢
      rw [List.flatMap_cons, hrest, (h c List.mem_cons_self).2]
      rfl

theorem tokens_append_cons {c : α} (h : L.blank c = true) (a b : List α) :
    L.tokens (a ++ c :: b) = L.tokens a ++ L.tokens b := by
  unfold tokens
  rw [spread_append, spread_cons_blank h, Text.words_append_cons h]

theorem tokens_intercalate {c : α} (h : L.blank c = true) (pieces : List (List α)) :
    L.tokens ([c].intercalate pieces) = (pieces.map L.tokens).flatten := by
  induction pieces with
  | nil => rfl
  | cons piece pieces ih =>
      cases pieces with
      | nil => simp
      | cons next pieces =>
          rw [List.intercalate_cons_cons, List.append_assoc, List.singleton_append,
            tokens_append_cons h, ih]
          rfl

theorem tokens_of_solid {text : List α} (h : L.Solid text) (hne : text ≠ []) :
    L.tokens text = [text] := by
  unfold tokens
  rw [spread_of_solid h, Text.words_of_solid (fun c hc => (h c hc).1) hne]

theorem flatten_tokens (text : List α) :
    (L.tokens text).flatten = text.filter (!L.blank ·) := by
  unfold tokens
  rw [Text.flatten_words]
  induction text with
  | nil => rfl
  | cons c text ih =>
      unfold spread at ih ⊢
      rw [List.flatMap_cons, List.filter_append, ih]
      cases hm : L.mark c with
      | false => cases hb : L.blank c <;> simp [hb]
      | true => simp [L.mark_solid c hm, L.blank_space]

theorem eq_of_tokens {text token : List α} (hblank : ∀ c ∈ text, L.blank c = false)
    (h : L.tokens text = [token]) : text = token := by
  have hflat := flatten_tokens (L := L) text
  rw [h, List.flatten_singleton, List.filter_eq_self.mpr fun c hc => by simp [hblank c hc]] at hflat
  exact hflat.symm

theorem tokens_ne_nil {text : List α} {c : α} (hc : c ∈ text) (hblank : L.blank c = false) :
    L.tokens text ≠ [] := by
  intro hnil
  have hflat := flatten_tokens (L := L) text
  have hmem : c ∈ text.filter (!L.blank ·) := List.mem_filter.mpr ⟨hc, by simp [hblank]⟩
  rw [← hflat, hnil] at hmem
  cases hmem

/-! ## Statements -/

@[simp] theorem statements_nil : L.statements [] = [] := rfl

theorem statements_append_cons {c : α} (h : L.stop c = true) (a b : List α) :
    L.statements (a ++ c :: b) = L.statements a ++ L.statements b := by
  simp [statements, List.splitOnP_append_cons _ _ h]

theorem statements_lines {c : α} (h : L.stop c = true) {lines : List (List α)}
    (hlines : ∀ line ∈ lines, line.getLast? = some c) (rest : List α) :
    L.statements (lines.flatten ++ rest) =
      (lines.map L.statements).flatten ++ L.statements rest := by
  induction lines with
  | nil => rfl
  | cons line lines ih =>
      have hmore := ih fun l hl => hlines l (List.mem_cons_of_mem _ hl)
      obtain ⟨text, rfl⟩ := List.getLast?_eq_some_iff.mp (hlines line List.mem_cons_self)
      have hcut : (text ++ [c]) ++ (lines.flatten ++ rest) =
          text ++ c :: (lines.flatten ++ rest) := by simp
      rw [List.flatten_cons, List.map_cons, List.flatten_cons, List.append_assoc, hcut,
        statements_append_cons h, hmore, statements_append_cons h, statements_nil, List.append_nil,
        List.append_assoc]

theorem statements_of_line {text : List α} (h : ∀ c ∈ text, L.stop c = false)
    (hne : L.tokens text ≠ []) : L.statements text = [L.tokens text] := by
  simp [statements, List.splitOnP_eq_singleton h, hne]

theorem statements_ne_nil {text : List α} {c : α} (hc : c ∈ text) (hblank : L.blank c = false)
    (hstop : L.stop c = false) : L.statements text ≠ [] := by
  induction hn : text.length using Nat.strongRecOn generalizing text with
  | ind n ih =>
      by_cases hline : ∃ d ∈ text, L.stop d = true
      · obtain ⟨d, hd, hds⟩ := hline
        obtain ⟨a, b, rfl⟩ := List.append_of_mem hd
        rw [statements_append_cons hds]
        rw [List.length_append, List.length_cons] at hn
        rcases List.mem_append.mp hc with hca | hcb
        · exact List.append_ne_nil_of_left_ne_nil (ih a.length (by omega) hca rfl) _
        · rcases List.mem_cons.mp hcb with rfl | hcb
          · rw [hstop] at hds
            cases hds
          · exact List.append_ne_nil_of_right_ne_nil _ (ih b.length (by omega) hcb rfl)
      · have hnone : ∀ d ∈ text, L.stop d = false := fun d hd =>
          Bool.eq_false_iff.mpr fun hds => hline ⟨d, hd, hds⟩
        rw [statements_of_line hnone (tokens_ne_nil hc hblank)]
        exact List.cons_ne_nil _ _

/-- Between two letters that belong to statements there is no stop in a text that is
read as one statement. -/
theorem no_stop_of_statements {a b text : List α} {c d : α} {statement : List (List α)}
    (hc : c ∈ a) (hcb : L.blank c = false) (hcs : L.stop c = false)
    (hd : d ∈ b) (hdb : L.blank d = false) (hds : L.stop d = false)
    (h : L.statements (a ++ text ++ b) = [statement]) : ∀ e ∈ text, L.stop e = false := by
  intro e he
  by_contra hstop
  rw [Bool.not_eq_false] at hstop
  obtain ⟨x, y, rfl⟩ := List.append_of_mem he
  have hcut : a ++ (x ++ e :: y) ++ b = (a ++ x) ++ e :: (y ++ b) := by simp
  rw [hcut, statements_append_cons hstop] at h
  have hfirst := List.length_pos_iff.mpr
    (statements_ne_nil (List.mem_append_left x hc) hcb hcs)
  have hsecond := List.length_pos_iff.mpr
    (statements_ne_nil (List.mem_append_right y hd) hdb hds)
  have hlength := congrArg List.length h
  rw [List.length_append, List.length_singleton] at hlength
  omega

end Lexis
