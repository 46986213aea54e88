import Mathlib.Data.List.DropRight
import Mathlib.Data.List.Induction
import Mathlib.Tactic.Common

/-! # Joined and escaped texts

Texts joined with a separator, and texts written letter by letter in a prefix
code. The pieces of a text are what lies between its separators.
-/

namespace Text

variable {α β : Type*}

/-! ## The last piece -/

section

variable [DecidableEq α] {sep : α}

def afterLast (sep : α) (text : List α) : List α := text.rtakeWhile (· ≠ sep)

theorem afterLast_append {x : List α} (hx : sep ∉ x) (a : List α) :
    afterLast sep (a ++ sep :: x) = x := by
  have hall : ∀ c ∈ x.reverse, decide (c ≠ sep) = true := by
    intro c hc
    have hne : c ≠ sep := fun heq => hx (heq ▸ List.mem_reverse.mp hc)
    exact decide_eq_true hne
  unfold afterLast List.rtakeWhile
  rw [List.reverse_append, List.reverse_cons, List.append_assoc, List.singleton_append,
    List.takeWhile_append_of_pos hall]
  simp

theorem append_cons_inj_last {a b x y : List α} (hx : sep ∉ x) (hy : sep ∉ y)
    (h : a ++ sep :: x = b ++ sep :: y) : a = b ∧ x = y := by
  have hxy : x = y := by
    rw [← afterLast_append hx a, h, afterLast_append hy]
  subst hxy
  exact ⟨List.append_cancel_right h, rfl⟩

theorem append_cons_inj_first {a b x y : List α} (ha : sep ∉ a) (hb : sep ∉ b)
    (h : a ++ sep :: x = b ++ sep :: y) : a = b ∧ x = y := by
  have hrev := congrArg List.reverse h
  simp only [List.reverse_append, List.reverse_cons, List.append_assoc,
    List.singleton_append] at hrev
  have hcut := append_cons_inj_last (by simpa using ha) (by simpa using hb) hrev
  exact ⟨List.reverse_injective hcut.2, List.reverse_injective hcut.1⟩

end

/-! ## Pieces -/

section

variable [BEq α] [LawfulBEq α] (sep : α)

theorem splitOn_injective : Function.Injective (List.splitOn sep : List α → List (List α)) :=
  Function.LeftInverse.injective (g := fun pieces => [sep].intercalate pieces)
    fun _ => List.intercalate_splitOn sep

theorem splitOn_intercalate_flatten {texts : List (List α)} (h : texts ≠ []) :
    ([sep].intercalate texts).splitOn sep = (texts.map (List.splitOn sep)).flatten := by
  induction texts with
  | nil => exact absurd rfl h
  | cons text rest ih =>
      cases rest with
      | nil => simp
      | cons next rest =>
          have hjoin : [sep].intercalate (text :: next :: rest) =
              text ++ sep :: [sep].intercalate (next :: rest) := by
            simp [List.intercalate, List.intersperse]
          rw [hjoin, List.splitOn_append_cons_self, ih (List.cons_ne_nil _ _)]
          simp

theorem intercalate_eq_iff {xs ys : List (List α)} (hx : xs ≠ []) (hy : ys ≠ []) :
    [sep].intercalate xs = [sep].intercalate ys ↔
      (xs.map (List.splitOn sep)).flatten = (ys.map (List.splitOn sep)).flatten := by
  rw [← splitOn_intercalate_flatten sep hx, ← splitOn_intercalate_flatten sep hy]
  exact (splitOn_injective sep).eq_iff.symm

/-- Texts grouped into the same pieces are the same texts. -/
theorem map_splitOn_inj {xs ys : List (List α)} :
    xs.map (List.splitOn sep) = ys.map (List.splitOn sep) ↔ xs = ys :=
  (List.map_injective_iff.mpr (splitOn_injective sep)).eq_iff

end

/-- Letter by letter, so that a closed text is decided from its own letters. -/
theorem forall_of_all {P : α → Prop} [DecidablePred P] {text : List α}
    (h : text.all (fun c => P c) = true) : ∀ c ∈ text, P c :=
  fun c hc => of_decide_eq_true (List.all_eq_true.mp h c hc)

theorem forall_mem_intercalate {sep : α} {P : α → Prop} (hsep : P sep) {pieces : List (List α)}
    (h : ∀ piece ∈ pieces, ∀ c ∈ piece, P c) : ∀ c ∈ [sep].intercalate pieces, P c := by
  induction pieces with
  | nil => simp
  | cons piece pieces ih =>
      have hpiece := h piece List.mem_cons_self
      have hrest := ih fun p hp => h p (List.mem_cons_of_mem _ hp)
      cases pieces with
      | nil => simpa using hpiece
      | cons next pieces =>
          rw [List.intercalate_cons_cons]
          intro c hc
          simp only [List.mem_append, List.mem_singleton] at hc
          rcases hc with (hc | rfl) | hc
          · exact hpiece c hc
          · exact hsep
          · exact hrest c hc

/-! ## Words -/

section

variable {blank : α → Bool}

/-- The maximal runs of letters that are not blank. -/
def words (blank : α → Bool) (text : List α) : List (List α) :=
  (text.splitOnP blank).filter (!·.isEmpty)

@[simp] theorem words_nil : words blank [] = [] := rfl

theorem words_append_cons {b : α} (hb : blank b = true) (first rest : List α) :
    words blank (first ++ b :: rest) = words blank first ++ words blank rest := by
  simp [words, List.splitOnP_append_cons _ _ hb]

theorem words_of_solid {word : List α} (h : ∀ c ∈ word, blank c = false) (hne : word ≠ []) :
    words blank word = [word] := by
  simp [words, List.splitOnP_eq_singleton h, hne]

theorem words_append_flatMap {b : α} (hb : blank b = true) (first : List α) {more : List (List α)}
    (h : ∀ word ∈ more, word ≠ [] ∧ ∀ c ∈ word, blank c = false) :
    words blank (first ++ more.flatMap (b :: ·)) = words blank first ++ more := by
  induction more generalizing first with
  | nil => simp
  | cons word more ih =>
      obtain ⟨hne, hsolid⟩ := h word List.mem_cons_self
      have hrest := ih word fun w hw => h w (List.mem_cons_of_mem _ hw)
      rw [List.flatMap_cons, List.cons_append, words_append_cons hb, hrest,
        words_of_solid hsolid hne, List.singleton_append]

theorem mem_of_mem_splitOnP {text piece : List α} (h : piece ∈ text.splitOnP blank) {c : α}
    (hc : c ∈ piece) : c ∈ text ∧ blank c = false := by
  induction text generalizing piece with
  | nil =>
      rw [List.splitOnP_nil, List.mem_singleton] at h
      subst h
      cases hc
  | cons d text ih =>
      rw [List.splitOnP_cons_eq_if_modifyHead] at h
      split at h
      · rcases List.mem_cons.mp h with rfl | h
        · cases hc
        · exact (ih h hc).imp_left (List.mem_cons_of_mem _)
      · next hd =>
          cases hs : text.splitOnP blank with
          | nil => exact absurd hs (List.splitOnP_ne_nil _ _)
          | cons first pieces =>
              rw [hs] at ih h
              rcases List.mem_cons.mp h with rfl | h
              · rcases List.mem_cons.mp hc with rfl | hc
                · exact ⟨List.mem_cons_self, Bool.not_eq_true _ ▸ hd⟩
                · exact (ih List.mem_cons_self hc).imp_left (List.mem_cons_of_mem _)
              · exact (ih (List.mem_cons_of_mem _ h) hc).imp_left (List.mem_cons_of_mem _)

theorem flatten_words (text : List α) :
    (words blank text).flatten = text.filter (!blank ·) := by
  unfold words
  induction text with
  | nil => rfl
  | cons c text ih =>
      rw [List.splitOnP_cons_eq_if_modifyHead]
      cases hs : text.splitOnP blank with
      | nil => exact absurd hs (List.splitOnP_ne_nil _ _)
      | cons piece pieces =>
          rw [hs] at ih
          cases hc : blank c with
          | true =>
              rw [List.filter_cons_of_neg (by simp [hc])]
              simpa [hc] using ih
          | false =>
              rw [List.filter_cons_of_pos (by simp [hc]), ← ih]
              cases piece <;> simp

theorem splitOnP_getElem?_zero (text : List α) :
    (text.splitOnP blank)[0]? = some (text.takeWhile (!blank ·)) := by
  induction text with
  | nil => rfl
  | cons c text ih =>
      rw [List.splitOnP_cons_eq_if_modifyHead]
      cases hc : blank c with
      | true => simp [hc]
      | false =>
          rw [List.takeWhile_cons_of_pos (by simp [hc])]
          cases hs : text.splitOnP blank with
          | nil => exact absurd hs (List.splitOnP_ne_nil _ _)
          | cons piece pieces =>
              rw [hs] at ih
              simpa using ih

/-- The longest run at the start of a text: nothing or a letter of the other kind
follows. -/
theorem takeWhile_eq_iff {p : α → Bool} {text first : List α} :
    text.takeWhile p = first ↔ (∀ c ∈ first, p c = true) ∧
      ∃ rest, text = first ++ rest ∧ ∀ c more, rest = c :: more → p c = false := by
  constructor
  · rintro rfl
    refine ⟨fun c hc => List.mem_takeWhile_imp hc, text.dropWhile p,
      List.takeWhile_append_dropWhile.symm, fun c more h => ?_⟩
    have hhead := List.head?_dropWhile_not p text
    rw [h] at hhead
    simpa using hhead
  · rintro ⟨hall, rest, rfl, hrest⟩
    rw [List.takeWhile_append_of_pos hall]
    cases rest with
    | nil => simp
    | cons c more => simp [hrest c more rfl]

end

/-! ## Two readings of the same lines -/

theorem length_filterMap_le {f g : α → Option β}
    (h : ∀ x, (f x).isSome = true → (g x).isSome = true) (xs : List α) :
    (xs.filterMap f).length ≤ (xs.filterMap g).length := by
  induction xs with
  | nil => exact Nat.le_refl _
  | cons x xs ih =>
      have hx := h x
      cases hf : f x with
      | none =>
          cases hg : g x with
          | none => simpa [hf, hg] using ih
          | some b =>
              simp only [List.filterMap_cons, hf, hg, List.length_cons]
              omega
      | some a =>
          obtain ⟨b, hg⟩ := Option.isSome_iff_exists.mp (hx (by simp [hf]))
          simpa [hf, hg] using ih

/-- Where one reading finds nothing that the other does not find, they find the same
exactly when they agree line by line. -/
theorem filterMap_eq_iff {f g : α → Option β} (h : ∀ x, (f x).isSome = true → (g x).isSome = true)
    (xs : List α) : xs.filterMap f = xs.filterMap g ↔ ∀ x ∈ xs, f x = g x := by
  constructor
  · intro heq
    induction xs with
    | nil => simp
    | cons x xs ih =>
        have hx := h x
        have hle := length_filterMap_le h xs
        cases hf : f x with
        | none =>
            cases hg : g x with
            | none =>
                simp only [List.filterMap_cons, hf, hg] at heq
                simpa [hf, hg] using ih heq
            | some b =>
                simp only [List.filterMap_cons, hf, hg] at heq
                rw [heq, List.length_cons] at hle
                omega
        | some a =>
            obtain ⟨b, hg⟩ := Option.isSome_iff_exists.mp (hx (by simp [hf]))
            simp only [List.filterMap_cons, hf, hg, List.cons.injEq] at heq
            simpa [hf, hg, heq.1] using ih heq.2
  · intro hall
    exact List.filterMap_congr hall

theorem foldl_or_eq (f : α → Option β) (init : Option β) (xs : List α) :
    xs.foldl (fun acc x => (f x).or acc) init = ((xs.filterMap f).getLast?).or init := by
  induction xs using List.reverseRecOn with
  | nil => rfl
  | append_singleton xs x ih =>
      rw [List.foldl_append, List.foldl_cons, List.foldl_nil, ih, List.filterMap_append]
      cases hf : f x <;> simp [hf]

/-! ## Groups -/

theorem length_le_length_flatten {groups : List (List α)}
    (hne : ∀ group ∈ groups, group ≠ []) : groups.length ≤ groups.flatten.length := by
  induction groups with
  | nil => exact Nat.le_refl _
  | cons group groups ih =>
      have hgroup := List.length_pos_iff.mpr (hne group List.mem_cons_self)
      have hrest := ih fun g hg => hne g (List.mem_cons_of_mem _ hg)
      simp only [List.length_cons, List.flatten_cons, List.length_append]
      omega

/-- Groups that are not empty and have as many members as there are groups have one
member each. -/
theorem eq_map_singleton_of_flatten {groups : List (List α)} {members : List α}
    (hne : ∀ group ∈ groups, group ≠ []) (hlength : groups.length = members.length)
    (h : groups.flatten = members) : groups = members.map fun member => [member] := by
  induction groups generalizing members with
  | nil =>
      subst h
      rfl
  | cons group groups ih =>
      have hrest : ∀ g ∈ groups, g ≠ [] := fun g hg => hne g (List.mem_cons_of_mem _ hg)
      have hcount := length_le_length_flatten hrest
      cases group with
      | nil => exact absurd rfl (hne [] List.mem_cons_self)
      | cons member others =>
          subst h
          simp only [List.length_cons, List.flatten_cons, List.cons_append,
            List.length_append] at hlength
          have hothers : others = [] := List.length_eq_zero_iff.mp (by omega)
          subst hothers
          rw [List.flatten_cons, List.singleton_append, List.map_cons,
            ← ih hrest (by simpa using hlength) rfl]

/-- Members with the same images are paired off by whatever the images tell. -/
theorem eq_map_of_map_eq {γ : Type*} {f : α → γ} {g : β → γ} {h : β → α} {xs : List α}
    {ys : List β} (hfg : ∀ x ∈ xs, ∀ y, f x = g y → x = h y) (heq : xs.map f = ys.map g) :
    xs = ys.map h := by
  induction xs generalizing ys with
  | nil =>
      cases ys with
      | nil => rfl
      | cons y ys => cases heq
  | cons x xs ih =>
      cases ys with
      | nil => cases heq
      | cons y ys =>
          rw [List.map_cons, List.map_cons, List.cons.injEq] at heq
          rw [List.map_cons, ← hfg x List.mem_cons_self y heq.1,
            ← ih (fun x' hx' => hfg x' (List.mem_cons_of_mem _ hx')) heq.2]

/-! ## Prefix codes -/

/-- No code word begins another one, and none is empty. -/
structure PrefixCode (code : α → List β) : Prop where
  eq_of_prefix : ∀ {a b : α}, code a <+: code b → a = b
  ne_nil : ∀ a, code a ≠ []

theorem PrefixCode.flatMap_injective {code : α → List β} (h : PrefixCode code) :
    Function.Injective (List.flatMap code) := by
  intro xs
  induction xs with
  | nil =>
      intro ys heq
      cases ys with
      | nil => rfl
      | cons b ys =>
          have hnil := (List.append_eq_nil_iff.mp heq.symm).1
          exact absurd hnil (h.ne_nil b)
  | cons a xs ih =>
      intro ys heq
      cases ys with
      | nil =>
          have hnil := (List.append_eq_nil_iff.mp heq).1
          exact absurd hnil (h.ne_nil a)
      | cons b ys =>
          simp only [List.flatMap_cons] at heq
          have hab : a = b := by
            have ha := List.prefix_append (code a) (xs.flatMap code)
            rw [heq] at ha
            rcases List.prefix_or_prefix_of_prefix ha (List.prefix_append _ _) with hp | hp
            · exact h.eq_of_prefix hp
            · exact (h.eq_of_prefix hp).symm
          subst hab
          rw [ih (List.append_cancel_left heq)]

end Text
