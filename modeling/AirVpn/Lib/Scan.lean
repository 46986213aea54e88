import Mathlib.Data.List.Nodup
import Mathlib.Data.List.Perm.Subperm
import Mathlib.Data.Nat.Find
import Mathlib.Tactic.Common

/-! # Scans of numbered entries

A loop that reads entry after entry, from some number on, until one is missing. The
entries are found under keys, so that among finitely many keys one is missing.
-/

namespace Scan

variable {α β σ κ : Type*}

/-- The loop, for at most `fuel` numbers: `none` means that it has not ended. -/
def scan (read : Nat → Option α) (visit : σ → Nat → α → σ) : Nat → Nat → σ → Option σ
  | 0, _, _ => none
  | fuel + 1, i, s =>
      match read i with
      | none => some s
      | some x => scan read visit fuel (i + 1) (visit s i x)

/-- The first number from `start` on whose entry is missing. -/
structure Ends (read : Nat → Option α) (start stop : Nat) : Prop where
  le : start ≤ stop
  missing : read stop = none
  present : ∀ i, start ≤ i → i < stop → (read i).isSome = true

theorem Ends.succ {read : Nat → Option α} {start stop : Nat} (h : Ends read start stop)
    (hlt : start < stop) : Ends read (start + 1) stop where
  le := hlt
  missing := h.missing
  present i hi := h.present i (by omega)

theorem Ends.unique {read : Nat → Option α} {start stop stop' : Nat} (h : Ends read start stop)
    (h' : Ends read start stop') : stop = stop' := by
  by_contra hne
  rcases Nat.lt_or_gt_of_ne hne with hlt | hlt
  · have hsome := h'.present stop h.le hlt
    rw [h.missing] at hsome
    exact absurd hsome (by simp)
  · have hsome := h.present stop' h'.le hlt
    rw [h'.missing] at hsome
    exact absurd hsome (by simp)

/-- With a key of its own for each number, an entry is missing among the first ones. -/
theorem exists_ends {read : Nat → Option α} {key : Nat → κ} (hkey : Function.Injective key)
    (keys : List κ) (hread : ∀ i, (read i).isSome = true → key i ∈ keys) (start : Nat) :
    ∃ stop, Ends read start stop ∧ stop ≤ start + keys.length := by
  have hex : ∃ stop, start ≤ stop ∧ stop ≤ start + keys.length ∧ read stop = none := by
    by_contra hnone
    have hall : ∀ i, start ≤ i → i ≤ start + keys.length → key i ∈ keys := by
      intro i hlo hhi
      refine hread i (Option.isSome_iff_ne_none.mpr fun hmissing => hnone ⟨i, hlo, hhi, hmissing⟩)
    have hsub : (List.range' start (keys.length + 1)).map key ⊆ keys := by
      intro k hk
      obtain ⟨i, hi, rfl⟩ := List.mem_map.mp hk
      rw [List.mem_range'_1] at hi
      exact hall i (by omega) (by omega)
    have hnodup : ((List.range' start (keys.length + 1)).map key).Nodup :=
      (List.nodup_range' ..).map hkey
    have hlength := (List.subperm_of_subset hnodup hsub).length_le
    rw [List.length_map, List.length_range'] at hlength
    omega
  classical
  have hspec := Nat.find_spec hex
  refine ⟨Nat.find hex, ⟨hspec.1, hspec.2.2, fun i hlo hlt => ?_⟩, hspec.2.1⟩
  have hmin := Nat.find_min hex hlt
  rw [Option.isSome_iff_ne_none]
  exact fun hmissing => hmin ⟨hlo, by omega, hmissing⟩

theorem scan_eq {read : Nat → Option α} (visit : σ → Nat → α → σ) {fuel start stop : Nat}
    (h : Ends read start stop) (hfuel : stop < start + fuel) (s : σ) :
    scan read visit fuel start s =
      some (((List.range' start (stop - start)).filterMap fun i => (read i).map (i, ·)).foldl
        (fun s entry => visit s entry.1 entry.2) s) := by
  induction fuel generalizing start s with
  | zero => exact absurd hfuel (by have hle := h.le; omega)
  | succ fuel ih =>
      unfold scan
      by_cases heq : start = stop
      · subst heq
        rw [h.missing, Nat.sub_self]
        rfl
      · have hlt : start < stop := Nat.lt_of_le_of_ne h.le heq
        obtain ⟨x, hx⟩ := Option.isSome_iff_exists.mp (h.present start (Nat.le_refl _) hlt)
        have hcount : stop - start = (stop - (start + 1)) + 1 := by omega
        rw [hcount, List.range'_succ, hx]
        dsimp only
        rw [ih (h.succ hlt) (by omega)]
        simp [hx]

theorem foldl_toList {γ : Type*} (f : γ → Option β) (entries : List γ) (init : List β) :
    entries.foldl (fun found entry => found ++ (f entry).toList) init =
      init ++ entries.filterMap f := by
  induction entries generalizing init with
  | nil => simp
  | cons entry entries ih =>
      rw [List.foldl_cons, ih, List.filterMap_cons]
      cases f entry <;> simp

theorem scan_filterMap {read : Nat → Option α} (f : Nat → α → Option β)
    {fuel start stop : Nat} (h : Ends read start stop) (hfuel : stop < start + fuel) :
    scan read (fun found i x => found ++ (f i x).toList) fuel start [] =
      some ((List.range' start (stop - start)).filterMap fun i => (read i).bind (f i)) := by
  rw [scan_eq _ h hfuel, foldl_toList fun entry : Nat × α => f entry.1 entry.2, List.nil_append,
    List.filterMap_filterMap]
  congr 2
  funext i
  cases read i <;> rfl

end Scan
