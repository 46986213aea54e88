import Mathlib.Data.List.Nodup
import Mathlib.Tactic.Common

/-! # Lists of optional entries

A map that is put together entry by entry, where an entry may be left out.
-/

namespace Entries

variable {κ ν : Type*}

/-- The entries that have a value. -/
def present (entries : List (κ × Option ν)) : List (κ × ν) :=
  entries.filterMap fun entry => entry.2.map (entry.1, ·)

theorem mem_present {entries : List (κ × Option ν)} {key : κ} {value : ν} :
    (key, value) ∈ present entries ↔ (key, some value) ∈ entries := by
  unfold present
  rw [List.mem_filterMap]
  constructor
  · rintro ⟨⟨name, kept⟩, hmem, hentry⟩
    obtain ⟨v, hv, heq⟩ := Option.map_eq_some_iff.mp hentry
    obtain ⟨rfl, rfl⟩ := Prod.mk.inj heq
    cases hv
    exact hmem
  · exact fun hmem => ⟨_, hmem, rfl⟩

theorem nodup_present {entries : List (κ × Option ν)} (h : (entries.map Prod.fst).Nodup) :
    ((present entries).map Prod.fst).Nodup := by
  refine List.Nodup.sublist ?_ h
  induction entries with
  | nil => exact List.Sublist.slnil
  | cons entry entries ih =>
      obtain ⟨key, value⟩ := entry
      have hrest := ih (List.nodup_cons.mp h).2
      cases value with
      | none => exact hrest.cons key
      | some value => exact hrest.cons_cons key

end Entries
