import Mathlib.Data.List.Basic
import Mathlib.Data.List.Induction
import Mathlib.Tactic.Common

/-! # The last event of a kind

A list of events in their order, cut at the last one that has a property: what is
known of a state that only such events set is what that one and the later events
say.
-/

namespace History

variable {α : Type*} {p : α → Prop} {events after : List α} {x y : α}

/-- `x` is the last event with the property, and `after` is what follows it. -/
structure LastAt (p : α → Prop) (events : List α) (x : α) (after : List α) : Prop where
  split : ∃ before, events = before ++ x :: after
  holds : p x
  rest : ∀ y ∈ after, ¬ p y

theorem not_lastAt_nil : ¬ LastAt p [] x after := by
  rintro ⟨⟨before, h⟩, _, _⟩
  simp at h

theorem lastAt_append_of (hy : p y) :
    LastAt p (events ++ [y]) x after ↔ x = y ∧ after = [] := by
  constructor
  · rintro ⟨⟨before, h⟩, _, hrest⟩
    rcases List.eq_nil_or_concat' after with rfl | ⟨after', z, rfl⟩
    · exact ⟨(List.append_singleton_inj.mp h).2.symm, rfl⟩
    · have hsplit : events ++ [y] = (before ++ x :: after') ++ [z] := by simpa using h
      have hz : y = z := (List.append_singleton_inj.mp hsplit).2
      exact absurd (hz ▸ hy) (hrest z (by simp))
  · rintro ⟨rfl, rfl⟩
    exact ⟨⟨events, rfl⟩, hy, by simp⟩

theorem lastAt_append_of_not (hy : ¬ p y) :
    LastAt p (events ++ [y]) x after ↔
      ∃ after', after = after' ++ [y] ∧ LastAt p events x after' := by
  constructor
  · rintro ⟨⟨before, h⟩, hx, hrest⟩
    rcases List.eq_nil_or_concat' after with rfl | ⟨after', z, rfl⟩
    · have hxy : y = x := (List.append_singleton_inj.mp h).2
      exact absurd (hxy ▸ hx) hy
    · have hsplit : events ++ [y] = (before ++ x :: after') ++ [z] := by simpa using h
      obtain ⟨hbefore, hz⟩ := List.append_singleton_inj.mp hsplit
      subst hz
      exact ⟨after', rfl, ⟨before, hbefore⟩, hx, fun w hw => hrest w (by simp [hw])⟩
  · rintro ⟨after', rfl, ⟨before, rfl⟩, hx, hrest⟩
    refine ⟨⟨before, by simp⟩, hx, fun w hw => ?_⟩
    rcases List.mem_append.mp hw with hw | hw
    · exact hrest w hw
    · rw [List.mem_singleton.mp hw]
      exact hy

end History
