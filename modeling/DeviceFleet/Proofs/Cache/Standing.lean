/-
# What stands in a history

An entry of a history stands when nothing that undoes it comes after it.  Whether it does is
decided from the end: by the last entry, and by what stood before.
-/
import Mathlib.Data.List.Induction
import Mathlib.Tactic.Common

namespace DeviceFleet

variable {α : Type} {x y : α} {undoes undoes' : α → Prop} {xs : List α}

/-- The entry `x` of a history stands: nothing that undoes it comes after it. -/
def Standing (x : α) (undoes : α → Prop) (xs : List α) : Prop :=
  ∃ before later, xs = before ++ x :: later ∧ ∀ y ∈ later, ¬ undoes y

lemma not_standing_nil : ¬ Standing x undoes [] := by
  rintro ⟨before, later, h, -⟩
  simp at h

/-- The last entry stands, and an earlier one does if the last one does not undo it. -/
lemma standing_concat_iff :
    Standing x undoes (xs ++ [y]) ↔ y = x ∨ Standing x undoes xs ∧ ¬ undoes y := by
  constructor
  · rintro ⟨before, later, h, hlater⟩
    rcases List.eq_nil_or_concat later with rfl | ⟨later, z, rfl⟩
    · left
      exact List.singleton_inj.1 (List.append_inj_right' h rfl)
    · right
      have h' : xs ++ [y] = (before ++ x :: later) ++ [z] := by simpa using h
      obtain ⟨rfl, hz⟩ := List.append_inj' h' rfl
      obtain rfl := List.singleton_inj.1 hz
      exact ⟨⟨before, later, rfl, fun w hw => hlater w (by simp [hw])⟩, hlater y (by simp)⟩
  · rintro (rfl | ⟨⟨before, later, rfl, hlater⟩, hy⟩)
    · exact ⟨xs, [], rfl, by simp⟩
    · refine ⟨before, later ++ [y], by simp, fun z hz => ?_⟩
      rcases List.mem_append.1 hz with hz | hz
      · exact hlater z hz
      · rwa [List.mem_singleton.1 hz]

lemma Standing.mono (h : Standing x undoes xs) (hundoes : ∀ y, undoes' y → undoes y) :
    Standing x undoes' xs := by
  obtain ⟨before, later, hxs, hlater⟩ := h
  exact ⟨before, later, hxs, fun y hy hundo => hlater y hy (hundoes y hundo)⟩

end DeviceFleet
