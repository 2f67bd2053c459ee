/-
# Lower-casing a piece of a text

Every character of a text is lower-cased by itself, except a capital sigma, whose form depends on
the characters around it.  So a piece is lower-cased in the middle of a text as it is by itself if
each of its capital sigmas takes the same form in both.  A sigma takes another form only where the
piece cuts through a word: nothing that counts comes between it and the cut.
-/
import DeviceFleet.Text.LowerCase
import Mathlib.Data.List.TakeWhile
import Mathlib.Tactic.Common

namespace DeviceFleet.Text

open CaseTable

variable {before after : List Char}

/-- The lower-case form of `cs` between the characters `before`, nearest first, and the characters
`after`. -/
def lowerBetween (before after : List Char) : List Char → List Char
  | [] => []
  | c :: cs =>
    (if c = 'Σ' then [lowerSigma before (cs ++ after)] else lowerChar c) ++
      lowerBetween (c :: before) after cs

/-- A text is lower-cased piece by piece, each piece between the others. -/
lemma lowerFrom_append (before cs after : List Char) :
    lowerFrom before (cs ++ after) =
      lowerBetween before after cs ++ lowerFrom (cs.reverse ++ before) after := by
  induction cs generalizing before with
  | nil => rfl
  | cons c cs ih =>
    rw [List.cons_append, lowerFrom, lowerBetween, ih, List.reverse_cons, List.append_assoc,
      List.append_assoc]
    rfl

/-- Every capital sigma of a piece takes the form that it takes in the piece by itself. -/
def KeepsSigmas (before after piece : List Char) : Prop :=
  ∀ l r, piece = l ++ 'Σ' :: r →
    lowerSigma (l.reverse ++ before) (r ++ after) = lowerSigma l.reverse r

/-- The same for the rest of a piece, of which the characters `inner` come before. -/
lemma lowerBetween_append_eq_iff (before after inner cs : List Char) :
    lowerBetween (inner ++ before) after cs = lowerFrom inner cs ↔
      ∀ l r, cs = l ++ 'Σ' :: r →
        lowerSigma (l.reverse ++ (inner ++ before)) (r ++ after) =
          lowerSigma (l.reverse ++ inner) r := by
  induction cs generalizing inner with
  | nil => simp [lowerBetween, lowerFrom]
  | cons c cs ih =>
    -- the first character is a sigma in its place, or the sigma comes later
    have hsplit : (∀ l r, c :: cs = l ++ 'Σ' :: r →
        lowerSigma (l.reverse ++ (inner ++ before)) (r ++ after) =
          lowerSigma (l.reverse ++ inner) r) ↔
        (c = 'Σ' → lowerSigma (inner ++ before) (cs ++ after) = lowerSigma inner cs) ∧
          ∀ l r, cs = l ++ 'Σ' :: r →
            lowerSigma (l.reverse ++ (c :: inner ++ before)) (r ++ after) =
              lowerSigma (l.reverse ++ c :: inner) r := by
      constructor
      · intro h
        refine ⟨?_, ?_⟩
        · rintro rfl
          exact h [] cs rfl
        · rintro l r rfl
          have hlater := h (c :: l) r rfl
          rwa [List.reverse_cons, List.append_assoc, List.append_assoc] at hlater
      · rintro ⟨hfirst, hlater⟩ l r heq
        cases l with
        | nil =>
          obtain ⟨rfl, rfl⟩ := List.cons_eq_cons.1 heq
          exact hfirst rfl
        | cons d l =>
          obtain ⟨rfl, rfl⟩ := List.cons_eq_cons.1 heq
          rw [List.reverse_cons, List.append_assoc, List.append_assoc]
          exact hlater l r rfl
    have hrest := ih (c :: inner)
    rw [hsplit, ← hrest, lowerBetween, lowerFrom]
    by_cases hc : c = 'Σ'
    · rw [if_pos hc, if_pos hc, List.singleton_append, List.singleton_append, List.cons.injEq]
      simp only [hc, forall_const]
      rfl
    · rw [if_neg hc, if_neg hc, List.append_cancel_left_eq]
      simp only [hc, false_implies, true_and]
      rfl

/-- **A piece is lower-cased in its place as it is by itself exactly if it keeps its sigmas.** -/
lemma lowerBetween_eq_iff {piece : List Char} :
    lowerBetween before after piece = lowerFrom [] piece ↔ KeepsSigmas before after piece := by
  have h := lowerBetween_append_eq_iff before after [] piece
  simpa only [List.nil_append, List.append_nil, KeepsSigmas] using h

end DeviceFleet.Text
