/-
# Decimal digits and their value

The digits of a number have its value, with zeros in front or without, and begin with a zero only
when the number is zero.
-/
import DeviceFleet.Text.Digits
import Mathlib.Algebra.Group.Nat.Defs
import Mathlib.Tactic.Common

namespace DeviceFleet.Text

lemma digitsValue_eq (ds : List Char) : digitsValue ds = Nat.ofDigitChars 10 ds 0 := rfl

@[simp] lemma digitsValue_digits (n : Nat) : digitsValue (digits n) = n := Nat.ofDigitChars_ten_toDigits

@[simp] lemma digits_ne_nil (n : Nat) : digits n ≠ [] := Nat.toDigits_ne_nil

lemma isDigit_of_mem_digits {n : Nat} {c : Char} (h : c ∈ digits n) : c.isDigit = true :=
  Nat.isDigit_of_mem_toDigits (by decide) (by decide) h

/-- Zeros in front do not change the value of digits. -/
lemma digitsValue_replicate_append (k : Nat) (ds : List Char) :
    digitsValue (List.replicate k '0' ++ ds) = digitsValue ds := by
  rw [digitsValue_eq, Nat.ofDigitChars_append, Nat.ofDigitChars_replicate_zero, Nat.mul_zero]
  rfl

/-- Zeros behind digits multiply their value. -/
lemma digitsValue_append_replicate (ds : List Char) (k : Nat) :
    digitsValue (ds ++ List.replicate k '0') = digitsValue ds * 10 ^ k := by
  rw [digitsValue_eq, Nat.ofDigitChars_append, Nat.ofDigitChars_replicate_zero, Nat.mul_comm]
  rfl

@[simp] lemma digitsValue_padded (width n : Nat) : digitsValue (padded width n) = n := by
  rw [padded, digitsValue_replicate_append, digitsValue_digits]

lemma isDigit_of_mem_padded {width n : Nat} {c : Char} (h : c ∈ padded width n) :
    c.isDigit = true := by
  rcases List.mem_append.mp h with h | h
  · rw [List.eq_of_mem_replicate h]
    rfl
  · exact isDigit_of_mem_digits h

lemma length_padded {width n : Nat} (hwidth : 0 < width) (h : n < 10 ^ width) :
    (padded width n).length = width := by
  have hle : (digits n).length ≤ width := (Nat.length_toDigits_le_iff (by decide) hwidth).mpr h
  simp only [padded, List.length_append, List.length_replicate]
  omega

/-- Digits that begin with a zero are those of zero. -/
lemma digits_eq_of_head? {n : Nat} (h : (digits n).head? = some '0') : digits n = ['0'] := by
  induction n using Nat.strongRecOn with
  | ind n ih =>
    rw [digits, Nat.toDigits_eq_if (by decide)] at h ⊢
    split_ifs at h ⊢ with hn
    · have hzero : n = 0 := Nat.digitChar_eq_zero.mp (by simpa using h)
      rw [hzero]
      rfl
    · have hhead : (digits (n / 10)).head? = some '0' := by
        rwa [List.head?_append, Option.or_eq_left_of_isSome
          (List.isSome_head?.mpr Nat.toDigits_ne_nil)] at h
      have htens := ih (n / 10) (by omega) hhead
      have hvalue : n / 10 = 0 := by
        rw [← digitsValue_digits (n / 10), htens]
        rfl
      omega

end DeviceFleet.Text
