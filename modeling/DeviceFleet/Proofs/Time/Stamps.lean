/-
# Time stamps

The text of an instant is read as the instant, when its year has four digits: each number of the
text has a fixed width and is read back, a leap second is told by its number, and the fraction has
as many digits as keep it.
-/
import DeviceFleet.Proofs.Text.Digits
import DeviceFleet.Proofs.Time.Calendar
import DeviceFleet.Time.Format
import Mathlib.Data.List.TakeWhile

namespace DeviceFleet.Instant

open Text (padded)

/-- The year that an instant lies in. -/
def year (i : Instant) : Int := (Calendar.Date.ofDay (i.seconds / daySeconds + epochDay)).year

/-- The year of an instant is written with four digits and no sign. -/
def HasPlainYear (i : Instant) : Prop := 0 ≤ i.year ∧ i.year ≤ 9999

/-! ## Numbers of a fixed width -/

lemma exists_padded_eq_cons (width n : Nat) :
    ∃ d ds, padded width n = d :: ds ∧ d.isDigit = true := by
  obtain ⟨d, ds, h⟩ := List.exists_cons_of_ne_nil (l := padded width n) (by simp [padded])
  exact ⟨d, ds, h, Text.isDigit_of_mem_padded (h ▸ List.mem_cons_self)⟩

lemma isSpace_of_isDigit {c : Char} (h : c.isDigit = true) : Text.isSpace c = false := by
  have hrange : 48 ≤ c.toNat ∧ c.toNat ≤ 57 := by
    simpa [Char.isDigit, UInt32.le_iff_toNat_le] using h
  simp only [Text.isSpace, Bool.or_eq_false_iff, Bool.and_eq_false_iff, decide_eq_false_iff_not,
    beq_eq_false_iff_ne]
  omega

lemma trimStart_padded (width n : Nat) (rest : List Char) :
    trimStart (padded width n ++ rest) = padded width n ++ rest := by
  obtain ⟨d, ds, h, hd⟩ := exists_padded_eq_cons width n
  simp [trimStart, h, isSpace_of_isDigit hd]

lemma takeWhile_padded_append (width n : Nat) (rest : List Char) :
    (padded width n ++ rest).takeWhile Char.isDigit =
      padded width n ++ rest.takeWhile Char.isDigit := by
  rw [List.takeWhile_append_of_pos fun c hc => Text.isDigit_of_mem_padded hc]

/-- A number that is written with all the digits that are read at most. -/
lemma takeNumber_padded {width n : Nat} (hwidth : 0 < width) (h : n < 10 ^ width)
    (rest : List Char) : takeNumber width (padded width n ++ rest) = some (n, rest) := by
  have hlength := Text.length_padded hwidth h
  have hne : padded width n ≠ [] := by simp [padded]
  have htake : ((padded width n ++ rest).takeWhile Char.isDigit).take width = padded width n := by
    rw [takeWhile_padded_append, List.take_append_of_le_length hlength.ge,
      List.take_of_length_le hlength.le]
  rw [takeNumber, htake]
  simp [hne, hlength]

lemma takeYear_padded {n : Nat} (h : n < 10 ^ 4) (rest : List Char) :
    takeYear (padded 4 n ++ rest) = some ((n : Int), rest) := by
  obtain ⟨d, ds, hds, hd⟩ := exists_padded_eq_cons 4 n
  unfold takeYear
  split
  next cs hcs =>
    rw [hds] at hcs
    exact absurd ((List.cons.inj hcs).1 ▸ hd) (by decide)
  next cs hcs =>
    rw [hds] at hcs
    exact absurd ((List.cons.inj hcs).1 ▸ hd) (by decide)
  next => rw [takeNumber_padded (by decide) h, Option.map_some]

lemma takeField_padded {separator : Char} (hsep : Text.isSpace separator = false) {n : Nat}
    (h : n < 10 ^ 2) (rest : List Char) :
    takeField separator (separator :: (padded 2 n ++ rest)) = some (n, rest) := by
  have htrim : trimStart (separator :: (padded 2 n ++ rest)) =
      separator :: (padded 2 n ++ rest) := by
    simp [trimStart, hsep]
  rw [takeField, htrim]
  simp only [if_true, trimStart_padded]
  exact takeNumber_padded (by decide) h rest

/-! ## The fraction -/


lemma takeFraction_padded {width n : Nat} (hwidth : 0 < width) (hle : width ≤ 9)
    (h : n < 10 ^ width) :
    takeFraction ('.' :: padded width n ++ ['Z']) = some (n * 10 ^ (9 - width), ['Z']) := by
  have hlength := Text.length_padded hwidth h
  have hne : padded width n ≠ [] := by simp [padded]
  have htake : (padded width n ++ ['Z']).takeWhile Char.isDigit = padded width n := by
    rw [takeWhile_padded_append]
    simp [show Char.isDigit 'Z' = false from rfl]
  simp only [takeFraction, List.cons_append, htake, if_neg hne, hlength,
    List.take_of_length_le (hlength.trans_le hle), Text.digitsValue_append_replicate,
    Text.digitsValue_padded]
  rw [List.drop_left' hlength]

/-- The digits of a fraction keep it. -/
lemma takeFraction_fractionChars {nanos : Nat} (h : nanos < 1000000000) :
    takeFraction (fractionChars nanos ++ ['Z']) = some (nanos, ['Z']) := by
  unfold fractionChars
  split_ifs with h0 h6 h3
  · rw [h0]
    rfl
  · rw [takeFraction_padded (by decide) (by decide) (by omega)]
    congr 2
    omega
  · rw [takeFraction_padded (by decide) (by decide) (by omega)]
    congr 2
    omega
  · rw [takeFraction_padded (by decide) (by decide) h]
    simp

/-! ## The whole stamp -/

/-- A time stamp in universal time is read part by part. -/
lemma parseChars?_stamp {year month day hour minute second nanos : Nat} (hyear : year < 10 ^ 4)
    (hmonth : month < 10 ^ 2) (hday : day < 10 ^ 2) (hhour : hour < 10 ^ 2)
    (hminute : minute < 10 ^ 2) (hsecond : second < 10 ^ 2) (hnanos : nanos < 1000000000) :
    parseChars? (padded 4 year ++ '-' :: (padded 2 month ++ '-' :: (padded 2 day ++
      'T' :: (padded 2 hour ++ ':' :: (padded 2 minute ++ ':' :: (padded 2 second ++
        (fractionChars nanos ++ ['Z']))))))) =
      ofParts ⟨year, month, day⟩ hour minute second nanos 0 := by
  have hdash : Text.isSpace '-' = false := rfl
  have hcolon : Text.isSpace ':' = false := rfl
  simp only [parseChars?, trimStart_padded, takeYear_padded hyear, Option.bind_eq_bind,
    Option.bind_some, takeField_padded hdash hmonth, takeField_padded hdash hday,
    takeNumber_padded (show 0 < 2 by decide) hhour, takeField_padded hcolon hminute,
    takeField_padded hcolon hsecond, takeFraction_fractionChars hnanos]
  rfl

/-- The text of an instant is the stamp of its parts. -/
lemma chars_eq {i : Instant} (h : i.HasPlainYear) :
    i.chars = padded 4 i.year.toNat ++ '-' ::
      (padded 2 (Calendar.Date.ofDay (i.seconds / daySeconds + epochDay)).month ++ '-' ::
        (padded 2 (Calendar.Date.ofDay (i.seconds / daySeconds + epochDay)).day ++ 'T' ::
          (padded 2 ((i.seconds % daySeconds).toNat / 3600) ++ ':' ::
            (padded 2 ((i.seconds % daySeconds).toNat / 60 % 60) ++ ':' ::
              (padded 2 ((i.seconds % daySeconds).toNat % 60 +
                  if 1000000000 ≤ i.nanos then 1 else 0) ++
                (fractionChars (i.nanos % 1000000000) ++ ['Z'])))))) := by
  have hyear : yearChars (Calendar.Date.ofDay (i.seconds / daySeconds + epochDay)).year =
      padded 4 i.year.toNat := by
    unfold yearChars
    exact if_pos h
  simp only [chars, hyear, List.append_assoc, List.cons_append]

/-- Parts that belong to an instant make it up. -/
lemma ofParts_eq_some {date : Calendar.Date} {hour minute second nanos : Nat} {i : Instant}
    (hvalid : date.isValid = true ∧ -262143 ≤ date.year ∧ date.year ≤ 262142 ∧ hour < 24 ∧
      minute < 60 ∧ second ≤ 60)
    (hseconds : (date.toDay - epochDay) * daySeconds + hour * 3600 + minute * 60 +
      ((if second = 60 then 59 else second : Nat) : Int) = i.seconds)
    (hnanos : (if second = 60 then nanos + 1000000000 else nanos) = i.nanos) :
    ofParts date hour minute second nanos 0 = some i := by
  obtain ⟨seconds, nanos', hlt, hlast⟩ := i
  subst hseconds hnanos
  obtain ⟨hdate, hlow, hhigh, hhour, hminute, hsecond⟩ := hvalid
  unfold ofParts
  rw [if_pos ⟨hdate, hlow, hhigh, hhour, hminute, hsecond, by decide, by decide⟩]
  simp only [Int.sub_zero]
  exact dif_pos ⟨hlt, hlast⟩

/-- The parts of an instant determine it. -/
lemma ofParts_parts {i : Instant} (h : i.HasPlainYear) :
    ofParts (Calendar.Date.ofDay (i.seconds / daySeconds + epochDay))
      ((i.seconds % daySeconds).toNat / 3600) ((i.seconds % daySeconds).toNat / 60 % 60)
      ((i.seconds % daySeconds).toNat % 60 + if 1000000000 ≤ i.nanos then 1 else 0)
      (i.nanos % 1000000000) 0 = some i := by
  have hlow : 0 ≤ (Calendar.Date.ofDay (i.seconds / daySeconds + epochDay)).year := h.1
  have hhigh : (Calendar.Date.ofDay (i.seconds / daySeconds + epochDay)).year ≤ 9999 := h.2
  have hlt := i.nanos_lt
  have hlast := i.leap_last
  have htime : ((i.seconds % daySeconds).toNat : Int) = i.seconds % 86400 :=
    Int.toNat_of_nonneg (Int.emod_nonneg _ (by decide))
  -- a leap second is the last of its minute, so the second 60 stands for it and nothing else
  have hlast' : 1000000000 ≤ i.nanos → (i.seconds % daySeconds).toNat % 60 = 59 := by omega
  refine ofParts_eq_some ⟨Calendar.isValid_ofDay _, by omega, by omega, by omega, by omega, ?_⟩
    ?_ ?_
  · split_ifs <;> omega
  · rw [Calendar.toDay_ofDay, Int.add_sub_cancel]
    unfold daySeconds at *
    split_ifs <;> omega
  · split_ifs <;> omega

/-- The text of an instant is read as the instant. -/
theorem parse?_render {i : Instant} (h : i.HasPlainYear) : parse? i.render = some i := by
  have hyear : i.year.toNat < 10 ^ 4 := by have := h.1; have := h.2; omega
  have hmonth := Calendar.month_ofDay_le (i.seconds / daySeconds + epochDay)
  have hday := Calendar.day_ofDay_le (i.seconds / daySeconds + epochDay)
  have htime : (i.seconds % daySeconds).toNat < 86400 := by unfold daySeconds; omega
  rw [parse?, render, String.toList_ofList, chars_eq h,
    parseChars?_stamp hyear (by omega) (by omega) (by omega) (by omega) (by split <;> omega)
      (by omega)]
  have hdate : (⟨(i.year.toNat : Int), (Calendar.Date.ofDay
      (i.seconds / daySeconds + epochDay)).month, (Calendar.Date.ofDay
      (i.seconds / daySeconds + epochDay)).day⟩ : Calendar.Date) =
        Calendar.Date.ofDay (i.seconds / daySeconds + epochDay) := by
    rw [Int.toNat_of_nonneg h.1, year]
  rw [hdate, ofParts_parts h]

/-- A library for time stamps that keeps instants with plain years. -/
class LawfulFormat [Format] : Prop where
  /-- The time stamp of an instant is read as the instant. -/
  parse?_render : ∀ {i : Instant}, i.HasPlainYear → Format.parse? (Format.render i) = some i

instance lawful_internet : @LawfulFormat internet := ⟨parse?_render⟩

-- an offset is not kept
example : (parse? "2024-01-01T01:30:00.5+02:00").map render = some "2023-12-31T23:30:00.500Z" := by
  decide +kernel

end DeviceFleet.Instant
