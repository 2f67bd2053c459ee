/-
# Decimal digits

Numbers as decimal digits: their value, the digits of a number with zeros in front, and the texts
that are read as numbers.
-/

namespace DeviceFleet.Text

/-- The number that decimal digits stand for. -/
def digitsValue (ds : List Char) : Nat := ds.foldl (fun n d => 10 * n + (d.toNat - '0'.toNat)) 0

/-- The decimal digits of a number, at least one. -/
def digits (n : Nat) : List Char := Nat.toDigits 10 n

/-- The decimal digits of a number, with zeros in front up to `width` digits. -/
def padded (width n : Nat) : List Char :=
  List.replicate (width - (digits n).length) '0' ++ digits n

/-- The number that digits with an optional plus sign stand for, if it fits into 64 unsigned
bits. -/
def number? (s : String) : Option Nat :=
  let ds := match s.toList with
    | '+' :: ds => ds
    | ds => ds
  let n := digitsValue ds
  if ds ≠ [] ∧ ds.all Char.isDigit ∧ n < UInt64.size then some n else none

end DeviceFleet.Text
