/-
# Coercion

The values that sources give are taken as what they are meant to be: a truth value may be written
as a number or as a word, a number as a text or with a fraction, a text as a number.  A decimal
counts as the number in double precision that is closest to it.  What is not a number counts as one
that is not zero, and as zero where a number of bits is needed.
-/
import DeviceFleet.Json.Basic
import DeviceFleet.Text.Double
import DeviceFleet.Text.LowerCase

namespace DeviceFleet.Settings

/-- The truth value that a word stands for, in whatever case. -/
def wordFlag? (s : String) : Option Bool :=
  let s := Text.lower s
  if s ∈ ["true", "on", "yes"] then some true
  else if s ∈ ["false", "off", "no"] then some false
  else none

/-- Takes a value as a truth value. -/
def asFlag? : Json → Option Bool
  | .bool b => some b
  | .integer n => some (n ≠ 0)
  | .decimal negative digits exponent => some (!(Double.ofDecimal negative digits exponent).isZero)
  | .string s =>
    (wordFlag? s).or (if s = "1" then some true else if s = "0" then some false else none)
  | .unusable => some true
  | _ => none

/-- Takes a value as a number of 64 unsigned bits.  A decimal is rounded, a half away from zero, and
brought into the range. -/
def asNumber? : Json → Option Nat
  | .bool b => some b.toNat
  | .integer n => if 0 ≤ n ∧ n < UInt64.size then some n.toNat else none
  | .decimal negative digits exponent => some (Double.ofDecimal negative digits exponent).toWord
  | .string s =>
    match wordFlag? s with
    | some b => some b.toNat
    | none => Text.number? s
  | .unusable => some 0
  | _ => none

/-- Takes a value as a text. -/
def asText? : Json → Option String
  | .string s => some s
  | .bool b => some (toString b)
  | .integer n => some (toString n)
  | .decimal negative digits exponent => some (Double.ofDecimal negative digits exponent).text
  | .unusable => some "NaN"
  | _ => none

end DeviceFleet.Settings
