/-
# JSON numbers

The grammar of a number and the value it stands for.  A number without fraction and exponent is
an integer if it fits into 64 bits, signed or unsigned; every other number is a decimal, and stands
for no value when it is too large for a double-precision float.
-/
import DeviceFleet.Json.Canonical
import DeviceFleet.Text.Digits

namespace DeviceFleet.Json

open Text (digits digitsValue)

/-- Takes the factors of ten out of a non-zero number, at most `fuel` of them. -/
def dropZeros : Nat → Nat → Int → Nat × Int
  | 0, n, e => (n, e)
  | fuel + 1, n, e => if n % 10 = 0 ∧ n ≠ 0 then dropZeros fuel (n / 10) (e + 1) else (n, e)

/-- From here on a double-precision float overflows. -/
def floatBound : Nat := 1 <<< 1024 - 1 <<< 970

/-- Is `coefficient · 10 ^ exponent` below the bound from which a double-precision float
overflows? -/
def fitsFloat (coefficient : Nat) (exponent : Int) : Bool :=
  let magnitude : Int := (Text.digits coefficient).length + exponent
  if coefficient = 0 ∨ magnitude < 300 then true
  else if magnitude > 320 then false
  else if exponent ≥ 0 then coefficient * Nat.pow 10 exponent.toNat < floatBound
  else coefficient < floatBound * Nat.pow 10 (-exponent).toNat

/-- A decimal whose digits do not end in a zero, if it is not too large. -/
def decimalOf (negative : Bool) (coefficient : Nat) (exponent : Int) : Json :=
  if coefficient = 0 then .decimal negative 0 0
  else if fitsFloat coefficient exponent then
    let (d, e) := dropZeros (digits coefficient).length coefficient exponent
    .decimal negative d e
  else .unusable

/-- The exponent part of a number: nothing, or `e` with an optional sign and digits. -/
def exponent? : List Char → Option (Option Int)
  | [] => some none
  | c :: cs =>
    if c = 'e' ∨ c = 'E' then
      let (negative, ds) := match cs with
        | '-' :: ds => (true, ds)
        | '+' :: ds => (false, ds)
        | ds => (false, ds)
      if ds ≠ [] ∧ ds.all Char.isDigit then
        some (some (if negative then -(digitsValue ds : Int) else digitsValue ds))
      else none
    else none

/-- The fraction of a number: nothing, or a point and digits; what follows it is left. -/
def fraction? : List Char → Option (List Char × List Char)
  | '.' :: cs =>
    let ds := cs.takeWhile Char.isDigit
    if ds = [] then none else some (ds, cs.dropWhile Char.isDigit)
  | cs => some ([], cs)

/-- The value of a whole number text, or of a decimal one. -/
def numberOf (negative : Bool) (whole fraction : List Char) (exponent : Option Int) : Json :=
  let n := digitsValue whole
  let value : Int := if negative then -n else n
  if fraction = [] ∧ exponent = none ∧ InRange value ∧ ¬(negative ∧ n = 0) then
    .integer value
  else
    decimalOf negative (digitsValue (whole ++ fraction)) (exponent.getD 0 - fraction.length)

/-- Reads a number text. -/
def number? (cs : List Char) : Option Json := do
  let (negative, cs) := match cs with
    | '-' :: cs => (true, cs)
    | cs => (false, cs)
  let whole := cs.takeWhile Char.isDigit
  if whole = [] ∨ (whole.length > 1 ∧ whole.head? = some '0') then none
  else
    let (fraction, rest) ← fraction? (cs.dropWhile Char.isDigit)
    let exponent ← exponent? rest
    return numberOf negative whole fraction exponent

end DeviceFleet.Json
