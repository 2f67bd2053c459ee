/-
# Double precision

The numbers of a double-precision float, each by what it stands for: a whole number of 53 bits
times a power of two, or something too large for that.  A decimal stands for the closest one, and
where two are as close, for the one whose whole number is even.
-/
import DeviceFleet.Text.Digits

namespace DeviceFleet

/-- A number in double precision. -/
inductive Double where
  /-- The number `± mantissa · 2 ^ exponent`. -/
  | finite (negative : Bool) (mantissa : Nat) (exponent : Int)
  /-- A number that is too large. -/
  | infinite (negative : Bool)
deriving DecidableEq, Repr

namespace Double

open Text (digits)

/-- The whole number closest to a quotient; of two that are as close, the even one. -/
def roundEven (num den : Nat) : Nat :=
  let q := num / den
  let r := num % den
  if 2 * r < den then q else if den < 2 * r then q + 1 else q + q % 2

/-- A quotient times a power of `base`. -/
def scale (base num den : Nat) (k : Int) : Nat × Nat :=
  if 0 ≤ k then (num * Nat.pow base k.toNat, den) else (num, den * Nat.pow base (-k).toNat)

/-- The greatest power of two, by its exponent, that is at most a quotient. -/
def log2 (num den : Nat) : Int :=
  let k : Int := (Nat.log2 num : Int) - Nat.log2 den
  let (scaled, den) := scale 2 num den (-k)
  if den ≤ scaled then k else k - 1

/-- The number closest to a quotient. -/
def nearest (negative : Bool) (num den : Nat) : Double :=
  if num = 0 then .finite negative 0 0
  else
    -- of the powers of two below 2⁻¹⁰⁷⁴ none is a unit
    let e := max (log2 num den - 52) (-1074)
    let (num, den) := scale 2 num den (-e)
    let m := roundEven num den
    let (m, e) := if m = 1 <<< 53 then (1 <<< 52, e + 1) else (m, e)
    if m = 0 then .finite negative 0 0
    else if 971 < e then .infinite negative
    else .finite negative m e

/-- The number closest to a decimal.  Where that is too large or zero in any case, no power of ten
is computed. -/
def ofDecimal (negative : Bool) (coefficient : Nat) (exponent : Int) : Double :=
  let magnitude : Int := (digits coefficient).length + exponent
  if coefficient = 0 ∨ magnitude < -330 then .finite negative 0 0
  else if 310 < magnitude then .infinite negative
  else
    let (num, den) := scale 10 coefficient 1 exponent
    nearest negative num den

/-- Is the number zero, with any sign? -/
def isZero : Double → Bool
  | .finite _ m _ => m = 0
  | .infinite _ => false

/-- The number of 64 unsigned bits closest to a number; a half is rounded up. -/
def toWord : Double → Nat
  | .finite false m e =>
    let (num, den) := scale 2 m 1 e
    min ((2 * num + den) / (2 * den)) (UInt64.size - 1)
  | .infinite false => UInt64.size - 1
  | .finite true .. | .infinite true => 0

/-! ## As a text -/

/-- How many digits stand in front of the point of a quotient below one, as a number that is not
positive: the zeros after the point count.  At most `fuel` zeros are looked for. -/
def leading (num den : Nat) : Nat → Int
  | 0 => 0
  | fuel + 1 => if den ≤ 10 * num then 0 else leading (10 * num) den fuel - 1

/-- The number written with `k` digits of which the first stands `top` places before the point: one
of the two such decimals around a quotient that stands for the same number, the closer one first. -/
def withDigits? (num den : Nat) (top : Int) (k : Nat) : Option (Nat × Int) :=
  let exponent := top - k
  let (scaled, unit) := scale 10 num den (-exponent)
  let below := scaled / unit
  let candidates :=
    if 2 * (scaled % unit) ≤ unit then [below, below + 1] else [below + 1, below]
  (candidates.find? fun d => ofDecimal false d exponent == nearest false num den).map fun d =>
    if d % 10 = 0 then (d / 10, exponent + 1) else (d, exponent)

/-- The shortest decimal that stands for a number, the closest one if there are several.  Seventeen
digits are always enough. -/
def shortest (mantissa : Nat) (exponent : Int) : Nat × Int :=
  let (num, den) := scale 2 mantissa 1 exponent
  let top : Int := if den ≤ num then (digits (num / den)).length else leading num den 400
  ((List.range 17).findSome? fun k => withDigits? num den top (k + 1)).getD (num / den, 0)

/-- A decimal without an exponent. -/
def positional (coefficient : Nat) (exponent : Int) : List Char :=
  let ds := digits coefficient
  if 0 ≤ exponent then ds ++ List.replicate exponent.toNat '0'
  else
    let places := (-exponent).toNat
    let padded := List.replicate (places + 1 - ds.length) '0' ++ ds
    padded.take (padded.length - places) ++ '.' :: padded.drop (padded.length - places)

/-- The number as a text: its shortest decimal, without an exponent. -/
def text (x : Double) : String :=
  let sign (negative : Bool) : List Char := if negative then ['-'] else []
  match x with
  | .finite negative 0 _ => String.ofList (sign negative ++ ['0'])
  | .finite negative m e =>
    let (d, exponent) := shortest m e
    String.ofList (sign negative ++ positional d exponent)
  | .infinite negative => String.ofList (sign negative ++ ['i', 'n', 'f'])

-- one digit is not enough for a third, and seventeen are not needed for a tenth
example : (ofDecimal false 1 (-1)).text = "0.1" ∧
    (ofDecimal true 3333333333333333333 (-19)).text = "-0.3333333333333333" ∧
    (ofDecimal false 9007199254740993 0).text = "9007199254740992" := by
  decide +kernel

-- a half that is left is rounded up, but what is just below a half in decimals may be one
example : (ofDecimal false 25 (-1)).toWord = 3 ∧
    (ofDecimal false 24999999999999999999 (-19)).toWord = 3 ∧
    (ofDecimal false 249 (-2)).toWord = 2 ∧ (ofDecimal true 25 (-1)).toWord = 0 := by
  decide +kernel

end Double

end DeviceFleet
