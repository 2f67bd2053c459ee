/-
# Plain scalars of YAML

A scalar without quotes stands for what it looks like: `null` or `~` for nothing, `true` and
`false` for truth values, whole numbers of 64 signed bits in decimal, hexadecimal or octal form,
other numbers for decimals, and everything else for a text.  Infinity and what is not a number can
be written as words; the names that YAML has for them, as `.inf`, cannot be read.
-/
import DeviceFleet.Json.Token

namespace DeviceFleet.Yaml

open Text (digits digitsValue)

/-- A number text without its sign, and whether the sign is a minus. -/
def unsigned : List Char → Bool × List Char
  | '-' :: cs => (true, cs)
  | '+' :: cs => (false, cs)
  | cs => (false, cs)

/-- The number that digits to a base stand for, if each of them is below the base. -/
def based? (base : Nat) (ds : List Char) : Option Nat :=
  ds.foldlM
    (fun n c => do
      let d ← Json.Token.hexDigit? c
      if d < base then some (base * n + d) else none)
    0

/-- A whole number, if it fits into 64 signed bits. -/
def signed? (n : Int) : Option Json :=
  if Int64.minValue.toInt ≤ n ∧ n ≤ Int64.maxValue.toInt then some (.integer n) else none

/-- A whole number to a base, with an optional sign. -/
def wholeTo? (base : Nat) (cs : List Char) : Option Json :=
  let (negative, ds) := unsigned cs
  if ds = [] then none
  else (based? base ds).bind fun n => signed? (if negative then -(n : Int) else n)

/-- A whole number. -/
def whole? : List Char → Option Json
  | '0' :: 'x' :: cs => wholeTo? 16 cs
  | '0' :: 'o' :: cs => wholeTo? 8 cs
  | '+' :: cs => wholeTo? 10 cs
  | cs => wholeTo? 10 cs

/-- A decimal: digits on at least one side of an optional point, and an optional exponent. -/
def decimal? (cs : List Char) : Option Json :=
  let (negative, cs) := unsigned cs
  let whole := cs.takeWhile Char.isDigit
  let (fraction, rest) := match cs.dropWhile Char.isDigit with
    | '.' :: rest => (rest.takeWhile Char.isDigit, rest.dropWhile Char.isDigit)
    | rest => ([], rest)
  let ds := whole ++ fraction
  if ds = [] then none
  else
    (Json.exponent? rest).map fun exponent =>
      let value := digitsValue ds
      let shifted : Int := exponent.getD 0 - fraction.length
      if value = 0 then .decimal negative 0 0
      else
        let (d, e) := Json.dropZeros (digits value).length value shifted
        .decimal negative d e

/-- The number that a word stands for, in whatever case: infinity, as a decimal that is larger than
all numbers in double precision, or what is not a number. -/
def named? (cs : List Char) : Option Json :=
  let (negative, cs) := unsigned cs
  let word := String.ofList (cs.map Char.toLower)
  if word ∈ ["inf", "infinity"] then some (.decimal negative 1 400)
  else if word = "nan" then some .unusable
  else none

/-- Is it a name that YAML has for a number?  Such a number is known for one, and still cannot be
read. -/
def isUnreadable (cs : List Char) : Bool :=
  match cs with
  | ['.', 'n', 'a', 'n'] | ['.', 'N', 'A', 'N'] => true
  | '-' :: cs | '+' :: cs | cs => String.ofList cs ∈ [".inf", ".Inf", ".INF"]

/-- What a plain scalar stands for. -/
def scalar (cs : List Char) : Json :=
  let s := String.ofList cs
  if s = "~" ∨ s = "null" then .null
  else if s = "true" then .bool true
  else if s = "false" then .bool false
  else ((whole? cs).or ((decimal? cs).or (named? cs))).getD (.string s)

end DeviceFleet.Yaml
