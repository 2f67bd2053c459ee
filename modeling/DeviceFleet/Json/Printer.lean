/-
# Writing JSON

The compact text of a value, without white space.  Quotes, backslashes and controls are escaped
inside strings, every other character stands for itself.  What stands for no value has no text.
-/
import DeviceFleet.Json.Basic
import DeviceFleet.Text.Digits

namespace DeviceFleet.Json

/-- A control character by its code point in four hexadecimal digits. -/
def hexEscape (n : Nat) : List Char :=
  ['\\', 'u', '0', '0'] ++ [Nat.digitChar (n / 16), Nat.digitChar (n % 16)]

/-- One character inside a string. -/
def escapeChar (c : Char) : List Char :=
  if c = '"' then ['\\', '"']
  else if c = '\\' then ['\\', '\\']
  else if c = '\n' then ['\\', 'n']
  else if c = '\r' then ['\\', 'r']
  else if c = '\t' then ['\\', 't']
  else if c = '\x08' then ['\\', 'b']
  else if c = '\x0c' then ['\\', 'f']
  else if c.toNat < 0x20 then hexEscape c.toNat
  else [c]

/-- The inside of a string. -/
def escapeChars (cs : List Char) : List Char := cs.flatMap escapeChar

/-- A string between quotes. -/
def stringChars (s : String) : List Char := '"' :: escapeChars s.toList ++ ['"']

/-- A whole number. -/
def integerChars : Int → List Char
  | .ofNat n => Text.digits n
  | .negSucc n => '-' :: Text.digits (n + 1)

/-- A decimal: positional with a point where at most twenty zeros are needed, otherwise with an
exponent. -/
def decimalChars (negative : Bool) (digits : Nat) (exponent : Int) : List Char :=
  let sign := if negative then ['-'] else []
  let ds := Text.digits digits
  let body :=
    if exponent > 20 then ds ++ 'e' :: integerChars exponent
    else if exponent ≥ 0 then ds ++ List.replicate exponent.toNat '0' ++ ['.', '0']
    else
      let places := (-exponent).toNat
      if places > ds.length + 20 then ds ++ 'e' :: integerChars exponent
      else
        let padded := List.replicate (places + 1 - ds.length) '0' ++ ds
        padded.take (padded.length - places) ++ '.' :: padded.drop (padded.length - places)
  sign ++ body

mutual

/-- The text of a value as characters. -/
def chars : Json → List Char
  | .null => ['n', 'u', 'l', 'l']
  | .bool true => ['t', 'r', 'u', 'e']
  | .bool false => ['f', 'a', 'l', 's', 'e']
  | .integer n => integerChars n
  | .decimal negative digits exponent => decimalChars negative digits exponent
  | .string s => stringChars s
  | .array [] => ['[', ']']
  | .array (j :: js) => '[' :: chars j ++ itemChars js ++ [']']
  | .object [] => ['\x7b', '\x7d']
  | .object ((k, v) :: fs) =>
    '\x7b' :: stringChars k ++ ':' :: chars v ++ fieldChars fs ++ ['\x7d']
  | .unusable => []

/-- The items after the first one. -/
def itemChars : List Json → List Char
  | [] => []
  | j :: js => ',' :: chars j ++ itemChars js

/-- The fields after the first one. -/
def fieldChars : List (String × Json) → List Char
  | [] => []
  | (k, v) :: fs => ',' :: stringChars k ++ ':' :: chars v ++ fieldChars fs

end

/-- The compact text of a value. -/
def render (j : Json) : String := String.ofList j.chars

end DeviceFleet.Json
