/-
# Random identifiers

Identifiers made of 122 random bits, written in the form of version 4: 32 hexadecimal digits in
lower case in five groups, of which the thirteenth is the version and the seventeenth tells the
variant.
-/
import DeviceFleet.Text.Digits

namespace DeviceFleet.Uuid

/-- Is the character a hexadecimal digit in lower case? -/
def isHexDigit (c : Char) : Bool := c.isDigit || ('a' ≤ c && c ≤ 'f')

/-- The last `count` hexadecimal digits of a number. -/
def hexDigits : Nat → Nat → List Char
  | 0, _ => []
  | count + 1, n => hexDigits count (n / 16) ++ [Nat.digitChar (n % 16)]

/-- The identifier with some bits. -/
def ofBits (bits : BitVec 122) : String :=
  let n := bits.toNat
  let first := hexDigits 12 n
  let second := hexDigits 3 (n >>> 48)
  let variant := Nat.digitChar (8 + (n >>> 60) % 4)
  let third := hexDigits 15 (n >>> 62)
  String.ofList <|
    first.take 8 ++ '-' :: first.drop 8 ++ '-' :: '4' :: second ++ '-' :: variant ::
      third.take 3 ++ '-' :: third.drop 3

/-- Is the text an identifier of version 4 in lower case? -/
def isVersion4 (s : String) : Bool :=
  let cs := s.toList
  let fits (p : Nat × Char) : Bool :=
    if p.1 ∈ [8, 13, 18, 23] then p.2 = '-'
    else if p.1 = 14 then p.2 = '4'
    else if p.1 = 19 then p.2 ∈ ['8', '9', 'a', 'b']
    else isHexDigit p.2
  cs.length = 36 && ((List.range 36).zip cs).all fits

end DeviceFleet.Uuid
