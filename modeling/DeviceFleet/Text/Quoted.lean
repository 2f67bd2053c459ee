/-
# Quoted texts

How a text is written between double quotes in a description of a value: quotes, backslashes and
the common controls by short escapes, every other character that would not be visible by its
code point in hexadecimal.
-/
import DeviceFleet.Text.EscapeTable

namespace DeviceFleet.Text

/-- One character of a quoted text. -/
def quoteChar (c : Char) : List Char :=
  if c = '"' then ['\\', '"']
  else if c = '\\' then ['\\', '\\']
  else if c = '\n' then ['\\', 'n']
  else if c = '\r' then ['\\', 'r']
  else if c = '\t' then ['\\', 't']
  else if c.toNat = 0 then ['\\', '0']
  else if EscapeTable.isHidden c.toNat then
    ['\\', 'u', '\x7b'] ++ Nat.toDigits 16 c.toNat ++ ['\x7d']
  else [c]

/-- The text between double quotes. -/
def quoted (s : String) : String :=
  String.ofList ('"' :: s.toList.flatMap quoteChar ++ ['"'])

end DeviceFleet.Text
