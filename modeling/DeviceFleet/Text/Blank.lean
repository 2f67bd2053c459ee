/-
# Blank texts

A text is blank when it is empty or holds nothing but white space.  White space is the Unicode
property of that name, which has twenty-five characters.
-/

namespace DeviceFleet.Text

/-- Is the character white space? -/
def isSpace (c : Char) : Bool :=
  let n := c.toNat
  (0x9 ≤ n && n ≤ 0xD) || n == 0x20 || n == 0x85 || n == 0xA0 || n == 0x1680 ||
    (0x2000 ≤ n && n ≤ 0x200A) || n == 0x2028 || n == 0x2029 || n == 0x202F || n == 0x205F ||
    n == 0x3000

/-- Is the text empty once white space is taken off both ends? -/
def isBlank (s : String) : Bool := s.toList.all isSpace

@[simp] theorem isBlank_empty : isBlank "" = true := by simp [isBlank]

end DeviceFleet.Text
