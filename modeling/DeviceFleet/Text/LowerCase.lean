/-
# Lower-casing

Full lower-casing of a text: every letter is replaced by its lower-case form.  Two letters need
more than a table of partners.  The dotted capital I becomes two characters, and a capital
sigma becomes the final form `ς` exactly at the end of a word, that is, when a cased character
comes before it and none after it, case-ignorable characters not being counted.
-/
import DeviceFleet.Text.CaseTable

namespace DeviceFleet.Text

open CaseTable

/-- The lower-case form of a character by itself. -/
def lowerChar (c : Char) : List Char :=
  let n := c.toNat
  if n = 0x130 then ['i', '\u0307']
  else
    match lowerRuns.find? fun r => r.1 ≤ n && n ≤ r.2.1 && (n - r.1) % r.2.2.1 == 0 with
    | some r => [Char.ofNat (n + r.2.2.2).toNat]
    | none => [c]

/-- Is the first character that is not case-ignorable a cased one? -/
def meetsCased (cs : List Char) : Bool :=
  match cs.dropWhile fun c => covers ignorableRanges c.toNat with
  | [] => false
  | c :: _ => covers casedRanges c.toNat

/-- The form that a capital sigma takes between the characters `before` it, nearest first, and
the characters `after` it. -/
def lowerSigma (before after : List Char) : Char :=
  if meetsCased before && !meetsCased after then 'ς' else 'σ'

/-- Lower-cases `cs`, which follows the characters `before`, nearest first. -/
def lowerFrom (before : List Char) : List Char → List Char
  | [] => []
  | c :: cs =>
    (if c = 'Σ' then [lowerSigma before cs] else lowerChar c) ++ lowerFrom (c :: before) cs

/-- The lower-case form of a text. -/
def lower (s : String) : String := String.ofList (lowerFrom [] s.toList)

@[simp] theorem toList_lower (s : String) : (lower s).toList = lowerFrom [] s.toList := by
  simp [lower]

end DeviceFleet.Text
