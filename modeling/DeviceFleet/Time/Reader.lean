/-
# Reading time stamps

A time stamp is a date, a separator, a time of day and an offset from universal time.  The form
is that of Internet time stamps with some liberties: white space may stand before each number,
before each separator and before the offset, numbers may have fewer digits, a signed year may
have more, and the offset may be written as `UTC` or without a colon.
-/
import DeviceFleet.Time.Printer
import DeviceFleet.Text.Blank

namespace DeviceFleet.Instant

open Text (digitsValue)

/-- The characters after leading white space. -/
def trimStart (cs : List Char) : List Char := cs.dropWhile Text.isSpace

/-- Takes a number of at least one and at most `most` digits off the front. -/
def takeNumber (most : Nat) (cs : List Char) : Option (Nat × List Char) :=
  let ds := (cs.takeWhile Char.isDigit).take most
  if ds = [] then none else some (digitsValue ds, cs.drop ds.length)

/-- Takes a year off the front: up to four digits, or a sign and any number of digits. -/
def takeYear (cs : List Char) : Option (Int × List Char) :=
  match cs with
  | '-' :: cs => (takeNumber cs.length cs).map fun r => (-(r.1 : Int), r.2)
  | '+' :: cs => (takeNumber cs.length cs).map fun r => ((r.1 : Int), r.2)
  | cs => (takeNumber 4 cs).map fun r => ((r.1 : Int), r.2)

/-- Takes a separator, and white space before it and before the two-digit number after it. -/
def takeField (separator : Char) (cs : List Char) : Option (Nat × List Char) :=
  match trimStart cs with
  | [] => none
  | c :: cs => if c = separator then takeNumber 2 (trimStart cs) else none

/-- Takes the fraction of a second, if there is one, as nanoseconds; digits after the ninth are
dropped. -/
def takeFraction (cs : List Char) : Option (Nat × List Char) :=
  match cs with
  | '.' :: cs =>
    let ds := cs.takeWhile Char.isDigit
    if ds = [] then none
    else some (digitsValue (ds.take 9 ++ List.replicate (9 - ds.length) '0'), cs.drop ds.length)
  | cs => some (0, cs)

/-- Takes a sign off the front: is it negative? -/
def takeSign (cs : List Char) : Option (Bool × List Char) :=
  match cs with
  | '+' :: cs => some (false, cs)
  | '-' :: cs => some (true, cs)
  | '\u2212' :: cs => some (true, cs)
  | _ => none

/-- Takes exactly two digits off the front. -/
def takeTwoDigits (cs : List Char) : Option (Nat × List Char) :=
  match cs with
  | a :: b :: cs => if a.isDigit ∧ b.isDigit then some (digitsValue [a, b], cs) else none
  | _ => none

/-- Is the text that begins here an offset written by name? -/
def isNamedUniversal (cs : List Char) : Bool :=
  match cs with
  | a :: b :: c :: _ => a.toLower = 'u' && b.toLower = 't' && c.toLower = 'c'
  | _ => false

/-- Takes the offset from universal time, in seconds. -/
def takeOffset (cs : List Char) : Option (Int × List Char) :=
  if isNamedUniversal cs then some (0, cs.drop 3)
  else
    match cs with
    | 'Z' :: cs => some (0, cs)
    | 'z' :: cs => some (0, cs)
    | cs => do
      let (negative, cs) ← takeSign cs
      let (hours, cs) ← takeTwoDigits cs
      let (minutes, cs) ← takeTwoDigits (cs.dropWhile fun c => c = ':' || Text.isSpace c)
      if minutes < 60 then
        let seconds : Int := hours * 3600 + minutes * 60
        some (if negative then -seconds else seconds, cs)
      else none

/-- The instant at a date, a time of day and an offset, if they exist.  The second 60 is a leap
second after the second 59. -/
def ofParts (date : Calendar.Date) (hour minute second nanos : Nat) (offset : Int) :
    Option Instant :=
  if date.isValid ∧ -262143 ≤ date.year ∧ date.year ≤ 262142 ∧ hour < 24 ∧ minute < 60 ∧
      second ≤ 60 ∧ -86400 < offset ∧ offset < 86400 then
    let leap := second = 60
    let wall : Int := (date.toDay - epochDay) * daySeconds + hour * 3600 + minute * 60 +
      (if leap then 59 else second)
    let seconds := wall - offset
    let nanos := if leap then nanos + 1000000000 else nanos
    if h : nanos < 2000000000 ∧ (1000000000 ≤ nanos → seconds % 60 = 59) then
      some ⟨seconds, nanos, h.1, h.2⟩
    else none
  else none

/-- Reads a time stamp. -/
def parseChars? (cs : List Char) : Option Instant := do
  let (year, cs) ← takeYear (trimStart cs)
  let (month, cs) ← takeField '-' cs
  let (day, cs) ← takeField '-' cs
  match cs with
  | [] => none
  | c :: cs =>
    if c = 'T' ∨ c = 't' ∨ c = ' ' then
      let (hour, cs) ← takeNumber 2 (trimStart cs)
      let (minute, cs) ← takeField ':' cs
      let (second, cs) ← takeField ':' cs
      let (nanos, cs) ← takeFraction cs
      let (offset, cs) ← takeOffset (trimStart cs)
      if trimStart cs = [] then
        ofParts ⟨year, month, day⟩ hour minute second nanos offset
      else none
    else none

/-- Reads a time stamp. -/
def parse? (s : String) : Option Instant := parseChars? s.toList

end DeviceFleet.Instant
