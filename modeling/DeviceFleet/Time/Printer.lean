/-
# Writing time stamps

The text of an instant in universal time: date and time joined by `T`, a fraction of three, six
or nine digits when it is needed, and `Z`.  A year outside 0000 to 9999 carries a sign and at
least four digits.
-/
import DeviceFleet.Text.Digits
import DeviceFleet.Time.Calendar
import DeviceFleet.Time.Instant

namespace DeviceFleet.Instant

open Text (padded)

/-- The day, counted from the first of January of the year 1, on which the year 1970 starts. -/
def epochDay : Int := 719162

/-- The seconds of a day. -/
def daySeconds : Int := 86400

/-- A year. -/
def yearChars (year : Int) : List Char :=
  if 0 ≤ year ∧ year ≤ 9999 then padded 4 year.toNat
  else if 0 ≤ year then '+' :: padded 4 year.toNat
  else '-' :: padded 4 (-year).toNat

/-- The fraction of a second, by the fewest of zero, three, six and nine digits that keep it. -/
def fractionChars (nanos : Nat) : List Char :=
  if nanos = 0 then []
  else if nanos % 1000000 = 0 then '.' :: padded 3 (nanos / 1000000)
  else if nanos % 1000 = 0 then '.' :: padded 6 (nanos / 1000)
  else '.' :: padded 9 nanos

/-- The text of an instant as characters. -/
def chars (i : Instant) : List Char :=
  let date := Calendar.Date.ofDay (i.seconds / daySeconds + epochDay)
  let time := (i.seconds % daySeconds).toNat
  let leap := if 1000000000 ≤ i.nanos then 1 else 0
  yearChars date.year ++ '-' :: padded 2 date.month ++ '-' :: padded 2 date.day ++
    'T' :: padded 2 (time / 3600) ++ ':' :: padded 2 (time / 60 % 60) ++
    ':' :: padded 2 (time % 60 + leap) ++ fractionChars (i.nanos % 1000000000) ++ ['Z']

/-- The text of an instant. -/
def render (i : Instant) : String := String.ofList i.chars

end DeviceFleet.Instant
