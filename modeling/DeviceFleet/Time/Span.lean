/-
# Time spans

The text of a time span of whole milliseconds.  From a second on it is given in seconds, with as
many digits of a fraction as it needs; below that it is given in milliseconds.
-/

namespace DeviceFleet

/-- The text of a span of `ms` milliseconds. -/
def spanText (ms : Nat) : String :=
  if ms = 0 then "0ns"
  else if ms < 1000 then toString ms ++ "ms"
  else
    let rest := ms % 1000
    let fraction :=
      if rest = 0 then []
      else if rest % 100 = 0 then [rest / 100]
      else if rest % 10 = 0 then [rest / 100, rest / 10 % 10]
      else [rest / 100, rest / 10 % 10, rest % 10]
    let point := if rest = 0 then "" else "."
    toString (ms / 1000) ++ point ++ String.ofList (fraction.map Nat.digitChar) ++ "s"

end DeviceFleet
