/-
# Instants

A point in time at a resolution of a nanosecond.
-/

namespace DeviceFleet

/-- A point in time.  Within a leap second, which ends a minute, the nanoseconds count on. -/
structure Instant where
  /-- The whole seconds since the start of the year 1970. -/
  seconds : Int
  /-- The nanoseconds since the start of the second. -/
  nanos : Nat
  /-- At most two seconds are counted as one. -/
  nanos_lt : nanos < 2000000000
  /-- Only the last second of a minute is counted as two. -/
  leap_last : 1000000000 ≤ nanos → seconds % 60 = 59
deriving DecidableEq

namespace Instant

/-- An instant at a full second. -/
def ofSeconds (seconds : Int) : Instant := ⟨seconds, 0, by omega, by omega⟩

instance : Inhabited Instant := ⟨ofSeconds 0⟩

instance : Repr Instant := ⟨fun i _ => repr (i.seconds, i.nanos)⟩

end Instant

end DeviceFleet
