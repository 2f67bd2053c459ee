/-
# Totals of calls

How many calls were made, how many failed and how long they took together.  The totals are words
of 64 bits and wrap around.
-/

namespace DeviceFleet.Service

/-- The totals of some calls. -/
structure CallTotals where
  /-- How many calls were made. -/
  requests : UInt64
  /-- How many of them failed. -/
  errors : UInt64
  /-- How long they took together, in microseconds. -/
  micros : UInt64
deriving DecidableEq, Repr

namespace CallTotals

/-- The totals of no calls. -/
def zero : CallTotals := ⟨0, 0, 0⟩

/-- Adds a call that took `micros` microseconds. -/
def record (totals : CallTotals) (ok : Bool) (micros : UInt64) : CallTotals where
  requests := totals.requests + 1
  errors := if ok then totals.errors else totals.errors + 1
  micros := totals.micros + micros

/-- How many calls succeeded. -/
def successes (totals : CallTotals) : UInt64 := totals.requests - totals.errors

/-- How long a call took on average, rounded down; nothing when there was none. -/
def average (totals : CallTotals) : UInt64 := totals.micros / totals.requests

@[simp] theorem average_zero : zero.average = 0 := rfl

end CallTotals

end DeviceFleet.Service
