/-
# The library for time stamps

A program leaves it to a library to write instants as texts and to read them back.  The one that is
written out here, for Internet time stamps, is the default.
-/
import DeviceFleet.Time.Printer
import DeviceFleet.Time.Reader

namespace DeviceFleet.Instant

/-- A library that writes time stamps and reads them. -/
class Format where
  /-- The time stamp of an instant. -/
  render : Instant → String
  /-- The instant of a time stamp. -/
  parse? : String → Option Instant

/-- Internet time stamps. -/
instance internet : Format := ⟨render, parse?⟩

end DeviceFleet.Instant
