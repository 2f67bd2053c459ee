/-
# The JSON library

A program leaves it to a library to write JSON values as texts and to read them back.  The one that
is written out here is the default; what is shown of records holds with every library that keeps
its promises.
-/
import DeviceFleet.Json.Printer
import DeviceFleet.Json.Reader

namespace DeviceFleet.Json

/-- A library that writes JSON texts and reads them. -/
class Format where
  /-- The text of a value. -/
  render : Json → String
  /-- The value of a well-formed text.  Parts of the text that stand for nothing that a program can
  hold are unusable parts of the value. -/
  parse? : String → Option Json

/-- Texts without white space, of which at most 127 containers are read inside each other. -/
instance compact : Format := ⟨render, parse?⟩

end DeviceFleet.Json
