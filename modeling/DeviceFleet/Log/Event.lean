/-
# Log events

What is reported while operations run: a level, the part of the program that reports, a message
and named values.  An event has two written forms, a line of text and a JSON object.
-/
import DeviceFleet.Json.Basic
import DeviceFleet.Text.Blank
import DeviceFleet.Text.Digits
import DeviceFleet.Text.Quoted
import DeviceFleet.Text.Split

namespace DeviceFleet

/-- How important an event is, or how much is to be reported. -/
inductive LogLevel where
  /-- Every detail. -/
  | trace
  /-- What helps to find mistakes. -/
  | debug
  /-- The usual course. -/
  | info
  /-- What is out of the ordinary. -/
  | warn
  /-- What fails. -/
  | error
deriving DecidableEq, Repr

namespace LogLevel

/-- The place of a level in the order, from the most detailed on. -/
def rank : LogLevel → Nat
  | .trace => 0
  | .debug => 1
  | .info => 2
  | .warn => 3
  | .error => 4

/-- The name of a level in an event. -/
def label : LogLevel → String
  | .trace => "TRACE"
  | .debug => "DEBUG"
  | .info => "INFO"
  | .warn => "WARN"
  | .error => "ERROR"

/-- The name of a level in settings. -/
def name : LogLevel → String
  | .trace => "trace"
  | .debug => "debug"
  | .info => "info"
  | .warn => "warn"
  | .error => "error"

/-- All levels, from the most detailed on. -/
def all : List LogLevel := [.trace, .debug, .info, .warn, .error]

/-- The level with a name. -/
def ofName? (s : String) : Option LogLevel := all.find? fun l => l.name == s

@[simp] theorem ofName?_name (l : LogLevel) : ofName? l.name = some l := by cases l <;> rfl

/-- The level with a number, the most detailed one having the greatest. -/
def ofNumber? : Nat → Option LogLevel
  | 1 => some .error
  | 2 => some .warn
  | 3 => some .info
  | 4 => some .debug
  | 5 => some .trace
  | _ => none

/-- The level that a text stands for: its number, or its name in capital or small letters. -/
def parse? (s : String) : Option LogLevel :=
  ((Text.number? s).bind ofNumber?).or (ofName? (String.ofList (s.toList.map Char.toLower)))

end LogLevel

/-- A value in an event. -/
inductive LogValue where
  /-- A text, which a line quotes. -/
  | text (s : String)
  /-- A text that a line shows as it is. -/
  | plain (s : String)
  /-- A number. -/
  | number (n : Nat)
  /-- A truth value. -/
  | flag (b : Bool)
deriving DecidableEq, Repr

namespace LogValue

/-- A value in a line of text. -/
def toText : LogValue → String
  | .text s => Text.quoted s
  | .plain s => s
  | .number n => toString n
  | .flag b => toString b

/-- A value in a JSON object. -/
def toJson : LogValue → Json
  | .text s => .string s
  | .plain s => .string s
  | .number n => .ofNat n
  | .flag b => .bool b

end LogValue

/-- Something that is reported. -/
structure LogEvent where
  /-- How important it is. -/
  level : LogLevel
  /-- The part of the program that reports. -/
  target : String
  /-- What is reported. -/
  message : String
  /-- Named values. -/
  fields : List (String × LogValue)
deriving DecidableEq, Repr

namespace LogEvent

/-- A run of white space becomes one blank, and none is left at the ends. -/
def squeeze (cs : List Char) : List Char :=
  List.intercalate [' '] ((Text.pieces Text.isSpace cs).filter fun w => !w.isEmpty)

/-- The event as a line of text. -/
def toText (e : LogEvent) : String :=
  let values := e.fields.map fun f => s!" {f.1}=" ++ f.2.toText
  let line := s!"{e.level.label} {e.target}: {e.message}" ++ String.join values
  String.ofList (squeeze line.toList)

/-- The event as a JSON object; the target is kept if `keepTarget` says so. -/
def toJson (keepTarget : String → Bool) (e : LogEvent) : Json :=
  Json.ofFields <|
    [("level", some (.string e.level.label)),
      ("target", if keepTarget e.target then some (.string e.target) else none),
      ("message", some (.string e.message))] ++
    e.fields.map fun f => (f.1, some f.2.toJson)

end LogEvent

end DeviceFleet
