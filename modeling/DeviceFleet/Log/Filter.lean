/-
# Log filters

A filter says from which level on events are reported, for all parts of the program or for those
whose names start in a certain way.  Of the directives that fit an event, the one with the longest
name decides; what no directive fits is not reported.
-/
import DeviceFleet.Log.Event
import DeviceFleet.Text.LowerCase
import DeviceFleet.Text.Split

namespace DeviceFleet

/-- A directive of a filter. -/
structure LogDirective where
  /-- What the names of the parts start with; all parts are meant when it is absent. -/
  target : Option String
  /-- The level from which on events are reported; none is reported when it is absent. -/
  level : Option LogLevel
deriving DecidableEq, Repr

namespace LogDirective

/-- Does the directive fit a part of the program? -/
def fits (d : LogDirective) (target : String) : Bool :=
  match d.target with
  | none => true
  | some start => start.toList.isPrefixOf target.toList

/-- How much a directive counts among those that fit. -/
def weight (d : LogDirective) : Nat :=
  match d.target with
  | none => 0
  | some start => start.length + 1

/-- Does the directive let events of a level through? -/
def admits (d : LogDirective) (level : LogLevel) : Bool :=
  match d.level with
  | none => false
  | some least => least.rank ≤ level.rank

/-- The level that a directive names, by its name or its number; `off` lets nothing through. -/
def level? (s : String) : Option (Option LogLevel) :=
  let s := Text.lower s
  if s = "off" ∨ s = "0" then some none
  else if s = "1" then some (some .error)
  else if s = "2" then some (some .warn)
  else if s = "3" then some (some .info)
  else if s = "4" then some (some .debug)
  else if s = "5" then some (some .trace)
  else (LogLevel.ofName? s).map some

/-- Can the character be part of the name of a part of the program? -/
def inTarget (c : Char) : Bool := c.isAlphanum || c = '_' || c = ':' || c = '-'

/-- The directive for the parts whose names start in a certain way. -/
def forTarget? (target : List Char) (level : Option LogLevel) : Option LogDirective :=
  if target ≠ [] ∧ target.all inTarget then some ⟨some (String.ofList target), level⟩ else none

/-- Reads a directive: a level, a name, or both.  A name without a level lets everything
through. -/
def parse? (cs : List Char) : Option LogDirective :=
  match level? (String.ofList cs), Text.pieces (· = '=') cs with
  | some level, _ => some ⟨none, level⟩
  | none, [target] => forTarget? target (some .trace)
  | none, [target, []] => forTarget? target (some .trace)
  | none, [target, level] => (level? (String.ofList level)).bind (forTarget? target)
  | none, _ => none

end LogDirective

/-- A filter is a list of directives. -/
abbrev LogFilter := List LogDirective

namespace LogFilter

/-- The filter that lets everything from a level on through. -/
def fromLevel (level : LogLevel) : LogFilter := [⟨none, some level⟩]

/-- The directive that decides for a part of the program; of those that count alike the last. -/
def decisive? (filter : LogFilter) (target : String) : Option LogDirective :=
  (filter.filter fun d => d.fits target).foldl
    (fun best d =>
      match best with
      | some b => if b.weight ≤ d.weight then some d else some b
      | none => some d)
    none

/-- Does the filter let an event through? -/
def admits (filter : LogFilter) (e : LogEvent) : Bool :=
  match filter.decisive? e.target with
  | some d => d.admits e.level
  | none => false

/-- Reads the directives between commas.  Without any, failures alone are reported. -/
def parse? (text : String) : Option LogFilter :=
  let parts := (Text.pieces (· = ',') text.toList).filter fun p => !p.isEmpty
  if parts.isEmpty then some (fromLevel .error) else parts.mapM LogDirective.parse?

end LogFilter

end DeviceFleet
