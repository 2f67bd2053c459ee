/-
# Settings

What a process is told at its start, with the values that hold when nothing is said, the check
that the values make sense, and their form in JSON.
-/
import DeviceFleet.Json.Record
import DeviceFleet.Log.Event
import DeviceFleet.Text.LowerCase

namespace DeviceFleet

/-- What a process is told at its start. -/
structure Settings where
  /-- Do the caches remember anything? -/
  cacheEnabled : Bool := true
  /-- How many entries a cache has room for. -/
  cacheCapacity : Nat := 100000
  /-- How long a collaborator may take, in milliseconds. -/
  rpcTimeout : Nat := 5000
  /-- The name of the level from which on events are reported. -/
  logLevel : String := "info"
  /-- Are events written as JSON? -/
  logJson : Bool := false
  /-- Are calls counted? -/
  metricsEnabled : Bool := true
deriving DecidableEq, Repr

/-- Why there are no settings. -/
inductive SettingsError where
  /-- A source cannot be read, or a value is not of its kind. -/
  | load
  /-- There is no such file. -/
  | fileNotFound (path : String)
  /-- A value makes no sense. -/
  | invalid (message : String)
deriving DecidableEq, Repr

namespace SettingsError

/-- The error in words. -/
def message : SettingsError → String
  | .load => "failed to load configuration"
  | .fileNotFound path => s!"configuration file not found: {path}"
  | .invalid message => s!"invalid configuration: {message}"

end SettingsError

namespace Settings

/-- The settings that hold when nothing is said. -/
def standard : Settings := {}

instance : Inhabited Settings := ⟨standard⟩

/-- The level that the settings name, in whatever case, if there is one with that name. -/
def level? (s : Settings) : Option LogLevel := LogLevel.ofName? (Text.lower s.logLevel)

/-- The names of all levels as a list of quoted texts. -/
def levelNames : String :=
  "[" ++ ", ".intercalate (LogLevel.all.map fun l => Text.quoted l.name) ++ "]"

/-- Refuses settings that make no sense. -/
def validate (s : Settings) : Except SettingsError Settings :=
  if s.cacheCapacity = 0 then .error (.invalid "cache.max_capacity must be greater than 0")
  else if s.rpcTimeout = 0 then .error (.invalid "access.rpc_timeout_ms must be greater than 0")
  else if s.level? = none then
    .error (.invalid s!"logging.level must be one of: {levelNames}, got: {s.logLevel}")
  else .ok s

/-! ## What the parts of a process are told -/

/-- How the caches are set up. -/
structure CacheSetup where
  /-- Do the caches remember anything? -/
  enabled : Bool
  /-- How many entries a cache has room for. -/
  capacity : Nat
deriving DecidableEq, Repr

/-- How collaborators are asked. -/
structure AccessSetup where
  /-- How long a collaborator may take, in milliseconds. -/
  rpcTimeout : Nat
deriving DecidableEq, Repr

/-- The form in which events are written. -/
inductive LogFormat where
  /-- A line of text. -/
  | text
  /-- A JSON object. -/
  | json
deriving DecidableEq, Repr

/-- How events are reported. -/
structure LogSetup where
  /-- The form in which events are written. -/
  format : LogFormat
  /-- The level from which on events are reported. -/
  level : LogLevel
deriving DecidableEq, Repr

/-- How the caches are to be set up. -/
def cacheSetup (s : Settings) : CacheSetup := ⟨s.cacheEnabled, s.cacheCapacity⟩

/-- How collaborators are to be asked. -/
def accessSetup (s : Settings) : AccessSetup := ⟨s.rpcTimeout⟩

/-- How events are to be reported.  A level that cannot be made out counts as the usual course. -/
def logSetup (s : Settings) : LogSetup where
  format := if s.logJson then .json else .text
  level := (LogLevel.parse? (Text.lower s.logLevel)).getD .info

/-! ## JSON -/

/-- The settings by section, each section as JSON. -/
def sections (s : Settings) : List (String × Json) :=
  [("cache",
      .object [("enabled", .bool s.cacheEnabled), ("max_capacity", .ofNat s.cacheCapacity)]),
    ("access", .object [("rpc_timeout_ms", .ofNat s.rpcTimeout)]),
    ("logging", .object [("level", .string s.logLevel), ("json", .bool s.logJson)]),
    ("metrics", .object [("enabled", .bool s.metricsEnabled)])]

/-- The settings as JSON. -/
def toJson (s : Settings) : Json := .object s.sections

open Json (record? optional)

/-- Reads a section with two values. -/
def pair? {α β : Type} (names : String × String) (first : α) (second : β)
    (readFirst : Json → Option α) (readSecond : Json → Option β) (j : Json) : Option (α × β) := do
  match ← record? [names.1, names.2] j with
  | [a, b] => return (← optional first readFirst a, ← optional second readSecond b)
  | _ => none

/-- Reads a section with one value. -/
def single? {α : Type} (name : String) (standard : α) (read : Json → Option α) (j : Json) :
    Option α := do
  match ← record? [name] j with
  | [a] => optional standard read a
  | _ => none

/-- Reads settings from JSON; whatever is left out has its standard value. -/
def ofJson? (j : Json) : Option Settings := do
  match ← record? ["cache", "access", "logging", "metrics"] j with
  | [cache, access, logging, metrics] =>
    let (cacheEnabled, cacheCapacity) ←
      optional (standard.cacheEnabled, standard.cacheCapacity)
        (pair? ("enabled", "max_capacity") standard.cacheEnabled standard.cacheCapacity
          Json.bool? Json.word?) cache
    let rpcTimeout ←
      optional standard.rpcTimeout (single? "rpc_timeout_ms" standard.rpcTimeout Json.word?) access
    let (logLevel, logJson) ←
      optional (standard.logLevel, standard.logJson)
        (pair? ("level", "json") standard.logLevel standard.logJson Json.string? Json.bool?) logging
    let metricsEnabled ←
      optional standard.metricsEnabled
        (single? "enabled" standard.metricsEnabled Json.bool?) metrics
    return { cacheEnabled, cacheCapacity, rpcTimeout, logLevel, logJson, metricsEnabled }
  | _ => none

end Settings

end DeviceFleet
