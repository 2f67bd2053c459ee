/-
# Loading settings

The settings of a process come from a file and from the environment.  Each value is taken from
the environment if it is set there, else from the file, else it has its standard value.  A value
that another one lies over is never looked at.
-/
import DeviceFleet.Settings.Basic
import DeviceFleet.Settings.Layer

namespace DeviceFleet.Settings

/-- How the variables of the environment that hold settings are named. -/
def variableStyle : VariableStyle := ⟨"FLEETGATE", "_", "__"⟩

/-- Refuses what is missing as something that cannot be loaded. -/
def orLoadError {α : Type} : Option α → Except SettingsError α
  | some a => .ok a
  | none => .error .load

section Library

variable (lib : Library)

/-- A section of a tree, if it is there; what is no table is refused. -/
def section? (tree : lib.Value) (name : String) : Option (Option lib.Value) :=
  match lib.field? tree name with
  | none => some none
  | some sec => if lib.isTable sec then some (some sec) else none

/-- A value of a section, as what it is meant to be, or its standard value if it is not there. -/
def entry {α : Type} (sec : Option lib.Value) (name : String) (standard : α)
    (read : lib.Value → Option α) : Option α :=
  match sec.bind fun sec => lib.field? sec name with
  | none => some standard
  | some value => read value

/-- The settings that a tree says. -/
def ofTree? (tree : lib.Value) : Option Settings := do
  let cache ← section? lib tree "cache"
  let access ← section? lib tree "access"
  let logging ← section? lib tree "logging"
  let metrics ← section? lib tree "metrics"
  return {
    cacheEnabled := ← entry lib cache "enabled" standard.cacheEnabled lib.flag?
    cacheCapacity := ← entry lib cache "max_capacity" standard.cacheCapacity lib.number?
    rpcTimeout := ← entry lib access "rpc_timeout_ms" standard.rpcTimeout lib.number?
    logLevel := ← entry lib logging "level" standard.logLevel lib.text?
    logJson := ← entry lib logging "json" standard.logJson lib.flag?
    metricsEnabled := ← entry lib metrics "enabled" standard.metricsEnabled lib.flag? }

/-- The entries of the standard settings. -/
def standardEntries : List (String × lib.Value) :=
  standard.sections.map fun f => (f.1, lib.ofJson f.2)

/-- The entries of an environment. -/
def variableEntries (env : List (String × String)) : List (String × lib.Value) :=
  env.filterMap fun v => (lib.key? variableStyle v.1).map fun key => (key, lib.ofText v.2)

/-- The tree of the entries of all sources, one after the other. -/
def build (sources : List (List (String × lib.Value))) : lib.Value :=
  sources.flatten.foldl (fun tree e => lib.put e.1 e.2 tree) lib.empty

/-- The settings from sources over the standard values, the sources that count less first. -/
def ofSources (sources : List (List (String × lib.Value))) : Except SettingsError Settings := do
  let settings ← orLoadError (ofTree? lib (build lib (standardEntries lib :: sources)))
  settings.validate

end Library

/-- The settings from the environment alone. -/
def ofEnvironment (env : List (String × String)) (lib : optParam Library .reference) :
    Except SettingsError Settings :=
  ofSources lib [variableEntries lib env]

/-- The settings from a file, which may be missing, and from the environment. -/
def load (path : String) (file : Option String) (env : List (String × String))
    (lib : optParam Library .reference) : Except SettingsError Settings :=
  match file with
  | none => .error (.fileNotFound path)
  | some text => do
    let entries ← orLoadError (lib.entries? text)
    ofSources lib [entries, variableEntries lib env]

/-- The settings that JSON says, without taking any value as something else. -/
def ofPlainJson (j : Json) : Except SettingsError Settings := do
  let settings ← orLoadError (ofJson? j)
  settings.validate

end DeviceFleet.Settings
