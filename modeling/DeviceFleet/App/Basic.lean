/-
# Assembling the service

How a process puts the service together from its settings: the caches, the time that a
collaborator may take, and the layers around the service.
-/
import DeviceFleet.Service.Layer
import DeviceFleet.Settings.Basic

namespace DeviceFleet

/-- Why a process cannot start. -/
inductive AppError where
  /-- A collaborator is not there. -/
  | missingCollaborator (name : String)
  /-- The settings make no sense. -/
  | settings (error : SettingsError)
  /-- There is a log already. -/
  | logInstalled
  /-- There is a registry of metrics already. -/
  | metricsInstalled
deriving DecidableEq, Repr

namespace AppError

/-- The error in words. -/
def message : AppError → String
  | .missingCollaborator name => s!"missing collaborator: {name}"
  | .settings error => error.message
  | .logInstalled => "a global tracing subscriber is already installed"
  | .metricsInstalled => "failed to install Prometheus recorder: recorder already installed"

end AppError

/-- The service as it was put together. -/
structure App where
  /-- The caches. -/
  caches : Caches
  /-- How long a collaborator may take, in milliseconds. -/
  rpcTimeout : Nat
  /-- The layers around the service, the innermost first. -/
  layers : List Service.Layer
deriving DecidableEq

namespace App

/-- The part of the program that reports here. -/
def target : String := "fleetgate_server::app"

/-- The report that the service was put together. -/
def assembled (s : Settings) : LogEvent where
  level := .info
  target := target
  message := "fleet service assembled"
  fields :=
    [("cache_enabled", .flag s.cacheEnabled), ("cache_capacity", .number s.cacheCapacity),
      ("rpc_timeout_ms", .number s.rpcTimeout), ("metrics_enabled", .flag s.metricsEnabled)]

/-- The service that settings ask for: calls are counted if the settings say so, and always
reported. -/
def ofSettings (s : Settings) : App where
  caches := .inMemory s.cacheSetup.enabled
  rpcTimeout := s.accessSetup.rpcTimeout
  layers := (if s.metricsEnabled then [.fresh] else []) ++ [.logging]

/-- Puts the service together.  The settings are looked at first, then the collaborators that have
to be there: the one that grants permissions and the directory of users. -/
def build (s : Settings) (hasAuthority hasDirectory : Bool) : Except AppError App := do
  match s.validate with
  | .error e => throw (.settings e)
  | .ok _ =>
    if !hasAuthority then throw (.missingCollaborator "auth")
    if !hasDirectory then throw (.missingCollaborator "users")
    return ofSettings s

end App

end DeviceFleet
