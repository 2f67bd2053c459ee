/-
# Observability

What a process has only once: the log, with its filter and its form, and the registry of metrics.
Either can be installed one time; a second time is refused.
-/
import DeviceFleet.App.Basic
import DeviceFleet.Log.Filter

namespace DeviceFleet

/-- Where events go. -/
structure LogSink where
  /-- Which events are written. -/
  filter : LogFilter
  /-- The form in which they are written. -/
  format : Settings.LogFormat
deriving DecidableEq, Repr

/-- What a process has only once. -/
structure Observability where
  /-- The log, if it is installed. -/
  sink : Option LogSink
  /-- Is the registry of metrics installed? -/
  recorder : Bool
  /-- The events that were written, the latest first. -/
  written : List LogEvent
deriving DecidableEq, Repr

namespace Observability

/-- Nothing is installed. -/
def initial : Observability := ⟨none, false, []⟩

/-- Reports an event: it is written if there is a log and its filter lets it through. -/
def report (o : Observability) (e : LogEvent) : Observability :=
  match o.sink with
  | some sink => if sink.filter.admits e then { o with written := e :: o.written } else o
  | none => o

/-- The filter that a text asks for, or the one that was set up when there is no such text or it
makes no sense. -/
def filterOf (setup : Settings.LogSetup) (override : Option String) : LogFilter :=
  (override.bind LogFilter.parse?).getD (.fromLevel setup.level)

/-- Installs the registry of metrics. -/
def installMetrics (o : Observability) : Except AppError Unit × Observability :=
  if o.recorder then (.error .metricsInstalled, o) else (.ok (), { o with recorder := true })

/-- The report that everything is installed. -/
def installed (s : Settings) : LogEvent where
  level := .info
  target := App.target
  message := "observability initialized"
  fields :=
    [("log_level", .plain s.logLevel), ("log_json", .flag s.logJson),
      ("metrics_enabled", .flag s.metricsEnabled)]

/-- Installs the log and, if the settings ask for it, the registry of metrics.  The answer is
whether the registry was installed.  A log that is installed stays when the registry is refused. -/
def install (o : Observability) (s : Settings) (override : Option String) :
    Except AppError Bool × Observability :=
  match s.validate with
  | .error e => (.error (.settings e), o)
  | .ok _ =>
    if o.sink.isSome then (.error .logInstalled, o)
    else
      let logging := { o with sink := some ⟨filterOf s.logSetup override, s.logSetup.format⟩ }
      if s.metricsEnabled then
        match logging.installMetrics with
        | (.error e, o) => (.error e, o)
        | (.ok (), o) => (.ok true, o.report (installed s))
      else (.ok false, logging.report (installed s))

end Observability

end DeviceFleet
