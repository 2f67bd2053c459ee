/-
# Metrics

What is counted: hits and misses of the caches, and calls of the service with their outcome and
duration.  The registry is the list of everything counted; the value of a series is how often it
occurs there.
-/
import DeviceFleet.Cache.Basic

namespace DeviceFleet

/-- Something that is counted. -/
inductive Series where
  /-- A look-up that a cache answered. -/
  | cacheHit (kind : CacheKind)
  /-- A look-up that a cache did not answer. -/
  | cacheMiss (kind : CacheKind)
  /-- A call of an operation, by its name and by whether it succeeded. -/
  | request (method : String) (ok : Bool)
  /-- The duration of a call. -/
  | duration (method : String) (ok : Bool)
deriving DecidableEq, Repr

namespace Series

/-- The outcome of a call as a label. -/
def statusLabel (ok : Bool) : String := if ok then "ok" else "error"

/-- The name of the family that a series belongs to. -/
def family : Series → String
  | .cacheHit _ => "fleetgate_cache_hits_total"
  | .cacheMiss _ => "fleetgate_cache_misses_total"
  | .request .. => "fleetgate_service_requests_total"
  | .duration .. => "fleetgate_service_request_duration_seconds"

/-- What a family is about. -/
def description : Series → String
  | .cacheHit _ => "Total number of lookaside cache hits"
  | .cacheMiss _ => "Total number of lookaside cache misses"
  | .request .. => "Total number of service calls"
  | .duration .. => "Service call duration in seconds"

/-- How a family is measured. -/
def measure : Series → String
  | .duration .. => "summary"
  | _ => "counter"

/-- The labels of a series. -/
def labels : Series → List (String × String)
  | .cacheHit kind | .cacheMiss kind => [("cache", kind.name)]
  | .request method ok | .duration method ok => [("method", method), ("status", statusLabel ok)]

/-- The name under which the count of a series is exposed. -/
def exposedName (s : Series) : String :=
  let counted := match s with
    | .duration .. => s.family ++ "_count"
    | _ => s.family
  let labels := s.labels.map fun l => l.1 ++ "=\"" ++ l.2 ++ "\""
  counted ++ "\x7b" ++ ",".intercalate labels ++ "\x7d"

end Series

/-- What a look-up in a cache counts, by what it found. -/
def Lookaside.counted {α β : Type} (kind : CacheKind) (cache : Lookaside α)
    (found : Except CacheError (Option β)) : List Series :=
  if cache.counts then
    match found with
    | .ok (some _) => [.cacheHit kind]
    | _ => [.cacheMiss kind]
  else []

/-- Everything that was counted, the latest first. -/
abbrev Registry := List Series

namespace Registry

/-- How often something was counted. -/
def value (r : Registry) (s : Series) : Nat := r.count s

/-- The series that were counted at least once. -/
def series (r : Registry) : List Series := r.eraseDups

/-- The names and the values of the series that were counted. -/
def exposed (r : Registry) : List (String × Nat) :=
  r.series.map fun s => (s.exposedName, r.value s)

/-- The lines that explain the families of the series that were counted, in ascending order. -/
def help (r : Registry) : List String :=
  let lines := r.series.flatMap fun s =>
    [s!"# HELP {s.family} {s.description}", s!"# TYPE {s.family} {s.measure}"]
  lines.eraseDups.mergeSort fun a b => !(b < a)

end Registry

end DeviceFleet
