/-
# Failures of the service

Why an operation of the service fails, and how failures of the store, of the caches and of the
collaborators become failures of the service.
-/
import DeviceFleet.Cache.Basic
import DeviceFleet.Client

namespace DeviceFleet

/-- Why an operation fails. -/
inductive ServiceError where
  /-- The caller is not known. -/
  | authentication (message : String)
  /-- The caller may not do it, or a thing and a profile belong to different groups. -/
  | authorization (message : String)
  /-- There is no such record. -/
  | notFound (message : String)
  /-- The store took the records and gave none back. -/
  | createEntity
  /-- There is such a record already. -/
  | conflict (message : String)
  /-- The profile configures a thing. -/
  | profileAssigned (profileId : String)
  /-- The request makes no sense. -/
  | invalidInput (message : String)
  /-- A cache failed. -/
  | cache (error : CacheError)
  /-- The store failed. -/
  | storage (message : String)
  /-- A collaborator took longer than the given number of milliseconds. -/
  | timeout (ms : Nat)
  /-- Something else failed. -/
  | internal (message : String)
deriving DecidableEq, Repr

namespace ServiceError

/-- The failure in words. -/
def message : ServiceError → String
  | .authentication message => s!"authentication failed: {message}"
  | .authorization message => s!"unauthorized access: {message}"
  | .notFound message => s!"not found: {message}"
  | .createEntity => "failed to create entity"
  | .conflict message => s!"conflict: {message}"
  | .profileAssigned profileId => s!"profile {profileId} is assigned to one or more things"
  | .invalidInput message => s!"invalid input: {message}"
  | .cache error => s!"cache error: {error.message}"
  | .storage message => s!"storage error: {message}"
  | .timeout ms => s!"timeout after {ms}ms"
  | .internal message => s!"internal error: {message}"

/-- A refusal of the store as a failure of the service. -/
def ofStore (e : StoreError) : ServiceError :=
  match e with
  | .notFound .. | .keyNotFound => .notFound e.message
  | .alreadyExists .. | .duplicateKey => .conflict e.message
  | .profileAssigned profileId => .profileAssigned profileId
  | .invalidInput message => .invalidInput message
  | .internal message => .storage message

end ServiceError

/-- What a failure is to those outside: a class that a transport can pass on, and a text that
gives nothing away. -/
inductive FailureClass where
  /-- The caller is not known. -/
  | unauthenticated (text : String)
  /-- The caller may not do it. -/
  | permissionDenied (text : String)
  /-- There is no such record. -/
  | notFound (text : String)
  /-- There is such a record already, or it is in use. -/
  | conflict (text : String)
  /-- The request makes no sense. -/
  | invalidInput (text : String)
  /-- Someone took too long. -/
  | timeout (text : String)
  /-- Anything else. -/
  | internal (text : String)
deriving DecidableEq, Repr

namespace FailureClass

/-- The status of a class on the web. -/
def httpStatus : FailureClass → Nat
  | .unauthenticated _ => 401
  | .permissionDenied _ => 403
  | .notFound _ => 404
  | .conflict _ => 409
  | .invalidInput _ => 400
  | .timeout _ => 504
  | .internal _ => 500

/-- The text for those outside. -/
def text : FailureClass → String
  | .unauthenticated text | .permissionDenied text | .notFound text | .conflict text
  | .invalidInput text | .timeout text | .internal text => text

end FailureClass

/-- What a failure is to those outside.  What the parts of the service say among themselves is
replaced by a general text. -/
def ServiceError.classify (e : ServiceError) : FailureClass :=
  match e with
  | .authentication _ => .unauthenticated "failed to perform authentication"
  | .authorization _ => .permissionDenied "failed to perform authorization"
  | .notFound message => .notFound message
  | .conflict message => .conflict message
  | .profileAssigned _ => .conflict e.message
  | .invalidInput message => .invalidInput message
  | .timeout _ => .timeout "upstream call timed out"
  | .createEntity | .cache _ | .storage _ | .internal _ => .internal "internal error"

end DeviceFleet
