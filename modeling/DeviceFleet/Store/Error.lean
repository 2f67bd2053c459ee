/-
# Refusals of the store

Why the store refuses to do what it is asked.
-/
import DeviceFleet.Entity

namespace DeviceFleet

/-- Why the store refuses. -/
inductive StoreError where
  /-- There is no record with the identifier. -/
  | notFound (entity : EntityKind) (id : String)
  /-- No thing has the key, which is a secret and is not repeated. -/
  | keyNotFound
  /-- There is a record with the identifier already. -/
  | alreadyExists (entity : EntityKind) (id : String)
  /-- Another thing has the key. -/
  | duplicateKey
  /-- The profile configures at least one thing. -/
  | profileAssigned (profileId : String)
  /-- The request makes no sense. -/
  | invalidInput (message : String)
  /-- The store itself fails. -/
  | internal (message : String)
deriving DecidableEq, Repr

namespace StoreError

/-- The refusal in words. -/
def message : StoreError → String
  | .notFound entity id => s!"{entity} not found: {id}"
  | .keyNotFound => "thing key not found"
  | .alreadyExists entity id => s!"{entity} already exists: {id}"
  | .duplicateKey => "thing key already in use"
  | .profileAssigned profileId => s!"profile {profileId} is currently assigned to thing(s)"
  | .invalidInput message => s!"invalid input: {message}"
  | .internal message => s!"internal storage error: {message}"

end StoreError

/-- Reads the name of a role. -/
def Role.parse (s : String) : Except StoreError Role :=
  match ofName? s with
  | some r => .ok r
  | none => .error (.invalidInput s!"unknown role: {s}")

end DeviceFleet
