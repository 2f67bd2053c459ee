/-
# Collaborators

The service relies on others: on one that tells who a caller is and what they may do, on a
directory of users, on a source of identifiers and on a clock.  This module has what is said
between the service and them.
-/
import DeviceFleet.Role
import DeviceFleet.Store.Basic

namespace DeviceFleet

/-- What a request for permission is about. -/
inductive Subject where
  /-- The whole platform; there is no object. -/
  | root
  /-- An organization. -/
  | org
  /-- A group. -/
  | group
deriving DecidableEq, Repr

namespace Subject

/-- The name of a subject. -/
def name : Subject → String
  | .root => "root"
  | .org => "org"
  | .group => "group"

end Subject

/-- The question whether the caller with a token may act on an object. -/
structure AuthorizeRequest where
  /-- The secret that stands for the caller. -/
  token : String
  /-- What is to be acted on. -/
  object : String
  /-- What kind of object it is. -/
  subject : Subject
  /-- The role that is needed; none is named for the whole platform. -/
  action : Option Role
deriving DecidableEq, Repr

namespace AuthorizeRequest

/-- Does the caller administer the platform? -/
def root (token : String) : AuthorizeRequest := ⟨token, "", .root, none⟩

/-- Does the caller have a role on an object? -/
def forObject (token object : String) (subject : Subject) (action : Role) : AuthorizeRequest :=
  ⟨token, object, subject, some action⟩

end AuthorizeRequest

/-- Who a caller is. -/
structure Identity where
  /-- Identifies the caller. -/
  id : String
  /-- The address of the caller. -/
  email : String
deriving DecidableEq, Repr

/-- A user in the directory. -/
structure User where
  /-- Identifies the user. -/
  id : String
  /-- The address of the user. -/
  email : String
deriving DecidableEq, Repr

/-- Why a collaborator refuses. -/
inductive ClientError where
  /-- The token stands for nobody. -/
  | unauthenticated (message : String)
  /-- The caller lacks a role. -/
  | permissionDenied (message : String)
  /-- The collaborator does not work. -/
  | unavailable (message : String)
deriving DecidableEq, Repr

namespace ClientError

/-- The refusal in words. -/
def message : ClientError → String
  | .unauthenticated message => s!"unauthenticated: {message}"
  | .permissionDenied message => s!"permission denied: {message}"
  | .unavailable message => s!"service unavailable: {message}"

end ClientError

/-- The reply of a collaborator and the time that it takes, in milliseconds. -/
structure Reply (α : Type) where
  /-- How long the reply takes. -/
  delay : Nat
  /-- What is replied. -/
  answer : Except ClientError α

/-- The collaborators of the service.  What they reply may depend on how many calls came before,
and, for those that look into it, on the store. -/
structure Collaborators where
  /-- May the caller act on the object? -/
  authorize : Nat → Store → AuthorizeRequest → Reply Unit
  /-- Who is the caller with the token? -/
  identify : Nat → Store → String → Reply Identity
  /-- The users with some identifiers; those that are unknown are left out. -/
  findUsers : Nat → Store → List String → Reply (List User)
  /-- A new identifier. -/
  newId : Nat → Except ClientError String
  /-- The time. -/
  clock : Nat → Instant

end DeviceFleet
