/-
# Authority

A simple authority that tells who a caller is and what they may do.  It knows who administers the
platform and the roles in organizations; the roles in groups it takes from the store, so that a
membership counts as soon as it is stored.
-/
import DeviceFleet.Client
import DeviceFleet.Store.Memberships
import Std.Data.ExtTreeSet

namespace DeviceFleet

/-- A role in an organization. -/
structure OrgRole where
  /-- The organization. -/
  orgId : String
  /-- Who holds the role. -/
  memberId : String
  /-- The role. -/
  role : Role
deriving DecidableEq, Repr

/-- What the authority knows. -/
structure Authority where
  /-- Who the caller with a token is. -/
  identities : Std.ExtTreeMap String Identity
  /-- The tokens of those who administer the platform. -/
  admins : Std.ExtTreeSet String
  /-- The roles in organizations, the latest first. -/
  orgRoles : List OrgRole
  /-- Is it out of order? -/
  down : Bool
  /-- How long it takes to reply, in milliseconds. -/
  delay : Nat

namespace Authority

/-- An authority that knows nobody and replies at once. -/
def empty : Authority := ⟨∅, ∅, [], false, 0⟩

/-- Lets a token stand for a user. -/
def addUser (a : Authority) (token : String) (identity : Identity) : Authority :=
  { a with identities := a.identities.insert token identity }

/-- Lets a token stand for a user who administers the platform. -/
def addAdmin (a : Authority) (token : String) (identity : Identity) : Authority :=
  { a.addUser token identity with admins := a.admins.insert token }

/-- Gives a role in an organization, in place of the one that was held there. -/
def setOrgRole (a : Authority) (role : OrgRole) : Authority :=
  { a with orgRoles := role :: a.orgRoles }

/-- The role that a member holds in an organization. -/
def orgRole? (a : Authority) (orgId memberId : String) : Option Role :=
  (a.orgRoles.find? fun r => r.orgId == orgId && r.memberId == memberId).map (·.role)

/-- Who the caller with a token is. -/
def identity (a : Authority) (token : String) : Except ClientError Identity :=
  if a.down then .error (.unavailable "auth service is down")
  else match a.identities[token]? with
    | some identity => .ok identity
    | none => .error (.unauthenticated "unknown token")

/-- The role that a member holds on the object of a request.  Nobody holds a role on the whole
platform. -/
def heldRole? (a : Authority) (store : Store) (memberId : String) (request : AuthorizeRequest) :
    Option Role :=
  match request.subject with
  | .root => none
  | .org => a.orgRole? request.object memberId
  | .group => (store.findRole request.object memberId).toOption

/-- Is the request granted to the member behind its token?  Without a role in the request a viewer
is enough. -/
def permits (a : Authority) (store : Store) (memberId : String) (request : AuthorizeRequest) :
    Bool :=
  match request.subject with
  | .root => a.admins.contains request.token
  | _ =>
    match a.heldRole? store memberId request with
    | some role => role.grants (request.action.getD .viewer)
    | none => false

/-- May the caller act on the object? -/
def decide (a : Authority) (store : Store) (request : AuthorizeRequest) :
    Except ClientError Unit := do
  let identity ← a.identity request.token
  if a.permits store identity.id request then return ()
  let role := request.action.getD .viewer
  let lacks := s!"{identity.id} lacks {role} on {request.subject.name} {request.object}"
  throw (.permissionDenied lacks)

end Authority

end DeviceFleet
