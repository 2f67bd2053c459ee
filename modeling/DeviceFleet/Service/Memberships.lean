/-
# Memberships

The operations on memberships.
-/
import DeviceFleet.Service.Groups

namespace DeviceFleet.Service

open DeviceFleet.Action DeviceFleet.Access

/-- The address of a user, of the last one if several have the identifier. -/
def emailOf (users : List User) (id : String) : Option String :=
  (users.reverse.find? fun u => u.id == id).map (·.email)

/-- The members of memberships, ascending and each once. -/
def memberIds (memberships : List Membership) : List String :=
  (Std.ExtTreeSet.ofList (memberships.map (·.memberId))).toList

/-- Fills in the addresses of members from the directory of users. -/
def resolveEmails (memberships : List Membership) : Action (List Membership) := do
  if memberships = [] then return []
  let users ← findUsers (memberIds memberships)
  return memberships.map fun m => { m with email := emailOf users m.memberId }

/-- The memberships that give members roles in a group now. -/
def grantAll (groupId : String) (members : List MemberRole) : Action (List Membership) :=
  members.mapM fun m => return Membership.granted groupId m.memberId m.role (← now)

/-- Gives members roles in a group.  The group has to exist. -/
def createMemberships (token groupId : String) (members : List MemberRole) : Action Unit := do
  canAccessGroup token groupId .admin
  let _ ← findGroup groupId
  let memberships ← grantAll groupId members
  change .saveMemberships fun s => s.saveMemberships memberships
  members.forM fun m => forgetMember m.memberId

/-- The memberships of a group with the addresses of the members. -/
def listMemberships (token groupId : String) (r : PageRequest) : Action (Page Membership) := do
  canAccessGroup token groupId .viewer
  let page ← ask .listMembershipsOfGroup fun s => .ok (s.listMembershipsOfGroup groupId r)
  let items ← resolveEmails page.items
  return page.withItems items

/-- Changes the roles of members in a group. -/
def updateMemberships (token groupId : String) (members : List MemberRole) : Action Unit := do
  canAccessGroup token groupId .admin
  let memberships ← grantAll groupId members
  change .updateMemberships fun s => s.updateMemberships memberships
  members.forM fun m => forgetMember m.memberId

/-- Takes the roles in a group from members. -/
def removeMemberships (token groupId : String) (memberIds : List String) : Action Unit := do
  canAccessGroup token groupId .admin
  change .removeMemberships fun s => (.ok (), s.removeMemberships groupId memberIds)
  memberIds.forM forgetMember

end DeviceFleet.Service
