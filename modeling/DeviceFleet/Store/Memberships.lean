/-
# Memberships in the store

Memberships are stored under their group and member, and without the address of the member.
-/
import DeviceFleet.Store.Basic

namespace DeviceFleet.Store

/-- Stores one membership, without an address. -/
def insertMembership (m : Membership) (s : Store) : Outcome Unit :=
  if m.key ∈ s.memberships then (.error (.alreadyExists .membership m.key.label), s)
  else
    (.ok (), { s with memberships := s.memberships.insert m.key { m with email := none } })

/-- Takes out one membership. -/
def eraseMembership (key : Membership.Key) (s : Store) : Store :=
  { s with memberships := s.memberships.erase key }

/-- The fields of a membership that must not be blank. -/
def checkMembership (m : Membership) : Except StoreError Unit := do
  require m.memberId "member id"
  require m.groupId "group id"

/-- Stores new memberships, all or none. -/
def saveMemberships (s : Store) (memberships : List Membership) : Outcome Unit :=
  match memberships.forM checkMembership with
  | .error e => (.error e, s)
  | .ok () => insertEach insertMembership (fun m => eraseMembership m.key) [] memberships s

/-- Changes the role and the time of change of one membership, if it is stored. -/
def changeRole (s : Store) (m : Membership) : Store :=
  let change (stored : Membership) : Membership :=
    { stored with role := m.role, updatedAt := m.updatedAt }
  { s with memberships := s.memberships.modify m.key change }

/-- Changes the roles of memberships, all or none. -/
def updateMemberships (s : Store) (memberships : List Membership) : Outcome Unit :=
  match memberships.find? fun m => m.key ∉ s.memberships with
  | some m => (.error (.notFound .membership m.key.label), s)
  | none => (.ok (), memberships.foldl changeRole s)

/-- The role of a member in a group. -/
def findRole (s : Store) (groupId memberId : String) : Except StoreError Role :=
  match s.memberships[(⟨groupId, memberId⟩ : Membership.Key)]? with
  | some m => .ok m.role
  | none => .error (.notFound .membership (Membership.Key.label ⟨groupId, memberId⟩))

/-- A page of the memberships of a group by member; they have no names to be filtered by. -/
def listMembershipsOfGroup (s : Store) (groupId : String) (r : PageRequest) : Page Membership :=
  r.paginate (s.membershipsWhere fun m => m.groupId == groupId)

/-- The identifiers of the groups that a member has a role in, ascending. -/
def groupIdsOfMember (s : Store) (memberId : String) : List String :=
  (s.membershipsWhere fun m => m.memberId == memberId).map (·.groupId)

/-- Takes out the memberships of some members in a group; those that are not stored are passed
over. -/
def removeMemberships (s : Store) (groupId : String) (memberIds : List String) : Store :=
  memberIds.foldl (fun s memberId => s.eraseMembership ⟨groupId, memberId⟩) s

/-- All memberships by group and member. -/
def exportMemberships (s : Store) : List Membership := s.membershipsWhere fun _ => true

/-- The memberships of a group by member. -/
def exportMembershipsOfGroup (s : Store) (groupId : String) : List Membership :=
  s.membershipsWhere fun m => m.groupId == groupId

end DeviceFleet.Store
