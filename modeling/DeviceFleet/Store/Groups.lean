/-
# Groups in the store

Groups are stored under their identifiers.  A group takes with it whatever it owns: its things
with their keys, its profiles and its memberships.
-/
import DeviceFleet.Store.Things

namespace DeviceFleet.Store

/-- The fields of a group that must not be blank. -/
def checkGroup (g : Group) : Except StoreError Unit := do
  require g.id "group id"
  require g.orgId "group org id"

/-- Stores a new group. -/
def saveGroup (s : Store) (g : Group) : Outcome Group :=
  match checkGroup g with
  | .error e => (.error e, s)
  | .ok () =>
    if g.id ∈ s.groups then (.error (.alreadyExists .group g.id), s)
    else (.ok g, { s with groups := s.groups.insert g.id g })

/-- Changes the name, the description, the metadata and the time of change of a group; its
organization stays.  The answer is the group as it is stored. -/
def updateGroup (s : Store) (g : Group) : Outcome Group :=
  match s.groups[g.id]? with
  | none => (.error (.notFound .group g.id), s)
  | some stored =>
    let changed : Group :=
      { stored with
        name := g.name, description := g.description, metadata := g.metadata
        updatedAt := g.updatedAt }
    (.ok changed, { s with groups := s.groups.insert g.id changed })

/-- The group with an identifier. -/
def findGroup (s : Store) (id : String) : Except StoreError Group :=
  match s.groups[id]? with
  | some g => .ok g
  | none => .error (.notFound .group id)

/-- A page of the groups that satisfy a condition, by name. -/
def pageOfGroups (s : Store) (p : Group → Bool) (r : PageRequest) : Page Group :=
  r.paginate (byName (·.name) (·.id) (s.groupsWhere fun g => p g && r.admits g.name))

/-- The groups with some identifiers. -/
def listGroupsWithIds (s : Store) (ids : List String) (r : PageRequest) : Page Group :=
  s.pageOfGroups (fun g => ids.contains g.id) r

/-- The groups of an organization. -/
def listGroupsOfOrg (s : Store) (orgId : String) (r : PageRequest) : Page Group :=
  s.pageOfGroups (fun g => g.orgId == orgId) r

/-- All groups. -/
def listGroups (s : Store) (r : PageRequest) : Page Group := s.pageOfGroups (fun _ => true) r

/-- The identifiers of the groups of an organization, ascending. -/
def groupIdsOfOrg (s : Store) (orgId : String) : List String :=
  (s.groupsWhere fun g => g.orgId == orgId).map (·.id)

/-- The identifiers of the groups of an organization that a member has a role in, ascending. -/
def groupIdsOfOrgMember (s : Store) (orgId memberId : String) : List String :=
  (s.groupIdsOfOrg orgId).filter fun groupId =>
    (⟨groupId, memberId⟩ : Membership.Key) ∈ s.memberships

/-- Takes out a group, if it is stored, and whatever it owns. -/
def eraseGroup (id : String) (s : Store) : Store :=
  if id ∈ s.groups then
    let owned := (s.thingsWhere fun t => t.groupId == id).map (·.id)
    let s := { s with groups := s.groups.erase id }.removeThings owned
    { s with
      profiles := s.profiles.filter fun _ p => p.groupId != id
      memberships := s.memberships.filter fun key _ => key.groupId != id }
  else s

/-- Takes out groups and whatever they own; identifiers that are not stored are passed over. -/
def removeGroups (s : Store) (ids : List String) : Store :=
  ids.foldl (fun s id => s.eraseGroup id) s

/-- All groups by identifier. -/
def exportGroups (s : Store) : List Group := s.groupsWhere fun _ => true

/-- The groups of an organization by identifier. -/
def exportGroupsOfOrg (s : Store) (orgId : String) : List Group :=
  s.groupsWhere fun g => g.orgId == orgId

end DeviceFleet.Store
