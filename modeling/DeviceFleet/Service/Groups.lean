/-
# Groups

The operations on groups.
-/
import DeviceFleet.Service.Things

namespace DeviceFleet.Service

open DeviceFleet.Action DeviceFleet.Access

/-- The part of the program that reports about groups. -/
def groupTarget : String := "fleetgate_domain::service::groups"

/-- Lets the cache forget a member. -/
def forgetMember (memberId : String) : Action Unit :=
  changeMemberCache (MemberCache.remove memberId)

/-- Makes one group in an organization and makes `ownerId` its owner. -/
def createGroup (orgId ownerId : String) (g : Group) : Action Group := do
  let id ← orNewId g.id
  let time ← now
  let group : Group := { g with id := id, orgId := orgId, createdAt := time, updatedAt := time }
  let group ← change .saveGroup fun s => s.saveGroup group
  let owner := Membership.granted group.id ownerId .owner (← now)
  change .saveMemberships fun s => s.saveMemberships [owner]
  forgetMember ownerId
  return group

/-- Makes groups in an organization.  The caller becomes the owner of each. -/
def createGroups (token orgId : String) (groups : List Group) : Action (List Group) := do
  if orgId = "" then throw (.invalidInput "org id cannot be empty")
  canAccessOrg token orgId .editor
  let creator ← identifyCaller token
  let created ← groups.mapM (createGroup orgId creator.id)
  report .debug groupTarget "groups created"
    [("org_id", .text orgId), ("count", .number created.length)]
  return created

/-- Changes the name, the description and the metadata of a group. -/
def updateGroup (token : String) (g : Group) : Action Group := do
  canAccessGroup token g.id .editor
  let time ← now
  change .updateGroup fun s => s.updateGroup { g with updatedAt := time }

/-- A group that the caller was allowed to look at. -/
def findGroup (id : String) : Action Group := ask .findGroup fun s => s.findGroup id

/-- A group. -/
def viewGroup (token id : String) : Action Group := do
  canAccessGroup token id .viewer
  findGroup id

/-- The group that owns a thing. -/
def viewGroupByThing (token thingId : String) : Action Group := do
  canAccessThing token thingId .viewer
  let groupId ← groupIdOfThing thingId
  findGroup groupId

/-- The group that owns a profile. -/
def viewGroupByProfile (token profileId : String) : Action Group := do
  canAccessProfile token profileId .viewer
  let groupId ← groupIdOfProfile profileId
  findGroup groupId

/-- The groups with some identifiers. -/
def groupsWithIds (r : PageRequest) (ids : List String) : Action (Page Group) :=
  ask .listGroupsWithIds fun s => .ok (s.listGroupsWithIds ids r)

/-- The groups that the caller sees. -/
def listGroups (token : String) (r : PageRequest) : Action (Page Group) :=
  listScoped token (ask .listGroups fun s => .ok (s.listGroups r)) (groupsWithIds r)

/-- The groups of an organization that the caller sees. -/
def listGroupsByOrg (token orgId : String) (r : PageRequest) : Action (Page Group) := do
  let groupIds ← orgGroupIds token orgId
  groupsWithIds r groupIds

/-- Lets the caches forget a group, whatever it owns and whoever has a role in it. -/
def purgeGroup (groupId : String) : Action Unit := do
  let things ← ask .exportThingsOfGroups fun s => .ok (s.exportThingsOfGroups [groupId])
  things.forM fun t => do
    changeThingCache (ResourceCache.remove t.id)
    changeThingCache (ResourceCache.removeGroup t.id)
  let profiles ← ask .exportProfilesOfGroups fun s => .ok (s.exportProfilesOfGroups [groupId])
  profiles.forM fun p => changeProfileCache (ResourceCache.removeGroup p.id)
  let memberships ←
    ask .exportMembershipsOfGroup fun s => .ok (s.exportMembershipsOfGroup groupId)
  memberships.forM fun m => forgetMember m.memberId
  changeMemberCache (MemberCache.removeGroup groupId)

/-- Takes out groups with whatever they own. -/
def removeGroups (token : String) (ids : List String) : Action Unit := do
  ids.forM fun id => canAccessGroup token id .owner
  ids.forM purgeGroup
  change .removeGroups fun s => (.ok (), s.removeGroups ids)
  report .debug groupTarget "groups removed" [("count", .number ids.length)]

end DeviceFleet.Service
