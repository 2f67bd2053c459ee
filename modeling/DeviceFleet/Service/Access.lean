/-
# Access

Who may act on what.  The group that owns a thing or a profile is found first, in a cache or else
in the store; then the collaborator that grants permissions is asked.  Those who administer the
platform may act on every object.  A look-up in a cache that fails counts as a miss; a change of
a cache that fails makes the operation fail.
-/
import DeviceFleet.Service.Action
import DeviceFleet.Store.Groups
import DeviceFleet.Store.Memberships
import DeviceFleet.Store.Profiles

namespace DeviceFleet.Access

open DeviceFleet.Action

/-- The part of the program that reports here. -/
def target : String := "fleetgate_domain::access::evaluator"

/-- What a cache had, if it could be read. -/
def remembered {α : Type} (kind : CacheKind) (found : Except CacheError (Option α)) :
    Action (Option α) := do
  match found with
  | .ok hit => return hit
  | .error e =>
    report .warn target "cache lookup failed, using repository"
      [("cache", .plain kind.name), ("error", .plain e.message)]
    return none

/-! ## Finding owners -/

/-- The identifier of the thing with a key. -/
def identify (key : String) : Action String := do
  match ← remembered .thing (← lookUp .thing (·.things) fun c => c.id? key) with
  | some id => return id
  | none =>
    let id ← ask .findThingId fun s => s.findThingId key
    changeThingCache (ResourceCache.save key id)
    report .debug target "resolved thing key from repository" [("thing_id", .plain id)]
    return id

/-- The group that owns a thing. -/
def groupIdOfThing (thingId : String) : Action String := do
  match ← remembered .thing (← lookUp .thing (·.things) fun c => c.group? thingId) with
  | some groupId => return groupId
  | none =>
    let thing ← ask .findThing fun s => s.findThing thingId
    changeThingCache (ResourceCache.saveGroup thingId thing.groupId)
    report .debug target "resolved thing group from repository"
      [("thing_id", .text thingId), ("group_id", .plain thing.groupId)]
    return thing.groupId

/-- The group that owns a profile. -/
def groupIdOfProfile (profileId : String) : Action String := do
  match ← remembered .profile (← lookUp .profile (·.profiles) fun c => c.group? profileId) with
  | some groupId => return groupId
  | none =>
    let profile ← ask .findProfile fun s => s.findProfile profileId
    changeProfileCache (ResourceCache.saveGroup profileId profile.groupId)
    report .debug target "resolved profile group from repository"
      [("profile_id", .text profileId), ("group_id", .plain profile.groupId)]
    return profile.groupId

/-- The groups that a member has a role in. -/
def groupIdsOfMember (memberId : String) : Action (List String) := do
  match ← remembered .group (← lookUp .group (·.groups) fun c => c.groups? memberId) with
  | some groupIds => return groupIds
  | none =>
    let groupIds ← ask .groupIdsOfMember fun s => .ok (s.groupIdsOfMember memberId)
    changeMemberCache (MemberCache.save memberId groupIds)
    return groupIds

/-! ## Permissions -/

/-- Succeeds if the caller administers the platform. -/
def isAdmin (token : String) : Action Unit := authorize (.root token)

/-- Succeeds if the caller administers the platform or has the role on the object; `denied` is
reported when not. -/
def canAccess (subject : Subject) (denied : String) (token object : String) (action : Role) :
    Action Unit := do
  match ← attempt (isAdmin token) with
  | .ok _ => return ()
  | .error _ =>
    match ← attempt (authorize (.forObject token object subject action)) with
    | .ok _ => return ()
    | .error e =>
      report .warn target denied
        [(subject.name ++ "_id", .text object), ("action", .plain action.name),
          ("error", .plain e.message)]
      throw e

/-- Succeeds if the caller may act on a group. -/
def canAccessGroup (token groupId : String) (action : Role) : Action Unit :=
  canAccess .group "group access denied" token groupId action

/-- Succeeds if the caller may act on an organization. -/
def canAccessOrg (token orgId : String) (action : Role) : Action Unit :=
  canAccess .org "org access denied" token orgId action

/-- Succeeds if the caller may act on the group that owns a thing. -/
def canAccessThing (token thingId : String) (action : Role) : Action Unit := do
  let groupId ← groupIdOfThing thingId
  canAccessGroup token groupId action

/-- Succeeds if the caller may act on the group that owns a profile. -/
def canAccessProfile (token profileId : String) (action : Role) : Action Unit := do
  let groupId ← groupIdOfProfile profileId
  canAccessGroup token groupId action

/-- Succeeds if the thing with a key belongs to a group. -/
def canThingAccessGroup (key groupId : String) : Action Unit := do
  let thingId ← identify key
  let owner ← groupIdOfThing thingId
  if owner ≠ groupId then
    report .warn target "thing denied access to foreign group"
      [("thing_id", .plain thingId), ("group_id", .plain groupId)]
    throw (.authorization s!"thing {thingId} does not belong to group {groupId}")

end DeviceFleet.Access
