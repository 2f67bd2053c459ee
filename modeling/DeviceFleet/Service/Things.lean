/-
# Things

The operations on things.
-/
import DeviceFleet.Service.Scope

namespace DeviceFleet.Service

open DeviceFleet.Action DeviceFleet.Access

/-- The part of the program that reports about things. -/
def thingTarget : String := "fleetgate_domain::service::things"

/-- Fails if a profile does not belong to a group. -/
def ensureProfileInGroup (profileId groupId : String) : Action Unit := do
  let owner ← groupIdOfProfile profileId
  if owner ≠ groupId then
    report .warn thingTarget "thing and profile group mismatch"
      [("profile_id", .text profileId), ("group_id", .text groupId),
        ("profile_group", .plain owner)]
    throw (.authorization s!"profile {profileId} does not belong to group {groupId}")

/-- The text itself, or a new identifier in place of an empty one. -/
def orNewId (s : String) : Action String := if s = "" then newId else return s

/-- Checks a thing that is to be made, and gives it an identifier and a key if it has none. -/
def prepareThing (token : String) (t : Thing) : Action Thing := do
  if t.groupId = "" then throw (.invalidInput "thing group id cannot be empty")
  if t.profileId = "" then throw (.invalidInput "thing profile id cannot be empty")
  canAccessGroup token t.groupId .editor
  ensureProfileInGroup t.profileId t.groupId
  let id ← orNewId t.id
  let key ← orNewId t.key
  return { t with id := id, key := key }

/-- Makes things. -/
def createThings (token : String) (things : List Thing) : Action (List Thing) := do
  if things = [] then return []
  let prepared ← things.mapM (prepareThing token)
  let saved ← storeBatch .saveThings fun s => s.saveThings prepared
  if saved = [] then throw .createEntity
  report .debug thingTarget "things created" [("count", .number saved.length)]
  return saved

/-- Changes the name, the profile and the metadata of a thing. -/
def updateThing (token : String) (t : Thing) : Action Unit := do
  canAccessThing token t.id .editor
  let groupId ← groupIdOfThing t.id
  ensureProfileInGroup t.profileId groupId
  change .updateThing fun s => s.updateThing t

/-- Merges metadata into the metadata of a thing. -/
def mergeMetadata (token : String) (t : Thing) : Action Unit := do
  canAccessThing token t.id .editor
  let current ← ask .findThing fun s => s.findThing t.id
  let merged := { current with metadata := current.metadata.merge t.metadata }
  change .updateThing fun s => s.updateThing merged

/-- Merges metadata into the metadata of things, one thing after the other. -/
def updateThingsMetadata (token : String) (things : List Thing) : Action Unit :=
  things.forM (mergeMetadata token)

/-- Gives a thing another key.  The old one stops to be known. -/
def updateKey (token id key : String) : Action Unit := do
  canAccessThing token id .editor
  change .updateKey fun s => s.updateKey id key
  changeThingCache (ResourceCache.remove id)

/-- A thing. -/
def viewThing (token id : String) : Action Thing := do
  canAccessThing token id .viewer
  ask .findThing fun s => s.findThing id

/-- The metadata of the thing with a key. -/
def viewMetadataByKey (key : String) : Action Metadata := do
  let id ← identify key
  let thing ← ask .findThing fun s => s.findThing id
  return thing.metadata

/-- The things of some groups. -/
def thingsOfGroups (r : PageRequest) (groupIds : List String) : Action (Page Thing) :=
  ask .listThingsOfGroups fun s => .ok (s.listThingsOfGroups groupIds r)

/-- The things that the caller sees. -/
def listThings (token : String) (r : PageRequest) : Action (Page Thing) :=
  listScoped token (ask .listThings fun s => .ok (s.listThings r)) (thingsOfGroups r)

/-- The things of an organization that the caller sees. -/
def listThingsByOrg (token orgId : String) (r : PageRequest) : Action (Page Thing) := do
  let groupIds ← orgGroupIds token orgId
  thingsOfGroups r groupIds

/-- The things of a group. -/
def listThingsByGroup (token groupId : String) (r : PageRequest) : Action (Page Thing) := do
  canAccessGroup token groupId .viewer
  thingsOfGroups r [groupId]

/-- The things of a profile. -/
def listThingsByProfile (token profileId : String) (r : PageRequest) : Action (Page Thing) := do
  canAccessProfile token profileId .viewer
  ask .listThingsOfProfile fun s => .ok (s.listThingsOfProfile profileId r)

/-- Lets the caches forget a thing that the caller may take out. -/
def forgetThing (token id : String) : Action Unit := do
  canAccessThing token id .editor
  changeThingCache (ResourceCache.remove id)
  changeThingCache (ResourceCache.removeGroup id)

/-- Takes out things. -/
def removeThings (token : String) (ids : List String) : Action Unit := do
  ids.forM (forgetThing token)
  change .removeThings fun s => (.ok (), s.removeThings ids)
  report .debug thingTarget "things removed" [("count", .number ids.length)]

/-- What the path that takes in messages needs to know about the thing with a key. -/
def publisherConfigByKey (key : String) : Action PublisherConfig := do
  let id ← identify key
  let profile ← ask .findProfileOfThing fun s => s.findProfileOfThing id
  return ⟨id, profile.config⟩

/-- The profile of a thing. -/
def profileIdOfThing (thingId : String) : Action String := do
  let thing ← ask .findThing fun s => s.findThing thingId
  return thing.profileId

end DeviceFleet.Service
