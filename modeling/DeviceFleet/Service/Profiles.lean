/-
# Profiles

The operations on profiles.
-/
import DeviceFleet.Service.Things

namespace DeviceFleet.Service

open DeviceFleet.Action DeviceFleet.Access

/-- The part of the program that reports about profiles. -/
def profileTarget : String := "fleetgate_domain::service::profiles"

/-- Checks a profile that is to be made, and gives it an identifier if it has none. -/
def prepareProfile (token : String) (p : Profile) : Action Profile := do
  if p.groupId = "" then throw (.invalidInput "profile group id cannot be empty")
  canAccessGroup token p.groupId .editor
  let id ← orNewId p.id
  return { p with id := id }

/-- Makes profiles. -/
def createProfiles (token : String) (profiles : List Profile) : Action (List Profile) := do
  if profiles = [] then return []
  let prepared ← profiles.mapM (prepareProfile token)
  let saved ← storeBatch .saveProfiles fun s => s.saveProfiles prepared
  if saved = [] then throw .createEntity
  report .debug profileTarget "profiles created" [("count", .number saved.length)]
  return saved

/-- Changes the name, the configuration and the metadata of a profile. -/
def updateProfile (token : String) (p : Profile) : Action Unit := do
  canAccessProfile token p.id .editor
  change .updateProfile fun s => s.updateProfile p

/-- A profile. -/
def viewProfile (token id : String) : Action Profile := do
  canAccessProfile token id .viewer
  ask .findProfile fun s => s.findProfile id

/-- The profile of a thing. -/
def viewProfileByThing (token thingId : String) : Action Profile := do
  canAccessThing token thingId .viewer
  ask .findProfileOfThing fun s => s.findProfileOfThing thingId

/-- The profiles of some groups. -/
def profilesOfGroups (r : PageRequest) (groupIds : List String) : Action (Page Profile) :=
  ask .listProfilesOfGroups fun s => .ok (s.listProfilesOfGroups groupIds r)

/-- The profiles that the caller sees. -/
def listProfiles (token : String) (r : PageRequest) : Action (Page Profile) :=
  listScoped token (ask .listProfiles fun s => .ok (s.listProfiles r)) (profilesOfGroups r)

/-- The profiles of an organization that the caller sees. -/
def listProfilesByOrg (token orgId : String) (r : PageRequest) : Action (Page Profile) := do
  let groupIds ← orgGroupIds token orgId
  profilesOfGroups r groupIds

/-- The profiles of a group. -/
def listProfilesByGroup (token groupId : String) (r : PageRequest) : Action (Page Profile) := do
  canAccessGroup token groupId .viewer
  profilesOfGroups r [groupId]

/-- Lets the cache forget a profile that the caller may take out. -/
def forgetProfile (token id : String) : Action Unit := do
  canAccessProfile token id .editor
  changeProfileCache (ResourceCache.removeGroup id)

/-- Takes out profiles. -/
def removeProfiles (token : String) (ids : List String) : Action Unit := do
  ids.forM (forgetProfile token)
  changeAlong .removeProfiles fun walk s => s.removeProfiles walk ids
  report .debug profileTarget "profiles removed" [("count", .number ids.length)]

/-- The configuration of the profile of a thing. -/
def configOfThing (thingId : String) : Action Metadata := do
  let profile ← ask .findProfileOfThing fun s => s.findProfileOfThing thingId
  return profile.config

end DeviceFleet.Service
