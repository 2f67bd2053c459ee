/-
# Backups

The operations that export a fleet, or parts of it, and the one that brings an export back.
-/
import DeviceFleet.Service.Memberships

namespace DeviceFleet.Service

open DeviceFleet.Action DeviceFleet.Access

/-- The part of the program that reports about backups. -/
def backupTarget : String := "fleetgate_domain::service::backup"

/-- The sizes of the lists of a backup. -/
def backupSizes (b : Backup) : List (String × LogValue) :=
  [("groups", .number b.groups.length), ("things", .number b.things.length),
    ("profiles", .number b.profiles.length), ("memberships", .number b.memberships.length)]

/-- Exports everything. -/
def backup (token : String) : Action Backup := do
  isAdmin token
  let groups ← ask .exportGroups fun s => .ok s.exportGroups
  let things ← ask .exportThings fun s => .ok s.exportThings
  let profiles ← ask .exportProfiles fun s => .ok s.exportProfiles
  let memberships ← ask .exportMemberships fun s => .ok s.exportMemberships
  let memberships ← resolveEmails memberships
  let result : Backup := ⟨groups, things, profiles, memberships⟩
  report .info backupTarget "backup created" (backupSizes result)
  return result

/-- The groups of an organization that the caller owns. -/
def orgScope (token orgId : String) : Action (List String) := do
  canAccessOrg token orgId .owner
  ask .groupIdsOfOrg fun s => .ok (s.groupIdsOfOrg orgId)

/-- Exports the groups of an organization. -/
def backupGroupsByOrg (token orgId : String) : Action (List Group) := do
  canAccessOrg token orgId .owner
  ask .exportGroupsOfOrg fun s => .ok (s.exportGroupsOfOrg orgId)

/-- Exports the things of an organization. -/
def backupThingsByOrg (token orgId : String) : Action (List Thing) := do
  let groupIds ← orgScope token orgId
  ask .exportThingsOfGroups fun s => .ok (s.exportThingsOfGroups groupIds)

/-- Exports the profiles of an organization. -/
def backupProfilesByOrg (token orgId : String) : Action (List Profile) := do
  let groupIds ← orgScope token orgId
  ask .exportProfilesOfGroups fun s => .ok (s.exportProfilesOfGroups groupIds)

/-- Exports the things of a group. -/
def backupThingsByGroup (token groupId : String) : Action (List Thing) := do
  canAccessGroup token groupId .owner
  ask .exportThingsOfGroups fun s => .ok (s.exportThingsOfGroups [groupId])

/-- Exports the profiles of a group. -/
def backupProfilesByGroup (token groupId : String) : Action (List Profile) := do
  canAccessGroup token groupId .owner
  ask .exportProfilesOfGroups fun s => .ok (s.exportProfilesOfGroups [groupId])

/-- Exports the memberships of a group. -/
def backupMemberships (token groupId : String) : Action (List Membership) := do
  canAccessGroup token groupId .owner
  let memberships ←
    ask .exportMembershipsOfGroup fun s => .ok (s.exportMembershipsOfGroup groupId)
  resolveEmails memberships

/-- Stores a membership of a backup. -/
def restoreMembership (m : Membership) : Action Unit := do
  change .saveMemberships fun s => s.saveMemberships [m]
  forgetMember m.memberId

/-- Stores a backup, group by group, then all things, all profiles and membership by membership.
The first failure ends it, and what was stored before stays. -/
def restoreAll (b : Backup) : Action Unit := do
  b.groups.forM fun g => discard <| change .saveGroup fun s => s.saveGroup g
  if b.things ≠ [] then
    discard <| storeBatch .saveThings fun s => s.saveThings b.things
  if b.profiles ≠ [] then
    discard <| storeBatch .saveProfiles fun s => s.saveProfiles b.profiles
  b.memberships.forM restoreMembership

/-- Brings a backup back. -/
def restore (token : String) (b : Backup) : Action Unit := do
  isAdmin token
  match ← attempt (restoreAll b) with
  | .error e =>
    report .warn backupTarget "restore aborted, earlier writes were kept"
      [("error", .plain e.message)]
    throw e
  | .ok _ => report .info backupTarget "backup restored" (backupSizes b)

end DeviceFleet.Service
