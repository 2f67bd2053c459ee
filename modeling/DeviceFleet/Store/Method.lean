/-
# The methods of the store

The requests to the store by kind and name, and the ways in which a store can be made to fail at
them.
-/
import DeviceFleet.Store.Error

namespace DeviceFleet.Store

/-- A kind of request to the store. -/
inductive Method where
  | saveThings | updateThing | updateKey | findThing | findThingId | listThingsOfGroups
  | listThingsOfProfile | listThings | removeThings | exportThings | exportThingsOfGroups
  | saveProfiles | updateProfile | findProfile | findProfileOfThing | listProfilesOfGroups
  | listProfiles | removeProfiles | exportProfiles | exportProfilesOfGroups
  | saveGroup | updateGroup | findGroup | listGroupsWithIds | listGroupsOfOrg | listGroups
  | groupIdsOfOrg | groupIdsOfOrgMember | removeGroups | exportGroups | exportGroupsOfOrg
  | saveMemberships | updateMemberships | findRole | listMembershipsOfGroup | groupIdsOfMember
  | removeMemberships | exportMemberships | exportMembershipsOfGroup
deriving DecidableEq, Repr

namespace Method

/-- The name of a kind of request. -/
def name : Method → String
  | .saveThings => "things.save"
  | .updateThing => "things.update"
  | .updateKey => "things.update_key"
  | .findThing => "things.retrieve_by_id"
  | .findThingId => "things.retrieve_by_key"
  | .listThingsOfGroups => "things.retrieve_by_groups"
  | .listThingsOfProfile => "things.retrieve_by_profile"
  | .listThings => "things.retrieve_all"
  | .removeThings => "things.remove"
  | .exportThings => "things.backup_all"
  | .exportThingsOfGroups => "things.backup_by_groups"
  | .saveProfiles => "profiles.save"
  | .updateProfile => "profiles.update"
  | .findProfile => "profiles.retrieve_by_id"
  | .findProfileOfThing => "profiles.retrieve_by_thing"
  | .listProfilesOfGroups => "profiles.retrieve_by_groups"
  | .listProfiles => "profiles.retrieve_all"
  | .removeProfiles => "profiles.remove"
  | .exportProfiles => "profiles.backup_all"
  | .exportProfilesOfGroups => "profiles.backup_by_groups"
  | .saveGroup => "groups.save"
  | .updateGroup => "groups.update"
  | .findGroup => "groups.retrieve_by_id"
  | .listGroupsWithIds => "groups.retrieve_by_ids"
  | .listGroupsOfOrg => "groups.retrieve_by_org"
  | .listGroups => "groups.retrieve_all"
  | .groupIdsOfOrg => "groups.retrieve_ids_by_org"
  | .groupIdsOfOrgMember => "groups.retrieve_ids_by_org_membership"
  | .removeGroups => "groups.remove"
  | .exportGroups => "groups.backup_all"
  | .exportGroupsOfOrg => "groups.backup_by_org"
  | .saveMemberships => "memberships.save"
  | .updateMemberships => "memberships.update"
  | .findRole => "memberships.retrieve_role"
  | .listMembershipsOfGroup => "memberships.retrieve_by_group"
  | .groupIdsOfMember => "memberships.retrieve_group_ids_by_member"
  | .removeMemberships => "memberships.remove"
  | .exportMemberships => "memberships.backup_all"
  | .exportMembershipsOfGroup => "memberships.backup_by_group"

/-- All kinds of requests. -/
def all : List Method :=
  [.saveThings, .updateThing, .updateKey, .findThing, .findThingId, .listThingsOfGroups,
    .listThingsOfProfile, .listThings, .removeThings, .exportThings, .exportThingsOfGroups,
    .saveProfiles, .updateProfile, .findProfile, .findProfileOfThing, .listProfilesOfGroups,
    .listProfiles, .removeProfiles, .exportProfiles, .exportProfilesOfGroups, .saveGroup,
    .updateGroup, .findGroup, .listGroupsWithIds, .listGroupsOfOrg, .listGroups, .groupIdsOfOrg,
    .groupIdsOfOrgMember, .removeGroups, .exportGroups, .exportGroupsOfOrg, .saveMemberships,
    .updateMemberships, .findRole, .listMembershipsOfGroup, .groupIdsOfMember,
    .removeMemberships, .exportMemberships, .exportMembershipsOfGroup]

end Method

/-- A way in which a store that is out of order fails, for trying out what the service then
does. -/
inductive Fault where
  /-- Every request of a kind is refused. -/
  | refuses (method : Method)
  /-- Every request of a kind that stores records answers that it stored none. -/
  | storesNothing (method : Method)
deriving DecidableEq, Repr

namespace Fault

/-- The refusal of a request of a kind. -/
def refusal (method : Method) : StoreError := .internal s!"injected {method.name}"

end Fault

end DeviceFleet.Store
