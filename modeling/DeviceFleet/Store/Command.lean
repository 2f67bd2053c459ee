/-
# Commands of the store

The requests that the store takes, as data.  A history of the store is a list of commands.
-/
import DeviceFleet.Answer
import DeviceFleet.Store.Groups
import DeviceFleet.Store.Memberships
import DeviceFleet.Store.Profiles

namespace DeviceFleet.Store

/-- A request to the store. -/
inductive Command where
  /-- Stores new things. -/
  | saveThings (things : List Thing)
  /-- Changes a thing. -/
  | updateThing (thing : Thing)
  /-- Gives a thing another key. -/
  | updateKey (id key : String)
  /-- Finds a thing. -/
  | findThing (id : String)
  /-- Finds the identifier of the thing with a key. -/
  | findThingId (key : String)
  /-- Lists the things of some groups. -/
  | listThingsOfGroups (groupIds : List String) (request : PageRequest)
  /-- Lists the things of a profile. -/
  | listThingsOfProfile (profileId : String) (request : PageRequest)
  /-- Lists all things. -/
  | listThings (request : PageRequest)
  /-- Takes out things. -/
  | removeThings (ids : List String)
  /-- Exports all things. -/
  | exportThings
  /-- Exports the things of some groups. -/
  | exportThingsOfGroups (groupIds : List String)
  /-- Stores new profiles. -/
  | saveProfiles (profiles : List Profile)
  /-- Changes a profile. -/
  | updateProfile (profile : Profile)
  /-- Finds a profile. -/
  | findProfile (id : String)
  /-- Finds the profile of a thing. -/
  | findProfileOfThing (thingId : String)
  /-- Lists the profiles of some groups. -/
  | listProfilesOfGroups (groupIds : List String) (request : PageRequest)
  /-- Lists all profiles. -/
  | listProfiles (request : PageRequest)
  /-- Takes out profiles; the things are gone through on a walk. -/
  | removeProfiles (ids : List String) (walk : optParam Walk .ascending)
  /-- Exports all profiles. -/
  | exportProfiles
  /-- Exports the profiles of some groups. -/
  | exportProfilesOfGroups (groupIds : List String)
  /-- Stores a new group. -/
  | saveGroup (group : Group)
  /-- Changes a group. -/
  | updateGroup (group : Group)
  /-- Finds a group. -/
  | findGroup (id : String)
  /-- Lists the groups with some identifiers. -/
  | listGroupsWithIds (ids : List String) (request : PageRequest)
  /-- Lists the groups of an organization. -/
  | listGroupsOfOrg (orgId : String) (request : PageRequest)
  /-- Lists all groups. -/
  | listGroups (request : PageRequest)
  /-- Finds the identifiers of the groups of an organization. -/
  | groupIdsOfOrg (orgId : String)
  /-- Finds the identifiers of the groups of an organization that a member has a role in. -/
  | groupIdsOfOrgMember (orgId memberId : String)
  /-- Takes out groups with whatever they own. -/
  | removeGroups (ids : List String)
  /-- Exports all groups. -/
  | exportGroups
  /-- Exports the groups of an organization. -/
  | exportGroupsOfOrg (orgId : String)
  /-- Stores new memberships. -/
  | saveMemberships (memberships : List Membership)
  /-- Changes the roles of memberships. -/
  | updateMemberships (memberships : List Membership)
  /-- Finds the role of a member in a group. -/
  | findRole (groupId memberId : String)
  /-- Lists the memberships of a group. -/
  | listMembershipsOfGroup (groupId : String) (request : PageRequest)
  /-- Finds the identifiers of the groups that a member has a role in. -/
  | groupIdsOfMember (memberId : String)
  /-- Takes out memberships of a group. -/
  | removeMemberships (groupId : String) (memberIds : List String)
  /-- Exports all memberships. -/
  | exportMemberships
  /-- Exports the memberships of a group. -/
  | exportMembershipsOfGroup (groupId : String)

/-- Applies a function to the answer of an outcome. -/
def Outcome.map {α β : Type} (f : α → β) (o : Outcome α) : Outcome β := (o.1.map f, o.2)

namespace Command

/-- Carries out a request. -/
def run (c : Command) (s : Store) : Outcome Answer :=
  match c with
  | .saveThings things => (s.saveThings things).map .things
  | .updateThing thing => (s.updateThing thing).map fun _ => .done
  | .updateKey id key => (s.updateKey id key).map fun _ => .done
  | .findThing id => ((s.findThing id).map .thing, s)
  | .findThingId key => ((s.findThingId key).map .identifier, s)
  | .listThingsOfGroups groupIds r => (.ok (.thingPage (s.listThingsOfGroups groupIds r)), s)
  | .listThingsOfProfile profileId r => (.ok (.thingPage (s.listThingsOfProfile profileId r)), s)
  | .listThings r => (.ok (.thingPage (s.listThings r)), s)
  | .removeThings ids => (.ok .done, s.removeThings ids)
  | .exportThings => (.ok (.things s.exportThings), s)
  | .exportThingsOfGroups groupIds => (.ok (.things (s.exportThingsOfGroups groupIds)), s)
  | .saveProfiles profiles => (s.saveProfiles profiles).map .profiles
  | .updateProfile profile => (s.updateProfile profile).map fun _ => .done
  | .findProfile id => ((s.findProfile id).map .profile, s)
  | .findProfileOfThing thingId => ((s.findProfileOfThing thingId).map .profile, s)
  | .listProfilesOfGroups groupIds r => (.ok (.profilePage (s.listProfilesOfGroups groupIds r)), s)
  | .listProfiles r => (.ok (.profilePage (s.listProfiles r)), s)
  | .removeProfiles ids walk => (s.removeProfiles walk ids).map fun _ => .done
  | .exportProfiles => (.ok (.profiles s.exportProfiles), s)
  | .exportProfilesOfGroups groupIds => (.ok (.profiles (s.exportProfilesOfGroups groupIds)), s)
  | .saveGroup group => (s.saveGroup group).map .group
  | .updateGroup group => (s.updateGroup group).map .group
  | .findGroup id => ((s.findGroup id).map .group, s)
  | .listGroupsWithIds ids r => (.ok (.groupPage (s.listGroupsWithIds ids r)), s)
  | .listGroupsOfOrg orgId r => (.ok (.groupPage (s.listGroupsOfOrg orgId r)), s)
  | .listGroups r => (.ok (.groupPage (s.listGroups r)), s)
  | .groupIdsOfOrg orgId => (.ok (.identifiers (s.groupIdsOfOrg orgId)), s)
  | .groupIdsOfOrgMember orgId memberId =>
    (.ok (.identifiers (s.groupIdsOfOrgMember orgId memberId)), s)
  | .removeGroups ids => (.ok .done, s.removeGroups ids)
  | .exportGroups => (.ok (.groups s.exportGroups), s)
  | .exportGroupsOfOrg orgId => (.ok (.groups (s.exportGroupsOfOrg orgId)), s)
  | .saveMemberships memberships => (s.saveMemberships memberships).map fun _ => .done
  | .updateMemberships memberships => (s.updateMemberships memberships).map fun _ => .done
  | .findRole groupId memberId => ((s.findRole groupId memberId).map .role, s)
  | .listMembershipsOfGroup groupId r =>
    (.ok (.membershipPage (s.listMembershipsOfGroup groupId r)), s)
  | .groupIdsOfMember memberId => (.ok (.identifiers (s.groupIdsOfMember memberId)), s)
  | .removeMemberships groupId memberIds => (.ok .done, s.removeMemberships groupId memberIds)
  | .exportMemberships => (.ok (.memberships s.exportMemberships), s)
  | .exportMembershipsOfGroup groupId =>
    (.ok (.memberships (s.exportMembershipsOfGroup groupId)), s)

end Command

/-- The store after a list of commands. -/
def after (s : Store) (history : List Command) : Store :=
  history.foldl (fun s c => (c.run s).2) s

/-- Everything in the store, as a backup without the addresses of members. -/
def contents (s : Store) : Backup :=
  ⟨s.exportGroups, s.exportThings, s.exportProfiles, s.exportMemberships⟩

end DeviceFleet.Store
