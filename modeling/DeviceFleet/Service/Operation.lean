/-
# Operations

The operations of the service, as data.  A history of the service is a list of operations, and
the layers around the service know an operation by its name.
-/
import DeviceFleet.Answer
import DeviceFleet.Service.Backups
import DeviceFleet.Service.Profiles

namespace DeviceFleet.Service

/-- An operation of the service with its arguments. -/
inductive Operation where
  /-- Makes things. -/
  | createThings (token : String) (things : List Thing)
  /-- Changes a thing. -/
  | updateThing (token : String) (thing : Thing)
  /-- Merges metadata into the metadata of things. -/
  | updateThingsMetadata (token : String) (things : List Thing)
  /-- Gives a thing another key. -/
  | updateKey (token id key : String)
  /-- Looks at a thing. -/
  | viewThing (token id : String)
  /-- Looks at the metadata of the thing with a key. -/
  | viewMetadataByKey (key : String)
  /-- Lists the things that the caller sees. -/
  | listThings (token : String) (request : PageRequest)
  /-- Lists the things of an organization. -/
  | listThingsByOrg (token orgId : String) (request : PageRequest)
  /-- Lists the things of a group. -/
  | listThingsByGroup (token groupId : String) (request : PageRequest)
  /-- Lists the things of a profile. -/
  | listThingsByProfile (token profileId : String) (request : PageRequest)
  /-- Takes out things. -/
  | removeThings (token : String) (ids : List String)
  /-- Finds the identifier of the thing with a key. -/
  | identify (key : String)
  /-- Finds what the path that takes in messages needs to know about the thing with a key. -/
  | publisherConfigByKey (key : String)
  /-- Finds the group of a thing. -/
  | groupIdOfThing (thingId : String)
  /-- Finds the profile of a thing. -/
  | profileIdOfThing (thingId : String)
  /-- Makes profiles. -/
  | createProfiles (token : String) (profiles : List Profile)
  /-- Changes a profile. -/
  | updateProfile (token : String) (profile : Profile)
  /-- Looks at a profile. -/
  | viewProfile (token id : String)
  /-- Looks at the profile of a thing. -/
  | viewProfileByThing (token thingId : String)
  /-- Lists the profiles that the caller sees. -/
  | listProfiles (token : String) (request : PageRequest)
  /-- Lists the profiles of an organization. -/
  | listProfilesByOrg (token orgId : String) (request : PageRequest)
  /-- Lists the profiles of a group. -/
  | listProfilesByGroup (token groupId : String) (request : PageRequest)
  /-- Takes out profiles. -/
  | removeProfiles (token : String) (ids : List String)
  /-- Finds the configuration of the profile of a thing. -/
  | configOfThing (thingId : String)
  /-- Finds the group of a profile. -/
  | groupIdOfProfile (profileId : String)
  /-- Makes groups in an organization. -/
  | createGroups (token orgId : String) (groups : List Group)
  /-- Changes a group. -/
  | updateGroup (token : String) (group : Group)
  /-- Looks at a group. -/
  | viewGroup (token id : String)
  /-- Looks at the group that owns a thing. -/
  | viewGroupByThing (token thingId : String)
  /-- Looks at the group that owns a profile. -/
  | viewGroupByProfile (token profileId : String)
  /-- Lists the groups that the caller sees. -/
  | listGroups (token : String) (request : PageRequest)
  /-- Lists the groups of an organization. -/
  | listGroupsByOrg (token orgId : String) (request : PageRequest)
  /-- Takes out groups with whatever they own. -/
  | removeGroups (token : String) (ids : List String)
  /-- Gives members roles in a group. -/
  | createMemberships (token groupId : String) (members : List MemberRole)
  /-- Lists the memberships of a group. -/
  | listMemberships (token groupId : String) (request : PageRequest)
  /-- Changes the roles of members in a group. -/
  | updateMemberships (token groupId : String) (members : List MemberRole)
  /-- Takes the roles in a group from members. -/
  | removeMemberships (token groupId : String) (memberIds : List String)
  /-- Exports everything. -/
  | backup (token : String)
  /-- Exports the groups of an organization. -/
  | backupGroupsByOrg (token orgId : String)
  /-- Exports the things of an organization. -/
  | backupThingsByOrg (token orgId : String)
  /-- Exports the profiles of an organization. -/
  | backupProfilesByOrg (token orgId : String)
  /-- Exports the things of a group. -/
  | backupThingsByGroup (token groupId : String)
  /-- Exports the profiles of a group. -/
  | backupProfilesByGroup (token groupId : String)
  /-- Exports the memberships of a group. -/
  | backupMemberships (token groupId : String)
  /-- Brings a backup back. -/
  | restore (token : String) (backup : Backup)
  /-- Asks whether the caller may act on a thing. -/
  | canAccessThing (token thingId : String) (action : Role)
  /-- Asks whether the caller may act on a profile. -/
  | canAccessProfile (token profileId : String) (action : Role)
  /-- Asks whether the caller may act on a group. -/
  | canAccessGroup (token groupId : String) (action : Role)
  /-- Asks whether the caller may act on an organization. -/
  | canAccessOrg (token orgId : String) (action : Role)
  /-- Asks whether the thing with a key belongs to a group. -/
  | canThingAccessGroup (key groupId : String)
deriving DecidableEq

namespace Operation

/-- Carries out what has no answer. -/
def completed (x : Action Unit) : Action Answer := do
  x
  return .done

/-- Carries out an operation. -/
def run : Operation → Action Answer
  | .createThings token things => .things <$> Service.createThings token things
  | .updateThing token thing => completed (Service.updateThing token thing)
  | .updateThingsMetadata token things => completed (Service.updateThingsMetadata token things)
  | .updateKey token id key => completed (Service.updateKey token id key)
  | .viewThing token id => .thing <$> Service.viewThing token id
  | .viewMetadataByKey key => .metadata <$> Service.viewMetadataByKey key
  | .listThings token r => .thingPage <$> Service.listThings token r
  | .listThingsByOrg token orgId r => .thingPage <$> Service.listThingsByOrg token orgId r
  | .listThingsByGroup token groupId r => .thingPage <$> Service.listThingsByGroup token groupId r
  | .listThingsByProfile token profileId r =>
    .thingPage <$> Service.listThingsByProfile token profileId r
  | .removeThings token ids => completed (Service.removeThings token ids)
  | .identify key => .identifier <$> Access.identify key
  | .publisherConfigByKey key => .publisher <$> Service.publisherConfigByKey key
  | .groupIdOfThing thingId => .identifier <$> Access.groupIdOfThing thingId
  | .profileIdOfThing thingId => .identifier <$> Service.profileIdOfThing thingId
  | .createProfiles token profiles => .profiles <$> Service.createProfiles token profiles
  | .updateProfile token profile => completed (Service.updateProfile token profile)
  | .viewProfile token id => .profile <$> Service.viewProfile token id
  | .viewProfileByThing token thingId => .profile <$> Service.viewProfileByThing token thingId
  | .listProfiles token r => .profilePage <$> Service.listProfiles token r
  | .listProfilesByOrg token orgId r => .profilePage <$> Service.listProfilesByOrg token orgId r
  | .listProfilesByGroup token groupId r =>
    .profilePage <$> Service.listProfilesByGroup token groupId r
  | .removeProfiles token ids => completed (Service.removeProfiles token ids)
  | .configOfThing thingId => .metadata <$> Service.configOfThing thingId
  | .groupIdOfProfile profileId => .identifier <$> Access.groupIdOfProfile profileId
  | .createGroups token orgId groups => .groups <$> Service.createGroups token orgId groups
  | .updateGroup token group => .group <$> Service.updateGroup token group
  | .viewGroup token id => .group <$> Service.viewGroup token id
  | .viewGroupByThing token thingId => .group <$> Service.viewGroupByThing token thingId
  | .viewGroupByProfile token profileId => .group <$> Service.viewGroupByProfile token profileId
  | .listGroups token r => .groupPage <$> Service.listGroups token r
  | .listGroupsByOrg token orgId r => .groupPage <$> Service.listGroupsByOrg token orgId r
  | .removeGroups token ids => completed (Service.removeGroups token ids)
  | .createMemberships token groupId members =>
    completed (Service.createMemberships token groupId members)
  | .listMemberships token groupId r =>
    .membershipPage <$> Service.listMemberships token groupId r
  | .updateMemberships token groupId members =>
    completed (Service.updateMemberships token groupId members)
  | .removeMemberships token groupId memberIds =>
    completed (Service.removeMemberships token groupId memberIds)
  | .backup token => .backup <$> Service.backup token
  | .backupGroupsByOrg token orgId => .groups <$> Service.backupGroupsByOrg token orgId
  | .backupThingsByOrg token orgId => .things <$> Service.backupThingsByOrg token orgId
  | .backupProfilesByOrg token orgId => .profiles <$> Service.backupProfilesByOrg token orgId
  | .backupThingsByGroup token groupId => .things <$> Service.backupThingsByGroup token groupId
  | .backupProfilesByGroup token groupId =>
    .profiles <$> Service.backupProfilesByGroup token groupId
  | .backupMemberships token groupId => .memberships <$> Service.backupMemberships token groupId
  | .restore token b => completed (Service.restore token b)
  | .canAccessThing token thingId action => completed (Access.canAccessThing token thingId action)
  | .canAccessProfile token profileId action =>
    completed (Access.canAccessProfile token profileId action)
  | .canAccessGroup token groupId action => completed (Access.canAccessGroup token groupId action)
  | .canAccessOrg token orgId action => completed (Access.canAccessOrg token orgId action)
  | .canThingAccessGroup key groupId => completed (Access.canThingAccessGroup key groupId)

/-- The name of an operation in reports and counts. -/
def name : Operation → String
  | .createThings .. => "create_things"
  | .updateThing .. => "update_thing"
  | .updateThingsMetadata .. => "update_things_metadata"
  | .updateKey .. => "update_key"
  | .viewThing .. => "view_thing"
  | .viewMetadataByKey .. => "view_metadata_by_key"
  | .listThings .. => "list_things"
  | .listThingsByOrg .. => "list_things_by_org"
  | .listThingsByGroup .. => "list_things_by_group"
  | .listThingsByProfile .. => "list_things_by_profile"
  | .removeThings .. => "remove_things"
  | .identify .. => "identify"
  | .publisherConfigByKey .. => "get_pub_conf_by_key"
  | .groupIdOfThing .. => "get_group_id_by_thing_id"
  | .profileIdOfThing .. => "get_profile_id_by_thing_id"
  | .createProfiles .. => "create_profiles"
  | .updateProfile .. => "update_profile"
  | .viewProfile .. => "view_profile"
  | .viewProfileByThing .. => "view_profile_by_thing"
  | .listProfiles .. => "list_profiles"
  | .listProfilesByOrg .. => "list_profiles_by_org"
  | .listProfilesByGroup .. => "list_profiles_by_group"
  | .removeProfiles .. => "remove_profiles"
  | .configOfThing .. => "get_config_by_thing_id"
  | .groupIdOfProfile .. => "get_group_id_by_profile_id"
  | .createGroups .. => "create_groups"
  | .updateGroup .. => "update_group"
  | .viewGroup .. => "view_group"
  | .viewGroupByThing .. => "view_group_by_thing"
  | .viewGroupByProfile .. => "view_group_by_profile"
  | .listGroups .. => "list_groups"
  | .listGroupsByOrg .. => "list_groups_by_org"
  | .removeGroups .. => "remove_groups"
  | .createMemberships .. => "create_group_memberships"
  | .listMemberships .. => "list_group_memberships"
  | .updateMemberships .. => "update_group_memberships"
  | .removeMemberships .. => "remove_group_memberships"
  | .backup .. => "backup"
  | .backupGroupsByOrg .. => "backup_groups_by_org"
  | .backupThingsByOrg .. => "backup_things_by_org"
  | .backupProfilesByOrg .. => "backup_profiles_by_org"
  | .backupThingsByGroup .. => "backup_things_by_group"
  | .backupProfilesByGroup .. => "backup_profiles_by_group"
  | .backupMemberships .. => "backup_group_memberships"
  | .restore .. => "restore"
  | .canAccessThing .. => "can_user_access_thing"
  | .canAccessProfile .. => "can_user_access_profile"
  | .canAccessGroup .. => "can_user_access_group"
  | .canAccessOrg .. => "can_user_access_org"
  | .canThingAccessGroup .. => "can_thing_access_group"

end Operation

end DeviceFleet.Service
