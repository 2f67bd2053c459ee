/-
# What layers pass on

A layer around the service takes the calls of all operations.  It sees each of them under a name
and calls an operation of the service within.  Every layer has its own table for that.
-/
import DeviceFleet.Service.Operation

namespace DeviceFleet.Service

/-- What a layer makes of a call. -/
structure Passage where
  /-- The name under which the layer sees the call. -/
  method : String
  /-- What the layer calls within. -/
  inner : Operation
deriving DecidableEq

/-- What the layer that reports calls makes of them. -/
def loggingPassage : Operation → Passage
  | .createThings token things => ⟨"create_things", .createThings token things⟩
  | .updateThing token thing => ⟨"update_thing", .updateThing token thing⟩
  | .updateThingsMetadata token things =>
    ⟨"update_things_metadata", .updateThingsMetadata token things⟩
  | .updateKey token id key => ⟨"update_key", .updateKey token id key⟩
  | .viewThing token id => ⟨"view_thing", .viewThing token id⟩
  | .viewMetadataByKey key => ⟨"view_metadata_by_key", .viewMetadataByKey key⟩
  | .listThings token r => ⟨"list_things", .listThings token r⟩
  | .listThingsByOrg token orgId r => ⟨"list_things_by_org", .listThingsByOrg token orgId r⟩
  | .listThingsByGroup token groupId r =>
    ⟨"list_things_by_group", .listThingsByGroup token groupId r⟩
  | .listThingsByProfile token profileId r =>
    ⟨"list_things_by_profile", .listThingsByProfile token profileId r⟩
  | .removeThings token ids => ⟨"remove_things", .removeThings token ids⟩
  | .identify key => ⟨"identify", .identify key⟩
  | .publisherConfigByKey key => ⟨"get_pub_conf_by_key", .publisherConfigByKey key⟩
  | .groupIdOfThing thingId => ⟨"get_group_id_by_thing_id", .groupIdOfThing thingId⟩
  | .profileIdOfThing thingId => ⟨"get_profile_id_by_thing_id", .profileIdOfThing thingId⟩
  | .createProfiles token profiles => ⟨"create_profiles", .createProfiles token profiles⟩
  | .updateProfile token profile => ⟨"update_profile", .updateProfile token profile⟩
  | .viewProfile token id => ⟨"view_profile", .viewProfile token id⟩
  | .viewProfileByThing token thingId =>
    ⟨"view_profile_by_thing", .viewProfileByThing token thingId⟩
  | .listProfiles token r => ⟨"list_profiles", .listProfiles token r⟩
  | .listProfilesByOrg token orgId r => ⟨"list_profiles_by_org", .listProfilesByOrg token orgId r⟩
  | .listProfilesByGroup token groupId r =>
    ⟨"list_profiles_by_group", .listProfilesByGroup token groupId r⟩
  | .removeProfiles token ids => ⟨"remove_profiles", .removeProfiles token ids⟩
  | .configOfThing thingId => ⟨"get_config_by_thing_id", .configOfThing thingId⟩
  | .groupIdOfProfile profileId => ⟨"get_group_id_by_profile_id", .groupIdOfProfile profileId⟩
  | .createGroups token orgId groups => ⟨"create_groups", .createGroups token orgId groups⟩
  | .updateGroup token group => ⟨"update_group", .updateGroup token group⟩
  | .viewGroup token id => ⟨"view_group", .viewGroup token id⟩
  | .viewGroupByThing token thingId => ⟨"view_group_by_thing", .viewGroupByThing token thingId⟩
  | .viewGroupByProfile token profileId =>
    ⟨"view_group_by_profile", .viewGroupByProfile token profileId⟩
  | .listGroups token r => ⟨"list_groups", .listGroups token r⟩
  | .listGroupsByOrg token orgId r => ⟨"list_groups_by_org", .listGroupsByOrg token orgId r⟩
  | .removeGroups token ids => ⟨"remove_groups", .removeGroups token ids⟩
  | .createMemberships token groupId members =>
    ⟨"create_group_memberships", .createMemberships token groupId members⟩
  | .listMemberships token groupId r => ⟨"list_group_memberships", .listMemberships token groupId r⟩
  | .updateMemberships token groupId members =>
    ⟨"update_group_memberships", .updateMemberships token groupId members⟩
  | .removeMemberships token groupId memberIds =>
    ⟨"remove_group_memberships", .removeMemberships token groupId memberIds⟩
  | .backup token => ⟨"backup", .backup token⟩
  | .backupGroupsByOrg token orgId => ⟨"backup_groups_by_org", .backupGroupsByOrg token orgId⟩
  | .backupThingsByOrg token orgId => ⟨"backup_things_by_org", .backupThingsByOrg token orgId⟩
  | .backupProfilesByOrg token orgId => ⟨"backup_profiles_by_org", .backupProfilesByOrg token orgId⟩
  | .backupThingsByGroup token groupId =>
    ⟨"backup_things_by_group", .backupThingsByGroup token groupId⟩
  | .backupProfilesByGroup token groupId =>
    ⟨"backup_profiles_by_group", .backupProfilesByGroup token groupId⟩
  | .backupMemberships token groupId =>
    ⟨"backup_group_memberships", .backupMemberships token groupId⟩
  | .restore token backup => ⟨"restore", .restore token backup⟩
  | .canAccessThing token thingId action =>
    ⟨"can_user_access_thing", .canAccessThing token thingId action⟩
  | .canAccessProfile token profileId action =>
    ⟨"can_user_access_profile", .canAccessProfile token profileId action⟩
  | .canAccessGroup token groupId action =>
    ⟨"can_user_access_group", .canAccessGroup token groupId action⟩
  | .canAccessOrg token orgId action => ⟨"can_user_access_org", .canAccessOrg token orgId action⟩
  | .canThingAccessGroup key groupId => ⟨"can_thing_access_group", .canThingAccessGroup key groupId⟩

/-- What the layer that counts calls makes of them. -/
def meteringPassage : Operation → Passage
  | .createThings token things => ⟨"create_things", .createThings token things⟩
  | .updateThing token thing => ⟨"update_thing", .updateThing token thing⟩
  | .updateThingsMetadata token things =>
    ⟨"update_things_metadata", .updateThingsMetadata token things⟩
  | .updateKey token id key => ⟨"update_key", .updateKey token id key⟩
  | .viewThing token id => ⟨"view_thing", .viewThing token id⟩
  | .viewMetadataByKey key => ⟨"view_metadata_by_key", .viewMetadataByKey key⟩
  | .listThings token r => ⟨"list_things", .listThings token r⟩
  | .listThingsByOrg token orgId r => ⟨"list_things_by_org", .listThingsByOrg token orgId r⟩
  | .listThingsByGroup token groupId r =>
    ⟨"list_things_by_group", .listThingsByGroup token groupId r⟩
  | .listThingsByProfile token profileId r =>
    ⟨"list_things_by_profile", .listThingsByProfile token profileId r⟩
  | .removeThings token ids => ⟨"remove_things", .removeThings token ids⟩
  | .identify key => ⟨"identify", .identify key⟩
  | .publisherConfigByKey key => ⟨"get_pub_conf_by_key", .publisherConfigByKey key⟩
  | .groupIdOfThing thingId => ⟨"get_group_id_by_thing_id", .groupIdOfThing thingId⟩
  | .profileIdOfThing thingId => ⟨"get_profile_id_by_thing_id", .profileIdOfThing thingId⟩
  | .createProfiles token profiles => ⟨"create_profiles", .createProfiles token profiles⟩
  | .updateProfile token profile => ⟨"update_profile", .updateProfile token profile⟩
  | .viewProfile token id => ⟨"view_profile", .viewProfile token id⟩
  | .viewProfileByThing token thingId =>
    ⟨"view_profile_by_thing", .viewProfileByThing token thingId⟩
  | .listProfiles token r => ⟨"list_profiles", .listProfiles token r⟩
  | .listProfilesByOrg token orgId r => ⟨"list_profiles_by_org", .listProfilesByOrg token orgId r⟩
  | .listProfilesByGroup token groupId r =>
    ⟨"list_profiles_by_group", .listProfilesByGroup token groupId r⟩
  | .removeProfiles token ids => ⟨"remove_profiles", .removeProfiles token ids⟩
  | .configOfThing thingId => ⟨"get_config_by_thing_id", .configOfThing thingId⟩
  | .groupIdOfProfile profileId => ⟨"get_group_id_by_profile_id", .groupIdOfProfile profileId⟩
  | .createGroups token orgId groups => ⟨"create_groups", .createGroups token orgId groups⟩
  | .updateGroup token group => ⟨"update_group", .updateGroup token group⟩
  | .viewGroup token id => ⟨"view_group", .viewGroup token id⟩
  | .viewGroupByThing token thingId => ⟨"view_group_by_thing", .viewGroupByThing token thingId⟩
  | .viewGroupByProfile token profileId =>
    ⟨"view_group_by_profile", .viewGroupByProfile token profileId⟩
  | .listGroups token r => ⟨"list_groups", .listGroups token r⟩
  | .listGroupsByOrg token orgId r => ⟨"list_groups_by_org", .listGroupsByOrg token orgId r⟩
  | .removeGroups token ids => ⟨"remove_groups", .removeGroups token ids⟩
  | .createMemberships token groupId members =>
    ⟨"create_group_memberships", .createMemberships token groupId members⟩
  | .listMemberships token groupId r => ⟨"list_group_memberships", .listMemberships token groupId r⟩
  | .updateMemberships token groupId members =>
    ⟨"update_group_memberships", .updateMemberships token groupId members⟩
  | .removeMemberships token groupId memberIds =>
    ⟨"remove_group_memberships", .removeMemberships token groupId memberIds⟩
  | .backup token => ⟨"backup", .backup token⟩
  | .backupGroupsByOrg token orgId => ⟨"backup_groups_by_org", .backupGroupsByOrg token orgId⟩
  | .backupThingsByOrg token orgId => ⟨"backup_things_by_org", .backupThingsByOrg token orgId⟩
  | .backupProfilesByOrg token orgId => ⟨"backup_profiles_by_org", .backupProfilesByOrg token orgId⟩
  | .backupThingsByGroup token groupId =>
    ⟨"backup_things_by_group", .backupThingsByGroup token groupId⟩
  | .backupProfilesByGroup token groupId =>
    ⟨"backup_profiles_by_group", .backupProfilesByGroup token groupId⟩
  | .backupMemberships token groupId =>
    ⟨"backup_group_memberships", .backupMemberships token groupId⟩
  | .restore token backup => ⟨"restore", .restore token backup⟩
  | .canAccessThing token thingId action =>
    ⟨"can_user_access_thing", .canAccessThing token thingId action⟩
  | .canAccessProfile token profileId action =>
    ⟨"can_user_access_profile", .canAccessProfile token profileId action⟩
  | .canAccessGroup token groupId action =>
    ⟨"can_user_access_group", .canAccessGroup token groupId action⟩
  | .canAccessOrg token orgId action => ⟨"can_user_access_org", .canAccessOrg token orgId action⟩
  | .canThingAccessGroup key groupId => ⟨"can_thing_access_group", .canThingAccessGroup key groupId⟩

end DeviceFleet.Service
