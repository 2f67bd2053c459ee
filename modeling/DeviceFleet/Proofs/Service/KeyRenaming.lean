/-
# Operations that do not look at keys

Every operation corresponds to itself with other keys in its arguments.  The proofs follow the
operations step by step; what has to be said at a step is which keys are in its arguments and in
its answer.  Where nothing is said, as at a decision or at a report, there are none.
-/
import DeviceFleet.Proofs.Action.KeyRenaming
import DeviceFleet.Proofs.Service.Owners
import DeviceFleet.Proofs.Service.Restore
import DeviceFleet.Service.Profiles

namespace DeviceFleet

open DeviceFleet.Action

variable {ρ : KeyRenaming}

namespace Access

variable {α β : Type}

/-! ## Finding owners -/

lemma corresponds_remembered (kind : CacheKind) (found : Except CacheError (Option α)) :
    Corresponds ρ id (remembered kind found) (remembered kind found) := by
  rcases found with e | hit
  · exact (corresponds_report _ _ _ _).bind fun _ => corresponds_pure id none
  · exact corresponds_pure id hit

/-- Look-ups through a cache correspond when the look-ups in the cache do, the questions to the
store do, and the same is remembered. -/
lemma corresponds_resolve {kind : CacheKind} {cache : Caches → Lookaside α}
    {find find' : α → Option β} {method : Store.Method} {query query' : Store → Except StoreError β}
    {remember remember' : β → Action Unit}
    (hlookUp : Corresponds ρ id (lookUp kind cache find) (lookUp kind cache find'))
    (hask : Corresponds ρ id (ask method query) (ask method query'))
    (hremember : ∀ b, Corresponds ρ id (remember b) (remember' b)) :
    Corresponds ρ id (resolve kind cache find method query remember)
      (resolve kind cache find' method query' remember') := by
  refine hlookUp.bind fun found => (corresponds_remembered kind found).bind fun hit => ?_
  cases hit with
  | none => exact hask.bind fun b => (hremember b).bind fun _ => corresponds_pure id b
  | some b => exact corresponds_pure id b

/-- Another key finds the same thing. -/
lemma corresponds_identify (key : String) :
    Corresponds ρ id (identify key) (identify (ρ key)) := by
  rw [identify_eq, identify_eq]
  refine corresponds_resolve ?_ ?_ fun thingId => ?_
  · exact corresponds_lookUp (fun h => h.things) fun h => h.id?_eq key
  · exact corresponds_ask_eq fun h => h.findThingId key
  · exact (corresponds_changeThingCache fun h => h.save key thingId).bind fun _ =>
      corresponds_report _ _ _ _

lemma corresponds_groupIdOfThing (thingId : String) :
    Corresponds ρ id (groupIdOfThing thingId) (groupIdOfThing thingId) := by
  rw [groupIdOfThing_eq]
  refine corresponds_resolve ?_ ?_ fun groupId => ?_
  · exact corresponds_lookUp (fun h => h.things) fun h => h.group?_eq thingId
  · refine corresponds_ask_eq fun {a b} h => ?_
    rw [h.findThing thingId]
    rcases a.findThing thingId with e | t <;> rfl
  · exact (corresponds_changeThingCache fun h => h.saveGroup thingId groupId).bind fun _ =>
      corresponds_report _ _ _ _

lemma corresponds_groupIdOfProfile (profileId : String) :
    Corresponds ρ id (groupIdOfProfile profileId) (groupIdOfProfile profileId) := by
  rw [groupIdOfProfile_eq]
  refine corresponds_resolve ?_ ?_ fun groupId => ?_
  · exact corresponds_lookUp (r := Eq) (fun h => h.profiles ▸ .refl (fun _ => rfl) _)
      fun h => by rw [h]
  · exact corresponds_ask_same fun _ => rfl
  · exact (corresponds_changeProfileCache _).bind fun _ => corresponds_report _ _ _ _

lemma corresponds_groupIdsOfMember (memberId : String) :
    Corresponds ρ id (groupIdsOfMember memberId) (groupIdsOfMember memberId) := by
  rw [groupIdsOfMember_eq]
  refine corresponds_resolve ?_ ?_ fun groupIds => ?_
  · exact corresponds_lookUp (r := Eq) (fun h => h.groups ▸ .refl (fun _ => rfl) _)
      fun h => by rw [h]
  · exact corresponds_ask_same fun _ => rfl
  · exact corresponds_changeMemberCache _

/-! ## Permissions -/

lemma corresponds_isAdmin (token : String) : Corresponds ρ id (isAdmin token) (isAdmin token) :=
  corresponds_authorize (.root token)

lemma corresponds_canAccess (subject : Subject) (denied token object : String) (action : Role) :
    Corresponds ρ id (canAccess subject denied token object action)
      (canAccess subject denied token object action) := by
  refine (corresponds_isAdmin token).attempt.bind fun admin => ?_
  rcases admin with _ | _
  · refine (corresponds_authorize _).attempt.bind fun granted => ?_
    rcases granted with e | _
    · exact (corresponds_report _ _ _ _).bind fun _ => corresponds_throw id e
    · exact corresponds_pure id ()
  · exact corresponds_pure id ()

lemma corresponds_canAccessGroup (token groupId : String) (action : Role) :
    Corresponds ρ id (canAccessGroup token groupId action) (canAccessGroup token groupId action) :=
  corresponds_canAccess _ _ token groupId action

lemma corresponds_canAccessOrg (token orgId : String) (action : Role) :
    Corresponds ρ id (canAccessOrg token orgId action) (canAccessOrg token orgId action) :=
  corresponds_canAccess _ _ token orgId action

lemma corresponds_canAccessThing (token thingId : String) (action : Role) :
    Corresponds ρ id (canAccessThing token thingId action) (canAccessThing token thingId action) :=
  (corresponds_groupIdOfThing thingId).bind fun groupId =>
    corresponds_canAccessGroup token groupId action

lemma corresponds_canAccessProfile (token profileId : String) (action : Role) :
    Corresponds ρ id (canAccessProfile token profileId action)
      (canAccessProfile token profileId action) :=
  (corresponds_groupIdOfProfile profileId).bind fun groupId =>
    corresponds_canAccessGroup token groupId action

lemma corresponds_canThingAccessGroup (key groupId : String) :
    Corresponds ρ id (canThingAccessGroup key groupId) (canThingAccessGroup (ρ key) groupId) := by
  refine (corresponds_identify key).bind fun thingId => ?_
  refine (corresponds_groupIdOfThing thingId).bind fun owner => ?_
  exact .ite Iff.rfl ((corresponds_report _ _ _ _).bind fun _ => corresponds_throw id _)
    (corresponds_pure id ())

end Access

namespace Service

open DeviceFleet.Access

variable {α α' : Type} {f : α → α'}

/-! ## Scopes -/

lemma corresponds_memberGroupIds (token : String) :
    Corresponds ρ id (memberGroupIds token) (memberGroupIds token) :=
  (corresponds_identifyCaller token).bind fun identity => corresponds_groupIdsOfMember identity.id

lemma corresponds_orgGroupIds (token orgId : String) :
    Corresponds ρ id (orgGroupIds token orgId) (orgGroupIds token orgId) := by
  refine (corresponds_isAdmin token).attempt.bind fun admin => ?_
  rcases admin with _ | _
  · refine (corresponds_canAccessOrg token orgId .viewer).bind fun _ => ?_
    exact (corresponds_identifyCaller token).bind fun _ => corresponds_ask_same fun _ => rfl
  · exact corresponds_ask_same fun _ => rfl

/-- Lists correspond when the lists of everything and the lists of some groups do. -/
lemma corresponds_listScoped {everything : Action α} {everything' : Action α'}
    {ofGroups : List String → Action α} {ofGroups' : List String → Action α'} (token : String)
    (heverything : Corresponds ρ f everything everything')
    (hofGroups : ∀ groupIds, Corresponds ρ f (ofGroups groupIds) (ofGroups' groupIds)) :
    Corresponds ρ f (listScoped token everything ofGroups)
      (listScoped token everything' ofGroups') := by
  refine (corresponds_isAdmin token).attempt.bind fun admin => ?_
  rcases admin with _ | _
  · exact (corresponds_memberGroupIds token).bind hofGroups
  · exact heverything

/-! ## Things -/

lemma corresponds_ensureProfileInGroup (profileId groupId : String) :
    Corresponds ρ id (ensureProfileInGroup profileId groupId)
      (ensureProfileInGroup profileId groupId) := by
  refine (corresponds_groupIdOfProfile profileId).bind fun owner => ?_
  exact .ite Iff.rfl ((corresponds_report _ _ _ _).bind fun _ => corresponds_throw id _)
    (corresponds_pure id ())

lemma corresponds_orNewId (s : String) : Corresponds ρ id (orNewId s) (orNewId s) :=
  .ite Iff.rfl (corresponds_newId fun _ _ => rfl) (corresponds_pure id s)

/-- A new key is a new identifier, and so it is the same key. -/
lemma corresponds_orNewKey (key : String) : Corresponds ρ ρ (orNewId key) (orNewId (ρ key)) :=
  .ite KeyRenaming.rename_eq_empty_iff (corresponds_newId fun h hid => h.newId hid)
    (corresponds_pure ρ key)

lemma corresponds_prepareThing (token : String) (t : Thing) :
    Corresponds ρ ρ.thing (prepareThing token t) (prepareThing token (ρ.thing t)) := by
  unfold prepareThing
  refine .check Iff.rfl ?_
  refine .check Iff.rfl ?_
  refine (corresponds_canAccessGroup token t.groupId .editor).bind fun _ => ?_
  refine (corresponds_ensureProfileInGroup t.profileId t.groupId).bind fun _ => ?_
  refine (corresponds_orNewId t.id).bind fun id => ?_
  refine (corresponds_orNewKey t.key).bind fun key => ?_
  exact corresponds_pure ρ.thing { t with id := id, key := key }

lemma corresponds_createThings (token : String) (things : List Thing) :
    Corresponds ρ (List.map ρ.thing) (createThings token things)
      (createThings token (things.map ρ.thing)) := by
  refine .ite List.map_eq_nil_iff (corresponds_pure _ []) ?_
  refine (Corresponds.mapM (corresponds_prepareThing token) things).bind fun prepared => ?_
  refine (corresponds_storeBatch rfl fun h => h.saveThings prepared).bind fun saved => ?_
  refine .check List.map_eq_nil_iff ?_
  -- the report tells how many things were made
  rw [List.length_map]
  exact (corresponds_report _ _ _ _).bind fun _ => corresponds_pure _ saved

lemma corresponds_updateThing (token : String) (t : Thing) :
    Corresponds ρ id (updateThing token t) (updateThing token (ρ.thing t)) := by
  refine (corresponds_canAccessThing token t.id .editor).bind fun _ => ?_
  refine (corresponds_groupIdOfThing t.id).bind fun groupId => ?_
  refine (corresponds_ensureProfileInGroup t.profileId groupId).bind fun _ => ?_
  exact corresponds_change fun h => h.updateThing t

lemma corresponds_mergeMetadata (token : String) (t : Thing) :
    Corresponds ρ id (mergeMetadata token t) (mergeMetadata token (ρ.thing t)) := by
  refine (corresponds_canAccessThing token t.id .editor).bind fun _ => ?_
  refine (corresponds_ask fun h => h.findThing t.id).bind fun current => ?_
  exact corresponds_change fun h =>
    h.updateThing { current with metadata := current.metadata.merge t.metadata }

lemma corresponds_updateThingsMetadata (token : String) (things : List Thing) :
    Corresponds ρ id (updateThingsMetadata token things)
      (updateThingsMetadata token (things.map ρ.thing)) :=
  .forM (corresponds_mergeMetadata token) things

lemma corresponds_updateKey (token thingId key : String) :
    Corresponds ρ id (updateKey token thingId key) (updateKey token thingId (ρ key)) := by
  refine (corresponds_canAccessThing token thingId .editor).bind fun _ => ?_
  refine (corresponds_change fun h => h.updateKey thingId key).bind fun _ => ?_
  exact corresponds_changeThingCache fun h => h.remove thingId

lemma corresponds_viewThing (token thingId : String) :
    Corresponds ρ ρ.thing (viewThing token thingId) (viewThing token thingId) :=
  (corresponds_canAccessThing token thingId .viewer).bind fun _ =>
    corresponds_ask fun h => h.findThing thingId

lemma corresponds_viewMetadataByKey (key : String) :
    Corresponds ρ id (viewMetadataByKey key) (viewMetadataByKey (ρ key)) := by
  refine (corresponds_identify key).bind fun thingId => ?_
  refine (corresponds_ask fun h => h.findThing thingId).bind fun t => ?_
  exact corresponds_pure id t.metadata

lemma corresponds_thingsOfGroups (r : PageRequest) (groupIds : List String) :
    Corresponds ρ ρ.page (thingsOfGroups r groupIds) (thingsOfGroups r groupIds) :=
  corresponds_ask fun h => congrArg Except.ok (h.listThingsOfGroups groupIds r)

lemma corresponds_listThings (token : String) (r : PageRequest) :
    Corresponds ρ ρ.page (listThings token r) (listThings token r) :=
  corresponds_listScoped token (corresponds_ask fun h => congrArg Except.ok (h.listThings r))
    (corresponds_thingsOfGroups r)

lemma corresponds_listThingsByOrg (token orgId : String) (r : PageRequest) :
    Corresponds ρ ρ.page (listThingsByOrg token orgId r) (listThingsByOrg token orgId r) :=
  (corresponds_orgGroupIds token orgId).bind fun groupIds => corresponds_thingsOfGroups r groupIds

lemma corresponds_listThingsByGroup (token groupId : String) (r : PageRequest) :
    Corresponds ρ ρ.page (listThingsByGroup token groupId r) (listThingsByGroup token groupId r) :=
  (corresponds_canAccessGroup token groupId .viewer).bind fun _ =>
    corresponds_thingsOfGroups r [groupId]

lemma corresponds_listThingsByProfile (token profileId : String) (r : PageRequest) :
    Corresponds ρ ρ.page (listThingsByProfile token profileId r)
      (listThingsByProfile token profileId r) :=
  (corresponds_canAccessProfile token profileId .viewer).bind fun _ =>
    corresponds_ask fun h => congrArg Except.ok (h.listThingsOfProfile profileId r)

lemma corresponds_forgetThing (token thingId : String) :
    Corresponds ρ id (forgetThing token thingId) (forgetThing token thingId) := by
  refine (corresponds_canAccessThing token thingId .editor).bind fun _ => ?_
  refine (corresponds_changeThingCache fun h => h.remove thingId).bind fun _ => ?_
  exact corresponds_changeThingCache fun h => h.removeGroup thingId

lemma corresponds_removeThings (token : String) (ids : List String) :
    Corresponds ρ id (removeThings token ids) (removeThings token ids) := by
  refine (corresponds_forM (corresponds_forgetThing token) ids).bind fun _ => ?_
  refine (corresponds_change fun h => (h.removeThings ids).granted id ()).bind fun _ => ?_
  exact corresponds_report _ _ _ _

lemma corresponds_publisherConfigByKey (key : String) :
    Corresponds ρ id (publisherConfigByKey key) (publisherConfigByKey (ρ key)) := by
  refine (corresponds_identify key).bind fun thingId => ?_
  refine (corresponds_ask_eq fun h => h.findProfileOfThing thingId).bind fun profile => ?_
  exact corresponds_pure id (PublisherConfig.mk thingId profile.config)

lemma corresponds_profileIdOfThing (thingId : String) :
    Corresponds ρ id (profileIdOfThing thingId) (profileIdOfThing thingId) :=
  (corresponds_ask fun h => h.findThing thingId).bind fun t => corresponds_pure id t.profileId

/-! ## Profiles -/

lemma corresponds_prepareProfile (token : String) (p : Profile) :
    Corresponds ρ id (prepareProfile token p) (prepareProfile token p) := by
  unfold prepareProfile
  refine .check Iff.rfl ?_
  refine (corresponds_canAccessGroup token p.groupId .editor).bind fun _ => ?_
  refine (corresponds_orNewId p.id).bind fun profileId => ?_
  exact corresponds_pure id { p with id := profileId }

lemma corresponds_createProfiles (token : String) (profiles : List Profile) :
    Corresponds ρ id (createProfiles token profiles) (createProfiles token profiles) := by
  refine .ite Iff.rfl (corresponds_pure id []) ?_
  refine (corresponds_mapM (corresponds_prepareProfile token) profiles).bind fun prepared => ?_
  refine (corresponds_storeBatch rfl fun h => h.saveProfiles prepared).bind fun saved => ?_
  refine .check Iff.rfl ?_
  exact (corresponds_report _ _ _ _).bind fun _ => corresponds_pure id saved

lemma corresponds_updateProfile (token : String) (p : Profile) :
    Corresponds ρ id (updateProfile token p) (updateProfile token p) :=
  (corresponds_canAccessProfile token p.id .editor).bind fun _ =>
    corresponds_change fun h => h.updateProfile p

lemma corresponds_viewProfile (token profileId : String) :
    Corresponds ρ id (viewProfile token profileId) (viewProfile token profileId) :=
  (corresponds_canAccessProfile token profileId .viewer).bind fun _ =>
    corresponds_ask_same fun _ => rfl

lemma corresponds_viewProfileByThing (token thingId : String) :
    Corresponds ρ id (viewProfileByThing token thingId) (viewProfileByThing token thingId) :=
  (corresponds_canAccessThing token thingId .viewer).bind fun _ =>
    corresponds_ask_eq fun h => h.findProfileOfThing thingId

lemma corresponds_profilesOfGroups (r : PageRequest) (groupIds : List String) :
    Corresponds ρ id (profilesOfGroups r groupIds) (profilesOfGroups r groupIds) :=
  corresponds_ask_same fun _ => rfl

lemma corresponds_listProfiles (token : String) (r : PageRequest) :
    Corresponds ρ id (listProfiles token r) (listProfiles token r) :=
  corresponds_listScoped token (corresponds_ask_same fun _ => rfl) (corresponds_profilesOfGroups r)

lemma corresponds_listProfilesByOrg (token orgId : String) (r : PageRequest) :
    Corresponds ρ id (listProfilesByOrg token orgId r) (listProfilesByOrg token orgId r) :=
  (corresponds_orgGroupIds token orgId).bind fun groupIds =>
    corresponds_profilesOfGroups r groupIds

lemma corresponds_listProfilesByGroup (token groupId : String) (r : PageRequest) :
    Corresponds ρ id (listProfilesByGroup token groupId r) (listProfilesByGroup token groupId r) :=
  (corresponds_canAccessGroup token groupId .viewer).bind fun _ =>
    corresponds_profilesOfGroups r [groupId]

lemma corresponds_forgetProfile (token profileId : String) :
    Corresponds ρ id (forgetProfile token profileId) (forgetProfile token profileId) :=
  (corresponds_canAccessProfile token profileId .editor).bind fun _ =>
    corresponds_changeProfileCache _

lemma corresponds_removeProfiles (token : String) (ids : List String) :
    Corresponds ρ id (removeProfiles token ids) (removeProfiles token ids) := by
  refine (corresponds_forM (corresponds_forgetProfile token) ids).bind fun _ => ?_
  refine (corresponds_changeAlong fun walk _ _ h => h.removeProfiles walk ids).bind fun _ => ?_
  exact corresponds_report _ _ _ _

lemma corresponds_configOfThing (thingId : String) :
    Corresponds ρ id (configOfThing thingId) (configOfThing thingId) :=
  (corresponds_ask_eq fun h => h.findProfileOfThing thingId).bind fun profile =>
    corresponds_pure id profile.config

/-! ## Groups -/

lemma corresponds_forgetMember (memberId : String) :
    Corresponds ρ id (forgetMember memberId) (forgetMember memberId) :=
  corresponds_changeMemberCache _

lemma corresponds_createGroup (orgId ownerId : String) (g : Group) :
    Corresponds ρ id (createGroup orgId ownerId g) (createGroup orgId ownerId g) := by
  refine (corresponds_orNewId g.id).bind fun groupId => ?_
  refine corresponds_now.bind fun time => ?_
  refine (corresponds_change fun h => h.saveGroup _).bind fun group => ?_
  refine corresponds_now.bind fun later => ?_
  refine (corresponds_change fun h => h.saveMemberships _).bind fun _ => ?_
  exact (corresponds_forgetMember ownerId).bind fun _ => corresponds_pure id group

lemma corresponds_createGroups (token orgId : String) (groups : List Group) :
    Corresponds ρ id (createGroups token orgId groups) (createGroups token orgId groups) := by
  unfold createGroups
  refine .check Iff.rfl ?_
  refine (corresponds_canAccessOrg token orgId .editor).bind fun _ => ?_
  refine (corresponds_identifyCaller token).bind fun creator => ?_
  refine (corresponds_mapM (corresponds_createGroup orgId creator.id) groups).bind fun created => ?_
  exact (corresponds_report _ _ _ _).bind fun _ => corresponds_pure id created

lemma corresponds_updateGroup (token : String) (g : Group) :
    Corresponds ρ id (updateGroup token g) (updateGroup token g) := by
  refine (corresponds_canAccessGroup token g.id .editor).bind fun _ => ?_
  exact corresponds_now.bind fun time => corresponds_change fun h => h.updateGroup _

lemma corresponds_findGroup (groupId : String) :
    Corresponds ρ id (findGroup groupId) (findGroup groupId) :=
  corresponds_ask_same fun _ => rfl

lemma corresponds_viewGroup (token groupId : String) :
    Corresponds ρ id (viewGroup token groupId) (viewGroup token groupId) :=
  (corresponds_canAccessGroup token groupId .viewer).bind fun _ => corresponds_findGroup groupId

lemma corresponds_viewGroupByThing (token thingId : String) :
    Corresponds ρ id (viewGroupByThing token thingId) (viewGroupByThing token thingId) := by
  refine (corresponds_canAccessThing token thingId .viewer).bind fun _ => ?_
  exact (corresponds_groupIdOfThing thingId).bind fun groupId => corresponds_findGroup groupId

lemma corresponds_viewGroupByProfile (token profileId : String) :
    Corresponds ρ id (viewGroupByProfile token profileId) (viewGroupByProfile token profileId) := by
  refine (corresponds_canAccessProfile token profileId .viewer).bind fun _ => ?_
  exact (corresponds_groupIdOfProfile profileId).bind fun groupId => corresponds_findGroup groupId

lemma corresponds_groupsWithIds (r : PageRequest) (ids : List String) :
    Corresponds ρ id (groupsWithIds r ids) (groupsWithIds r ids) :=
  corresponds_ask_same fun _ => rfl

lemma corresponds_listGroups (token : String) (r : PageRequest) :
    Corresponds ρ id (listGroups token r) (listGroups token r) :=
  corresponds_listScoped token (corresponds_ask_same fun _ => rfl) (corresponds_groupsWithIds r)

lemma corresponds_listGroupsByOrg (token orgId : String) (r : PageRequest) :
    Corresponds ρ id (listGroupsByOrg token orgId r) (listGroupsByOrg token orgId r) :=
  (corresponds_orgGroupIds token orgId).bind fun ids => corresponds_groupsWithIds r ids

/-- Of a thing with another key the same is forgotten. -/
lemma corresponds_forgetThings (things : List Thing) :
    Corresponds ρ id
      (things.forM fun t => do
        changeThingCache (ResourceCache.remove t.id)
        changeThingCache (ResourceCache.removeGroup t.id))
      ((things.map ρ.thing).forM fun t => do
        changeThingCache (ResourceCache.remove t.id)
        changeThingCache (ResourceCache.removeGroup t.id)) := by
  refine .forM (fun t => ?_) things
  refine (corresponds_changeThingCache fun h => h.remove t.id).bind fun _ => ?_
  exact corresponds_changeThingCache fun h => h.removeGroup t.id

lemma corresponds_purgeGroup (groupId : String) :
    Corresponds ρ id (purgeGroup groupId) (purgeGroup groupId) := by
  unfold purgeGroup
  refine .bind (corresponds_ask fun h => congrArg Except.ok (h.exportThingsOfGroups [groupId]))
    fun things => ?_
  refine (corresponds_forgetThings things).bind fun _ => ?_
  refine .bind (corresponds_ask_same fun _ => rfl) fun profiles => ?_
  refine .bind (corresponds_forM (fun p => corresponds_changeProfileCache _) profiles) fun _ => ?_
  refine .bind (corresponds_ask_same fun _ => rfl) fun memberships => ?_
  refine .bind (corresponds_forM (fun m => ?_) memberships) fun _ => ?_
  · exact corresponds_forgetMember m.memberId
  · exact corresponds_changeMemberCache _

lemma corresponds_removeGroups (token : String) (ids : List String) :
    Corresponds ρ id (removeGroups token ids) (removeGroups token ids) := by
  refine (corresponds_forM (fun groupId =>
    corresponds_canAccessGroup token groupId .owner) ids).bind fun _ => ?_
  refine (corresponds_forM corresponds_purgeGroup ids).bind fun _ => ?_
  refine (corresponds_change fun h => (h.removeGroups ids).granted id ()).bind fun _ => ?_
  exact corresponds_report _ _ _ _

/-! ## Memberships -/

lemma corresponds_resolveEmails (memberships : List Membership) :
    Corresponds ρ id (resolveEmails memberships) (resolveEmails memberships) :=
  .ite Iff.rfl (corresponds_pure id []) <|
    (corresponds_findUsers _).bind fun _ => corresponds_pure id _

lemma corresponds_grantAll (groupId : String) (members : List MemberRole) :
    Corresponds ρ id (grantAll groupId members) (grantAll groupId members) :=
  corresponds_mapM (fun m => corresponds_now.bind fun time =>
    corresponds_pure id (Membership.granted groupId m.memberId m.role time)) members

lemma corresponds_createMemberships (token groupId : String) (members : List MemberRole) :
    Corresponds ρ id (createMemberships token groupId members)
      (createMemberships token groupId members) := by
  refine (corresponds_canAccessGroup token groupId .admin).bind fun _ => ?_
  refine (corresponds_findGroup groupId).bind fun _ => ?_
  refine (corresponds_grantAll groupId members).bind fun memberships => ?_
  refine (corresponds_change fun h => h.saveMemberships memberships).bind fun _ => ?_
  refine corresponds_forM (fun m => ?_) members
  exact corresponds_forgetMember m.memberId

lemma corresponds_listMemberships (token groupId : String) (r : PageRequest) :
    Corresponds ρ id (listMemberships token groupId r) (listMemberships token groupId r) := by
  refine (corresponds_canAccessGroup token groupId .viewer).bind fun _ => ?_
  refine (corresponds_ask_same fun _ => rfl).bind fun page => ?_
  exact (corresponds_resolveEmails page.items).bind fun items =>
    corresponds_pure id (page.withItems items)

lemma corresponds_updateMemberships (token groupId : String) (members : List MemberRole) :
    Corresponds ρ id (updateMemberships token groupId members)
      (updateMemberships token groupId members) := by
  refine (corresponds_canAccessGroup token groupId .admin).bind fun _ => ?_
  refine (corresponds_grantAll groupId members).bind fun memberships => ?_
  refine (corresponds_change fun h => h.updateMemberships memberships).bind fun _ => ?_
  refine corresponds_forM (fun m => ?_) members
  exact corresponds_forgetMember m.memberId

lemma corresponds_removeMemberships (token groupId : String) (memberIds : List String) :
    Corresponds ρ id (removeMemberships token groupId memberIds)
      (removeMemberships token groupId memberIds) := by
  refine (corresponds_canAccessGroup token groupId .admin).bind fun _ => ?_
  refine (corresponds_change fun h =>
    (h.removeMemberships groupId memberIds).granted id ()).bind fun _ => ?_
  exact corresponds_forM corresponds_forgetMember memberIds

/-! ## Backups -/

/-- As many things are in a backup with other keys. -/
lemma backupSizes_backup (ρ : KeyRenaming) (b : Backup) :
    backupSizes (ρ.backup b) = backupSizes b := by
  simp [backupSizes, KeyRenaming.backup]

lemma corresponds_reportSizes (message : String) (b : Backup) :
    Corresponds ρ id (report .info backupTarget message (backupSizes b))
      (report .info backupTarget message (backupSizes (ρ.backup b))) := by
  rw [backupSizes_backup]
  exact corresponds_report _ _ _ _

lemma corresponds_backup (token : String) :
    Corresponds ρ ρ.backup (backup token) (backup token) := by
  refine (corresponds_isAdmin token).bind fun _ => ?_
  refine .bind (corresponds_ask_same fun _ => rfl) fun groups => ?_
  refine .bind (corresponds_ask fun h => congrArg Except.ok h.exportThings) fun things => ?_
  refine .bind (corresponds_ask_same fun _ => rfl) fun profiles => ?_
  refine .bind (corresponds_ask_same fun _ => rfl) fun memberships => ?_
  refine (corresponds_resolveEmails memberships).bind fun resolved => ?_
  exact (corresponds_reportSizes _ ⟨groups, things, profiles, resolved⟩).bind fun _ =>
    corresponds_pure ρ.backup _

lemma corresponds_orgScope (token orgId : String) :
    Corresponds ρ id (orgScope token orgId) (orgScope token orgId) :=
  (corresponds_canAccessOrg token orgId .owner).bind fun _ => corresponds_ask_same fun _ => rfl

lemma corresponds_backupGroupsByOrg (token orgId : String) :
    Corresponds ρ id (backupGroupsByOrg token orgId) (backupGroupsByOrg token orgId) :=
  (corresponds_canAccessOrg token orgId .owner).bind fun _ => corresponds_ask_same fun _ => rfl

lemma corresponds_backupThingsByOrg (token orgId : String) :
    Corresponds ρ (List.map ρ.thing) (backupThingsByOrg token orgId)
      (backupThingsByOrg token orgId) :=
  (corresponds_orgScope token orgId).bind fun groupIds =>
    corresponds_ask fun h => congrArg Except.ok (h.exportThingsOfGroups groupIds)

lemma corresponds_backupProfilesByOrg (token orgId : String) :
    Corresponds ρ id (backupProfilesByOrg token orgId) (backupProfilesByOrg token orgId) :=
  (corresponds_orgScope token orgId).bind fun _ => corresponds_ask_same fun _ => rfl

lemma corresponds_backupThingsByGroup (token groupId : String) :
    Corresponds ρ (List.map ρ.thing) (backupThingsByGroup token groupId)
      (backupThingsByGroup token groupId) :=
  (corresponds_canAccessGroup token groupId .owner).bind fun _ =>
    corresponds_ask fun h => congrArg Except.ok (h.exportThingsOfGroups [groupId])

lemma corresponds_backupProfilesByGroup (token groupId : String) :
    Corresponds ρ id (backupProfilesByGroup token groupId) (backupProfilesByGroup token groupId) :=
  (corresponds_canAccessGroup token groupId .owner).bind fun _ => corresponds_ask_same fun _ => rfl

lemma corresponds_backupMemberships (token groupId : String) :
    Corresponds ρ id (backupMemberships token groupId) (backupMemberships token groupId) := by
  refine (corresponds_canAccessGroup token groupId .owner).bind fun _ => ?_
  exact .bind (corresponds_ask_same fun _ => rfl) corresponds_resolveEmails

/-! ## Restoring -/

lemma corresponds_restoreMembership (m : Membership) :
    Corresponds ρ id (restoreMembership m) (restoreMembership m) :=
  (corresponds_change fun h => h.saveMemberships [m]).bind fun _ =>
    corresponds_forgetMember m.memberId

lemma corresponds_restoreAll (b : Backup) :
    Corresponds ρ id (restoreAll b) (restoreAll (ρ.backup b)) := by
  rw [restoreAll_eq, restoreAll_eq]
  have hgroup : ∀ g : Group, Corresponds ρ id
      (discard (change .saveGroup fun s => s.saveGroup g))
      (discard (change .saveGroup fun s => s.saveGroup g)) := fun g =>
    (corresponds_change fun h => h.saveGroup g).discard
  have hthings : Corresponds ρ id
      (discard (storeBatch .saveThings fun s => s.saveThings b.things))
      (discard (storeBatch .saveThings fun s => s.saveThings (b.things.map ρ.thing))) :=
    (corresponds_storeBatch rfl fun h => h.saveThings b.things).discard
  have hprofiles : Corresponds ρ id
      (discard (storeBatch .saveProfiles fun s => s.saveProfiles b.profiles))
      (discard (storeBatch .saveProfiles fun s => s.saveProfiles b.profiles)) :=
    (corresponds_storeBatch rfl fun h => h.saveProfiles b.profiles).discard
  refine (corresponds_forM hgroup b.groups).bind fun _ => ?_
  refine (Corresponds.ite (not_congr List.map_eq_nil_iff) hthings (corresponds_pure id ())).bind
    fun _ => ?_
  refine (Corresponds.ite Iff.rfl hprofiles (corresponds_pure id ())).bind fun _ => ?_
  exact corresponds_forM corresponds_restoreMembership b.memberships

lemma corresponds_restore (token : String) (b : Backup) :
    Corresponds ρ id (restore token b) (restore token (ρ.backup b)) := by
  refine (corresponds_isAdmin token).bind fun _ => ?_
  refine (corresponds_restoreAll b).attempt.bind fun outcome => ?_
  rcases outcome with e | _
  · exact (corresponds_report _ _ _ _).bind fun _ => corresponds_throw id e
  · exact corresponds_reportSizes _ b

end Service

end DeviceFleet
