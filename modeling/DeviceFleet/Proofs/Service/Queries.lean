/-
# Queries

The operations of the service that only read: all but the fifteen that create, change, remove or
restore records.  They leave the store alone, keep the state coherent and answer the same whether
the caches are turned on or not.
-/
import DeviceFleet.Proofs.Service.Permission
import DeviceFleet.Service.Operation

namespace DeviceFleet.Service

open DeviceFleet.Action DeviceFleet.Access

variable {α β : Type}

namespace Operation

/-- Does the operation create, change, remove or restore records? -/
def writes : Operation → Bool
  | .createThings .. | .updateThing .. | .updateThingsMetadata .. | .updateKey ..
  | .removeThings .. | .createProfiles .. | .updateProfile .. | .removeProfiles ..
  | .createGroups .. | .updateGroup .. | .removeGroups .. | .createMemberships ..
  | .updateMemberships .. | .removeMemberships .. | .restore .. => true
  | _ => false

end Operation

/-! ## Scopes -/

lemma readOnly_memberGroupIds (token : String) : ReadOnly (memberGroupIds token) :=
  (readOnly_identifyCaller token).bind fun identity => readOnly_groupIdsOfMember identity.id

lemma readOnly_orgGroupIds (token orgId : String) : ReadOnly (orgGroupIds token orgId) := by
  refine (readOnly_isAdmin token).attempt.bind fun r => ?_
  cases r with
  | ok a => exact readOnly_ask _ _
  | error e =>
    refine (readOnly_canAccessOrg token orgId .viewer).bind fun _ => ?_
    exact (readOnly_identifyCaller token).bind fun identity => readOnly_ask _ _

lemma readOnly_listScoped {token : String} {everything : Action α}
    {ofGroups : List String → Action α} (h : ReadOnly everything)
    (hgroups : ∀ ids, ReadOnly (ofGroups ids)) :
    ReadOnly (listScoped token everything ofGroups) := by
  refine (readOnly_isAdmin token).attempt.bind fun r => ?_
  cases r with
  | ok a => exact h
  | error e => exact (readOnly_memberGroupIds token).bind hgroups

lemma readOnly_orgScope (token orgId : String) : ReadOnly (orgScope token orgId) :=
  (readOnly_canAccessOrg token orgId .owner).bind fun _ => readOnly_ask _ _

/-- An answer for those who have a role in a group. -/
lemma readOnly_ofGroup {token groupId : String} {action : Role} {method : Store.Method}
    {f : Store → Except StoreError α} :
    ReadOnly (canAccessGroup token groupId action >>= fun _ => ask method f) :=
  (readOnly_canAccessGroup token groupId action).bind fun _ => readOnly_ask method f

/-! ## Members -/

lemma readOnly_resolveEmails (memberships : List Membership) :
    ReadOnly (resolveEmails memberships) := by
  unfold resolveEmails
  split
  · exact readOnly_pure []
  · exact (readOnly_findUsers _).bind fun users => readOnly_pure _

/-- The directory is asked once for all members, unless there is none. -/
lemma run_resolveEmails {setting : Setting} {s : State} (memberships : List Membership) :
    resolveEmails memberships setting s =
      if memberships = [] then (.ok [], s)
      else
        ((settle setting.rpcTimeout usersRefused
            (setting.findUsers s.calls s.store (memberIds memberships))).map
          fun users => memberships.map fun m => { m with email := emailOf users m.memberId },
          { s with calls := s.calls + 1 }) := by
  unfold resolveEmails
  split
  · rfl
  · rw [run_bind, run_findUsers]
    rcases settle setting.rpcTimeout usersRefused
      (setting.findUsers s.calls s.store (memberIds memberships)) with e | users <;> rfl

/-- The addresses that are filled in are given member by member. -/
lemma ensures_resolveEmails {setting : Setting} {s : State} (memberships : List Membership) :
    (resolveEmails memberships).Ensures setting s
      (fun resolved _ => ∃ address : String → Option String,
        resolved = memberships.map fun m => { m with email := address m.memberId })
      (fun _ _ => True) := by
  unfold Ensures
  rw [run_resolveEmails]
  by_cases hempty : memberships = []
  · rw [if_pos hempty]
    exact ⟨fun _ => none, by simp [hempty]⟩
  · rw [if_neg hempty]
    rcases settle setting.rpcTimeout usersRefused
      (setting.findUsers s.calls s.store (memberIds memberships)) with e | users
    · trivial
    · exact ⟨emailOf users, rfl⟩

lemma readOnly_listMemberships (token groupId : String) (r : PageRequest) :
    ReadOnly (listMemberships token groupId r) :=
  (readOnly_canAccessGroup token groupId .viewer).bind fun _ =>
    (readOnly_ask _ _).bind fun page =>
      (readOnly_resolveEmails page.items).bind fun items => readOnly_pure (page.withItems items)

/-! ## Records of an owner -/

/-- An answer for those who have a role in the group that owns a thing. -/
lemma readOnly_ofThing {token id : String} {action : Role} {method : Store.Method}
    {f : Store → Except StoreError α} :
    ReadOnly (canAccessThing token id action >>= fun _ => ask method f) :=
  (readOnly_canAccessThing token id action).bind fun _ => readOnly_ask method f

/-- An answer for those who have a role in the group that owns a profile. -/
lemma readOnly_ofProfile {token id : String} {action : Role} {method : Store.Method}
    {f : Store → Except StoreError α} :
    ReadOnly (canAccessProfile token id action >>= fun _ => ask method f) :=
  (readOnly_canAccessProfile token id action).bind fun _ => readOnly_ask method f

/-- A part of an answer of the store. -/
lemma readOnly_part {method : Store.Method} {f : Store → Except StoreError α} (g : α → β) :
    ReadOnly (ask method f >>= fun a => pure (g a)) :=
  (readOnly_ask method f).bind fun a => readOnly_pure (g a)

lemma readOnly_viewMetadataByKey (key : String) : ReadOnly (viewMetadataByKey key) :=
  (readOnly_identify key).bind fun _ => readOnly_part Thing.metadata

lemma readOnly_publisherConfigByKey (key : String) : ReadOnly (publisherConfigByKey key) :=
  (readOnly_identify key).bind fun id =>
    readOnly_part fun p : Profile => PublisherConfig.mk id p.config

lemma readOnly_viewGroupByThing (token id : String) : ReadOnly (viewGroupByThing token id) :=
  (readOnly_canAccessThing token id .viewer).bind fun _ =>
    (readOnly_groupIdOfThing id).bind fun _ => readOnly_ask _ _

lemma readOnly_viewGroupByProfile (token id : String) : ReadOnly (viewGroupByProfile token id) :=
  (readOnly_canAccessProfile token id .viewer).bind fun _ =>
    (readOnly_groupIdOfProfile id).bind fun _ => readOnly_ask _ _

/-- An answer about the groups of an organization that the caller sees. -/
lemma readOnly_ofOrgGroups {token orgId : String} {method : Store.Method}
    {f : List String → Store → Except StoreError α} :
    ReadOnly (orgGroupIds token orgId >>= fun ids => ask method (f ids)) :=
  (readOnly_orgGroupIds token orgId).bind fun ids => readOnly_ask method (f ids)

/-- An answer about the groups of an organization that the caller owns. -/
lemma readOnly_ofOrgScope {token orgId : String} {method : Store.Method}
    {f : List String → Store → Except StoreError α} :
    ReadOnly (orgScope token orgId >>= fun ids => ask method (f ids)) :=
  (readOnly_orgScope token orgId).bind fun ids => readOnly_ask method (f ids)

lemma readOnly_listScoped_ask {token : String} {method method' : Store.Method}
    {f : Store → Except StoreError α} {g : List String → Store → Except StoreError α} :
    ReadOnly (listScoped token (ask method f) fun ids => ask method' (g ids)) :=
  readOnly_listScoped (readOnly_ask method f) fun ids => readOnly_ask method' (g ids)

/-! ## Backups -/

lemma readOnly_backup (token : String) : ReadOnly (backup token) :=
  (readOnly_isAdmin token).bind fun _ => (readOnly_ask _ _).bind fun _ =>
    (readOnly_ask _ _).bind fun _ => (readOnly_ask _ _).bind fun _ =>
      (readOnly_ask _ _).bind fun memberships => (readOnly_resolveEmails memberships).bind fun _ =>
        (readOnly_report _ _ _ _).bind fun _ => readOnly_pure _

lemma readOnly_backupGroupsByOrg (token orgId : String) :
    ReadOnly (backupGroupsByOrg token orgId) :=
  (readOnly_canAccessOrg token orgId .owner).bind fun _ => readOnly_ask _ _

lemma readOnly_backupMemberships (token groupId : String) :
    ReadOnly (backupMemberships token groupId) :=
  (readOnly_canAccessGroup token groupId .owner).bind fun _ =>
    (readOnly_ask _ _).bind fun memberships => readOnly_resolveEmails memberships

/-! ## All queries -/

namespace Operation

lemma readOnly_completed {x : Action Unit} (h : ReadOnly x) : ReadOnly (completed x) :=
  h.bind fun _ => readOnly_pure Answer.done

/-- An operation that does not write only reads. -/
lemma readOnly_run (op : Operation) (h : op.writes = false) : ReadOnly op.run := by
  cases op with
  | createThings | updateThing | updateThingsMetadata | updateKey | removeThings | createProfiles
  | updateProfile | removeProfiles | createGroups | updateGroup | removeGroups | createMemberships
  | updateMemberships | removeMemberships | restore => simp [writes] at h
  | viewThing token id => exact ReadOnly.map readOnly_ofThing _
  | viewMetadataByKey key => exact (readOnly_viewMetadataByKey key).map _
  | listThings token r => exact ReadOnly.map readOnly_listScoped_ask _
  | listThingsByOrg token orgId r => exact ReadOnly.map readOnly_ofOrgGroups _
  | listThingsByGroup token groupId r => exact ReadOnly.map readOnly_ofGroup _
  | listThingsByProfile token profileId r => exact ReadOnly.map readOnly_ofProfile _
  | identify key => exact (readOnly_identify key).map _
  | publisherConfigByKey key => exact (readOnly_publisherConfigByKey key).map _
  | groupIdOfThing thingId => exact (readOnly_groupIdOfThing thingId).map _
  | profileIdOfThing thingId => exact ReadOnly.map (readOnly_part _) _
  | viewProfile token id => exact ReadOnly.map readOnly_ofProfile _
  | viewProfileByThing token thingId => exact ReadOnly.map readOnly_ofThing _
  | listProfiles token r => exact ReadOnly.map readOnly_listScoped_ask _
  | listProfilesByOrg token orgId r => exact ReadOnly.map readOnly_ofOrgGroups _
  | listProfilesByGroup token groupId r => exact ReadOnly.map readOnly_ofGroup _
  | configOfThing thingId => exact ReadOnly.map (readOnly_part _) _
  | groupIdOfProfile profileId => exact (readOnly_groupIdOfProfile profileId).map _
  | viewGroup token id => exact ReadOnly.map readOnly_ofGroup _
  | viewGroupByThing token thingId => exact (readOnly_viewGroupByThing token thingId).map _
  | viewGroupByProfile token profileId => exact (readOnly_viewGroupByProfile token profileId).map _
  | listGroups token r => exact ReadOnly.map readOnly_listScoped_ask _
  | listGroupsByOrg token orgId r => exact ReadOnly.map readOnly_ofOrgGroups _
  | listMemberships token groupId r => exact (readOnly_listMemberships token groupId r).map _
  | backup token => exact (readOnly_backup token).map _
  | backupGroupsByOrg token orgId => exact (readOnly_backupGroupsByOrg token orgId).map _
  | backupThingsByOrg token orgId => exact ReadOnly.map readOnly_ofOrgScope _
  | backupProfilesByOrg token orgId => exact ReadOnly.map readOnly_ofOrgScope _
  | backupThingsByGroup token groupId => exact ReadOnly.map readOnly_ofGroup _
  | backupProfilesByGroup token groupId => exact ReadOnly.map readOnly_ofGroup _
  | backupMemberships token groupId => exact (readOnly_backupMemberships token groupId).map _
  | canAccessThing token thingId action =>
    exact readOnly_completed (readOnly_canAccessThing token thingId action)
  | canAccessProfile token profileId action =>
    exact readOnly_completed (readOnly_canAccessProfile token profileId action)
  | canAccessGroup token groupId action =>
    exact readOnly_completed (readOnly_canAccessGroup token groupId action)
  | canAccessOrg token orgId action =>
    exact readOnly_completed (readOnly_canAccessOrg token orgId action)
  | canThingAccessGroup key groupId =>
    exact readOnly_completed (readOnly_canThingAccessGroup key groupId)

end Operation

end DeviceFleet.Service
