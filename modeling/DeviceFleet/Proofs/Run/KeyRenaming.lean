/-
# Operations with other keys

Keys come in as arguments of operations, as parts of things and in backups, and they go out in
answers.  An operation with other keys corresponds to the operation itself, and so do the operations
of a run, one after the other.
-/
import DeviceFleet.Proofs.Service.KeyRenaming
import DeviceFleet.Service.Operation

namespace DeviceFleet

open DeviceFleet.Action

namespace KeyRenaming

/-- The answer with other keys. -/
def answer (ρ : KeyRenaming) : Answer → Answer
  | .thing t => .thing (ρ.thing t)
  | .things ts => .things (ts.map ρ.thing)
  | .thingPage p => .thingPage (ρ.page p)
  | .backup b => .backup (ρ.backup b)
  | a => a

/-- The operation with other keys. -/
def operation (ρ : KeyRenaming) : Service.Operation → Service.Operation
  | .createThings token things => .createThings token (things.map ρ.thing)
  | .updateThing token t => .updateThing token (ρ.thing t)
  | .updateThingsMetadata token things => .updateThingsMetadata token (things.map ρ.thing)
  | .updateKey token thingId key => .updateKey token thingId (ρ key)
  | .viewMetadataByKey key => .viewMetadataByKey (ρ key)
  | .identify key => .identify (ρ key)
  | .publisherConfigByKey key => .publisherConfigByKey (ρ key)
  | .restore token b => .restore token (ρ.backup b)
  | .canThingAccessGroup key groupId => .canThingAccessGroup (ρ key) groupId
  | op => op

end KeyRenaming

namespace State.Renamed

variable {s t : State}

/-- The state that keeps its keys is itself. -/
protected lemma id (s : State) : s.Renamed KeyRenaming.id s :=
  ⟨.id s.store, .id s.caches, rfl, rfl, rfl, rfl⟩

/-- A service that was not used has no keys. -/
lemma initial (ρ : KeyRenaming) (enabled : Bool) :
    (State.initial ∅ (Caches.inMemory enabled)).Renamed ρ
      (State.initial ∅ (Caches.inMemory enabled)) :=
  ⟨.empty ρ, .inMemory ρ enabled, rfl, rfl, rfl, rfl⟩

end State.Renamed

namespace Service

variable {ρ : KeyRenaming}

lemma corresponds_completed {x y : Action Unit} (h : Corresponds ρ id x y) :
    Corresponds ρ ρ.answer (Operation.completed x) (Operation.completed y) :=
  h.bind fun _ => corresponds_pure ρ.answer .done

/-- **Every operation corresponds to itself with other keys.** -/
lemma corresponds_run (ρ : KeyRenaming) (op : Operation) :
    Corresponds ρ ρ.answer op.run (ρ.operation op).run := by
  cases op with
  -- the answers have keys
  | createThings token things => exact (corresponds_createThings token things).map fun _ => rfl
  | viewThing token thingId => exact (corresponds_viewThing token thingId).map fun _ => rfl
  | listThings token r => exact (corresponds_listThings token r).map fun _ => rfl
  | listThingsByOrg token orgId r =>
    exact (corresponds_listThingsByOrg token orgId r).map fun _ => rfl
  | listThingsByGroup token groupId r =>
    exact (corresponds_listThingsByGroup token groupId r).map fun _ => rfl
  | listThingsByProfile token profileId r =>
    exact (corresponds_listThingsByProfile token profileId r).map fun _ => rfl
  | backup token => exact (corresponds_backup token).map fun _ => rfl
  | backupThingsByOrg token orgId =>
    exact (corresponds_backupThingsByOrg token orgId).map fun _ => rfl
  | backupThingsByGroup token groupId =>
    exact (corresponds_backupThingsByGroup token groupId).map fun _ => rfl
  -- the answers have no keys
  | viewMetadataByKey key => exact (corresponds_viewMetadataByKey key).map fun _ => rfl
  | identify key => exact (Access.corresponds_identify key).map fun _ => rfl
  | publisherConfigByKey key => exact (corresponds_publisherConfigByKey key).map fun _ => rfl
  | groupIdOfThing thingId => exact (Access.corresponds_groupIdOfThing thingId).map fun _ => rfl
  | profileIdOfThing thingId => exact (corresponds_profileIdOfThing thingId).map fun _ => rfl
  | createProfiles token profiles =>
    exact (corresponds_createProfiles token profiles).map fun _ => rfl
  | viewProfile token profileId => exact (corresponds_viewProfile token profileId).map fun _ => rfl
  | viewProfileByThing token thingId =>
    exact (corresponds_viewProfileByThing token thingId).map fun _ => rfl
  | listProfiles token r => exact (corresponds_listProfiles token r).map fun _ => rfl
  | listProfilesByOrg token orgId r =>
    exact (corresponds_listProfilesByOrg token orgId r).map fun _ => rfl
  | listProfilesByGroup token groupId r =>
    exact (corresponds_listProfilesByGroup token groupId r).map fun _ => rfl
  | configOfThing thingId => exact (corresponds_configOfThing thingId).map fun _ => rfl
  | groupIdOfProfile profileId =>
    exact (Access.corresponds_groupIdOfProfile profileId).map fun _ => rfl
  | createGroups token orgId groups =>
    exact (corresponds_createGroups token orgId groups).map fun _ => rfl
  | updateGroup token g => exact (corresponds_updateGroup token g).map fun _ => rfl
  | viewGroup token groupId => exact (corresponds_viewGroup token groupId).map fun _ => rfl
  | viewGroupByThing token thingId =>
    exact (corresponds_viewGroupByThing token thingId).map fun _ => rfl
  | viewGroupByProfile token profileId =>
    exact (corresponds_viewGroupByProfile token profileId).map fun _ => rfl
  | listGroups token r => exact (corresponds_listGroups token r).map fun _ => rfl
  | listGroupsByOrg token orgId r =>
    exact (corresponds_listGroupsByOrg token orgId r).map fun _ => rfl
  | listMemberships token groupId r =>
    exact (corresponds_listMemberships token groupId r).map fun _ => rfl
  | backupGroupsByOrg token orgId =>
    exact (corresponds_backupGroupsByOrg token orgId).map fun _ => rfl
  | backupProfilesByOrg token orgId =>
    exact (corresponds_backupProfilesByOrg token orgId).map fun _ => rfl
  | backupProfilesByGroup token groupId =>
    exact (corresponds_backupProfilesByGroup token groupId).map fun _ => rfl
  | backupMemberships token groupId =>
    exact (corresponds_backupMemberships token groupId).map fun _ => rfl
  -- there are no answers
  | updateThing token t => exact corresponds_completed (corresponds_updateThing token t)
  | updateThingsMetadata token things =>
    exact corresponds_completed (corresponds_updateThingsMetadata token things)
  | updateKey token thingId key =>
    exact corresponds_completed (corresponds_updateKey token thingId key)
  | removeThings token ids => exact corresponds_completed (corresponds_removeThings token ids)
  | updateProfile token p => exact corresponds_completed (corresponds_updateProfile token p)
  | removeProfiles token ids => exact corresponds_completed (corresponds_removeProfiles token ids)
  | removeGroups token ids => exact corresponds_completed (corresponds_removeGroups token ids)
  | createMemberships token groupId members =>
    exact corresponds_completed (corresponds_createMemberships token groupId members)
  | updateMemberships token groupId members =>
    exact corresponds_completed (corresponds_updateMemberships token groupId members)
  | removeMemberships token groupId memberIds =>
    exact corresponds_completed (corresponds_removeMemberships token groupId memberIds)
  | restore token b => exact corresponds_completed (corresponds_restore token b)
  | canAccessThing token thingId action =>
    exact corresponds_completed (Access.corresponds_canAccessThing token thingId action)
  | canAccessProfile token profileId action =>
    exact corresponds_completed (Access.corresponds_canAccessProfile token profileId action)
  | canAccessGroup token groupId action =>
    exact corresponds_completed (Access.corresponds_canAccessGroup token groupId action)
  | canAccessOrg token orgId action =>
    exact corresponds_completed (Access.corresponds_canAccessOrg token orgId action)
  | canThingAccessGroup key groupId =>
    exact corresponds_completed (Access.corresponds_canThingAccessGroup key groupId)

end Service

end DeviceFleet
