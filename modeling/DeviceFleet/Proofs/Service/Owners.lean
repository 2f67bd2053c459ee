/-
# Who owns what, and who is where

The four look-ups through a cache, each as a case of the general one, and what they answer in a
coherent state.
-/
import DeviceFleet.Proofs.Service.Resolve

namespace DeviceFleet

namespace Store

variable {s : Store} {id groupId : String}

lemma findThing_map_eq_ok_iff :
    (s.findThing id).map (·.groupId) = .ok groupId ↔ s.OwnsThing id groupId := by
  unfold findThing OwnsThing
  rcases s.things[id]? with _ | t <;> simp [Except.map]

lemma findProfile_map_eq_ok_iff :
    (s.findProfile id).map (·.groupId) = .ok groupId ↔ s.OwnsProfile id groupId := by
  unfold findProfile OwnsProfile
  rcases s.profiles[id]? with _ | p <;> simp [Except.map]

end Store

namespace Access

open DeviceFleet.Action

variable {setting : Setting} {s : State}

/-! ## The identifier of a thing -/

/-- Remembers the thing with a key, and reports it. -/
def rememberThing (key id : String) : Action Unit := do
  changeThingCache (ResourceCache.save key id)
  report .debug target "resolved thing key from repository" [("thing_id", .plain id)]

/-- The caches when the thing with a key is remembered. -/
def withThing (key id : String) (caches : Caches) : Caches :=
  { caches with things := (caches.things.change (ResourceCache.save key id)).2 }

lemma identify_eq (key : String) :
    identify key = resolve .thing (·.things) (fun c => c.id? key) .findThingId
      (fun s => s.findThingId key) (rememberThing key) := by
  unfold identify resolve rememberThing
  refine bind_congr fun found => bind_congr fun hit => ?_
  cases hit with
  | none => simp only [bind_assoc]
  | some id => rfl

lemma recalls_identify (key : String) :
    Recalls (·.things) (fun c => c.id? key) (fun s => s.findThingId key) (rememberThing key)
      (withThing key) where
  found {s} hs := by
    obtain ⟨c, hc, hmirrors⟩ := hs.mirrors.things
    exact ⟨c, hc, fun id hid => hs.sound.findThingId_eq_ok_iff.2 (hmirrors.of_id? hid)⟩
  remembers {setting s id} hmemory := by
    obtain ⟨ct, cp, cg, hs⟩ := hmemory
    have hrun : changeThingCache (ResourceCache.save key id) setting s = _ :=
      run_changeThingCache (c := ct) (by rw [hs]) _
    exact ⟨_, by rw [rememberThing, run_bind_ok hrun, run_report, withThing, hs]; rfl⟩
  mirrors {s c id} hs hc hmiss hquery := by
    obtain ⟨c', hc', hmirrors⟩ := hs.mirrors.things
    obtain rfl := Lookaside.memory.inj (hc.symm.trans hc')
    have hkey := hs.sound.findThingId_eq_ok_iff.1 hquery
    exact ⟨⟨_, by rw [withThing, hc]; rfl, hmirrors.save hmiss hkey⟩, hs.mirrors.profiles,
      hs.mirrors.groups⟩
  off_find hc := by
    obtain rfl := Lookaside.memory.inj hc
    rfl
  off_update id := rfl

lemma resolved_identify (setting : Setting) (hs : s.Coherent) (key : String) :
    Resolved .thing (fun s => s.findThingId key) (withThing key) setting s
      (identify key setting s).1 (identify key setting s).2 := by
  rw [identify_eq]
  exact resolved_resolve (recalls_identify key) hs

lemma readOnly_identify (key : String) : ReadOnly (identify key) := by
  rw [identify_eq]
  exact readOnly_resolve (recalls_identify key)

/-! ## The group of a thing -/

/-- Remembers the group of a thing, and reports it. -/
def rememberThingGroup (id groupId : String) : Action Unit := do
  changeThingCache (ResourceCache.saveGroup id groupId)
  report .debug target "resolved thing group from repository"
    [("thing_id", .text id), ("group_id", .plain groupId)]

/-- The caches when the group of a thing is remembered. -/
def withThingGroup (id groupId : String) (caches : Caches) : Caches :=
  { caches with things := (caches.things.change (ResourceCache.saveGroup id groupId)).2 }

lemma groupIdOfThing_eq (id : String) :
    groupIdOfThing id = resolve .thing (·.things) (fun c => c.group? id) .findThing
      (fun s => (s.findThing id).map (·.groupId)) (rememberThingGroup id) := by
  unfold groupIdOfThing resolve rememberThingGroup
  refine bind_congr fun found => bind_congr fun hit => ?_
  cases hit with
  | none => simp only [ask_map, bind_map_left, bind_assoc]
  | some groupId => rfl

lemma recalls_groupIdOfThing (id : String) :
    Recalls (·.things) (fun c => c.group? id) (fun s => (s.findThing id).map (·.groupId))
      (rememberThingGroup id) (withThingGroup id) where
  found {s} hs := by
    obtain ⟨c, hc, hmirrors⟩ := hs.mirrors.things
    exact ⟨c, hc, fun g hg => Store.findThing_map_eq_ok_iff.2 (hmirrors.of_group? hg)⟩
  remembers {setting s g} hmemory := by
    obtain ⟨ct, cp, cg, hs⟩ := hmemory
    have hrun : changeThingCache (ResourceCache.saveGroup id g) setting s = _ :=
      run_changeThingCache (c := ct) (by rw [hs]) _
    exact ⟨_, by rw [rememberThingGroup, run_bind_ok hrun, run_report, withThingGroup, hs]; rfl⟩
  mirrors {s c g} hs hc _ hquery := by
    obtain ⟨c', hc', hmirrors⟩ := hs.mirrors.things
    obtain rfl := Lookaside.memory.inj (hc.symm.trans hc')
    have howner := Store.findThing_map_eq_ok_iff.1 hquery
    exact ⟨⟨_, by rw [withThingGroup, hc]; rfl, hmirrors.saveGroup howner⟩, hs.mirrors.profiles,
      hs.mirrors.groups⟩
  off_find hc := by
    obtain rfl := Lookaside.memory.inj hc
    rfl
  off_update g := rfl

lemma resolved_groupIdOfThing (setting : Setting) (hs : s.Coherent) (id : String) :
    Resolved .thing (fun s => (s.findThing id).map (·.groupId)) (withThingGroup id) setting s
      (groupIdOfThing id setting s).1 (groupIdOfThing id setting s).2 := by
  rw [groupIdOfThing_eq]
  exact resolved_resolve (recalls_groupIdOfThing id) hs

lemma readOnly_groupIdOfThing (id : String) : ReadOnly (groupIdOfThing id) := by
  rw [groupIdOfThing_eq]
  exact readOnly_resolve (recalls_groupIdOfThing id)

/-! ## The group of a profile -/

/-- Remembers the group of a profile, and reports it. -/
def rememberProfileGroup (id groupId : String) : Action Unit := do
  changeProfileCache (ResourceCache.saveGroup id groupId)
  report .debug target "resolved profile group from repository"
    [("profile_id", .text id), ("group_id", .plain groupId)]

/-- The caches when the group of a profile is remembered. -/
def withProfileGroup (id groupId : String) (caches : Caches) : Caches :=
  { caches with profiles := (caches.profiles.change (ResourceCache.saveGroup id groupId)).2 }

lemma groupIdOfProfile_eq (id : String) :
    groupIdOfProfile id = resolve .profile (·.profiles) (fun c => c.group? id) .findProfile
      (fun s => (s.findProfile id).map (·.groupId)) (rememberProfileGroup id) := by
  unfold groupIdOfProfile resolve rememberProfileGroup
  refine bind_congr fun found => bind_congr fun hit => ?_
  cases hit with
  | none => simp only [ask_map, bind_map_left, bind_assoc]
  | some groupId => rfl

lemma recalls_groupIdOfProfile (id : String) :
    Recalls (·.profiles) (fun c => c.group? id) (fun s => (s.findProfile id).map (·.groupId))
      (rememberProfileGroup id) (withProfileGroup id) where
  found {s} hs := by
    obtain ⟨c, hc, hmirrors⟩ := hs.mirrors.profiles
    exact ⟨c, hc, fun g hg => Store.findProfile_map_eq_ok_iff.2 (hmirrors.of_group? hg)⟩
  remembers {setting s g} hmemory := by
    obtain ⟨ct, cp, cg, hs⟩ := hmemory
    have hrun : changeProfileCache (ResourceCache.saveGroup id g) setting s = _ :=
      run_changeProfileCache (c := cp) (by rw [hs]) _
    exact ⟨_, by rw [rememberProfileGroup, run_bind_ok hrun, run_report, withProfileGroup, hs]; rfl⟩
  mirrors {s c g} hs hc _ hquery := by
    obtain ⟨c', hc', hmirrors⟩ := hs.mirrors.profiles
    obtain rfl := Lookaside.memory.inj (hc.symm.trans hc')
    have howner := Store.findProfile_map_eq_ok_iff.1 hquery
    exact ⟨hs.mirrors.things, ⟨_, by rw [withProfileGroup, hc]; rfl, hmirrors.saveGroup howner⟩,
      hs.mirrors.groups⟩
  off_find hc := by
    obtain rfl := Lookaside.memory.inj hc
    rfl
  off_update g := rfl

lemma resolved_groupIdOfProfile (setting : Setting) (hs : s.Coherent) (id : String) :
    Resolved .profile (fun s => (s.findProfile id).map (·.groupId)) (withProfileGroup id) setting s
      (groupIdOfProfile id setting s).1 (groupIdOfProfile id setting s).2 := by
  rw [groupIdOfProfile_eq]
  exact resolved_resolve (recalls_groupIdOfProfile id) hs

lemma readOnly_groupIdOfProfile (id : String) : ReadOnly (groupIdOfProfile id) := by
  rw [groupIdOfProfile_eq]
  exact readOnly_resolve (recalls_groupIdOfProfile id)

/-! ## The groups of a member -/

/-- The caches when the groups of a member are remembered. -/
def withMember (id : String) (groupIds : List String) (caches : Caches) : Caches :=
  { caches with groups := (caches.groups.change (MemberCache.save id groupIds)).2 }

lemma groupIdsOfMember_eq (id : String) :
    groupIdsOfMember id = resolve .group (·.groups) (fun c => c.groups? id) .groupIdsOfMember
      (fun s => .ok (s.groupIdsOfMember id))
      (fun groupIds => changeMemberCache (MemberCache.save id groupIds)) := by
  unfold groupIdsOfMember resolve
  refine bind_congr fun found => bind_congr fun hit => ?_
  cases hit with
  | none => rfl
  | some groupIds => rfl

lemma recalls_groupIdsOfMember (id : String) :
    Recalls (·.groups) (fun c => c.groups? id) (fun s => .ok (s.groupIdsOfMember id))
      (fun groupIds => changeMemberCache (MemberCache.save id groupIds)) (withMember id) where
  found {s} hs := by
    obtain ⟨c, hc, hmirrors⟩ := hs.mirrors.groups
    exact ⟨c, hc, fun gs hgs => congrArg Except.ok (hmirrors.of_groups? hgs).symm⟩
  remembers {setting s gs} hmemory := by
    obtain ⟨ct, cp, cg, hs⟩ := hmemory
    have hrun : changeMemberCache (MemberCache.save id gs) setting s = _ :=
      run_changeMemberCache (c := cg) (by rw [hs]) _
    exact ⟨s.log, by rw [hrun, withMember, hs]; rfl⟩
  mirrors {s c gs} hs hc hmiss hquery := by
    obtain ⟨c', hc', hmirrors⟩ := hs.mirrors.groups
    obtain rfl := Lookaside.memory.inj (hc.symm.trans hc')
    obtain rfl := Except.ok.inj hquery
    exact ⟨hs.mirrors.things, hs.mirrors.profiles,
      ⟨_, by rw [withMember, hc]; rfl, hmirrors.save hmiss⟩⟩
  off_find hc := by
    obtain rfl := Lookaside.memory.inj hc
    rfl
  off_update gs := rfl

lemma readOnly_groupIdsOfMember (id : String) : ReadOnly (groupIdsOfMember id) := by
  rw [groupIdsOfMember_eq]
  exact readOnly_resolve (recalls_groupIdsOfMember id)

end Access

end DeviceFleet
