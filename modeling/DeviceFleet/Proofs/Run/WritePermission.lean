/-
# Every change is permitted

Whatever collaborator grants permissions, and whatever it answers: when an operation adds, changes
or takes out a record, then the caller was granted meanwhile, for the token of the operation, to
act on the whole platform, or to act in the right role on the object that owns the record.

The owner is the one that the store has, also where it was looked up in a cache; this is part of
the effects, and every effect is gone through here.
-/
import DeviceFleet.Proofs.Run.Step

namespace DeviceFleet.Service

open DeviceFleet.Action

namespace Operation

/-- The token that an operation which can change records is asked for with. -/
def token? : Operation → Option String
  | .createThings token _ | .updateThing token _ | .updateThingsMetadata token _
  | .updateKey token _ _ | .removeThings token _ => some token
  | .createProfiles token _ | .updateProfile token _ | .removeProfiles token _ => some token
  | .createGroups token _ _ | .updateGroup token _ | .removeGroups token _ => some token
  | .createMemberships token _ _ | .updateMemberships token _ _ | .removeMemberships token _ _ =>
    some token
  | .restore token _ => some token
  | _ => none

/-- The role in a group that an operation needs in order to change the group, its things or its
profiles. -/
def ownedRole : Operation → Role
  | .removeGroups .. => .owner
  | _ => .editor

/-- The role in a group that an operation needs in order to change who has a role in it. -/
def membersRole : Operation → Role
  | .removeGroups .. => .owner
  | _ => .admin

/-- For the token of the operation it was granted to act on everything, or to act in the role on
the object.  A restore needs the first. -/
def Allowed (granted : AuthorizeRequest → Prop) (op : Operation) (subject : Subject)
    (object : String) (role : Role) : Prop :=
  match op with
  | .restore token _ => granted (.root token)
  | op => ∃ token, op.token? = some token ∧ Permits granted token subject object role

/-- The operation may change who has a role in a group.  One that makes the group needs a role in
the organization. -/
def MembersAllowed (granted : AuthorizeRequest → Prop) (op : Operation) (before after : Store)
    (groupId : String) : Prop :=
  match op with
  | .createGroups .. => ∃ g, before.groups[groupId]? = none ∧ after.groups[groupId]? = some g ∧
      op.Allowed granted .org g.orgId .editor
  | op => op.Allowed granted .group groupId op.membersRole

end Operation

/-- Whatever record an operation has added, changed or taken out, it was permitted to. -/
structure Warranted (granted : AuthorizeRequest → Prop) (op : Operation) (before after : Store) :
    Prop where
  /-- A thing, on behalf of the group that owns it, or owns it afterwards if it is new. -/
  things : ∀ id : String, before.things[id]? ≠ after.things[id]? →
    ∃ t, before.things[id]?.or after.things[id]? = some t ∧
      op.Allowed granted .group t.groupId op.ownedRole
  /-- A profile likewise. -/
  profiles : ∀ id : String, before.profiles[id]? ≠ after.profiles[id]? →
    ∃ p, before.profiles[id]?.or after.profiles[id]? = some p ∧
      op.Allowed granted .group p.groupId op.ownedRole
  /-- A group, or if it is new, on behalf of the organization that it belongs to. -/
  groups : ∀ id : String, before.groups[id]? ≠ after.groups[id]? →
    (id ∈ before.groups ∧ op.Allowed granted .group id op.ownedRole) ∨
      ∃ g, before.groups[id]? = none ∧ after.groups[id]? = some g ∧
        op.Allowed granted .org g.orgId .editor
  /-- A membership, on behalf of its group. -/
  memberships : ∀ key : Membership.Key, before.memberships[key]? ≠ after.memberships[key]? →
    op.MembersAllowed granted before after key.groupId

namespace Warranted

variable {granted : AuthorizeRequest → Prop} {op : Operation} {s s' : Store} {token : String}

lemma unchanged (op : Operation) (s : Store) : Warranted granted op s s where
  things _ hne := absurd rfl hne
  profiles _ hne := absurd rfl hne
  groups _ hne := absurd rfl hne
  memberships _ hne := absurd rfl hne

/-- A thing that is replaced or taken out was owned by a group. -/
lemma of_stored_thing {id : String} {t : Thing} (ht : s.things[id]? = some t)
    (hallowed : op.Allowed granted .group t.groupId op.ownedRole) :
    ∃ t, s.things[id]?.or s'.things[id]? = some t ∧
      op.Allowed granted .group t.groupId op.ownedRole :=
  ⟨t, by rw [ht]; rfl, hallowed⟩

lemma of_stored_profile {id : String} {p : Profile} (hp : s.profiles[id]? = some p)
    (hallowed : op.Allowed granted .group p.groupId op.ownedRole) :
    ∃ p, s.profiles[id]?.or s'.profiles[id]? = some p ∧
      op.Allowed granted .group p.groupId op.ownedRole :=
  ⟨p, by rw [hp]; rfl, hallowed⟩

/-- Records that are added are new. -/
lemma of_gains {b : Backup} (h : s.Gains b s')
    (hthings : ∀ t ∈ b.things, op.Allowed granted .group t.groupId op.ownedRole)
    (hprofiles : ∀ p ∈ b.profiles, op.Allowed granted .group p.groupId op.ownedRole)
    (hgroups : ∀ g ∈ b.groups, op.Allowed granted .org g.orgId .editor)
    (hmemberships : ∀ m ∈ b.memberships, op.MembersAllowed granted s s' m.groupId) :
    Warranted granted op s s' where
  things id hne := by
    obtain ⟨hnone, t, hmem, hnew⟩ := h.things.of_ne hne
    obtain ⟨t', ht', heq⟩ := List.mem_map.1 hmem
    obtain rfl : t' = t := congrArg Prod.snd heq
    exact ⟨t', by rw [hnone, hnew]; rfl, hthings t' ht'⟩
  profiles id hne := by
    obtain ⟨hnone, p, hmem, hnew⟩ := h.profiles.of_ne hne
    obtain ⟨p', hp', heq⟩ := List.mem_map.1 hmem
    obtain rfl : p' = p := congrArg Prod.snd heq
    exact ⟨p', by rw [hnone, hnew]; rfl, hprofiles p' hp'⟩
  groups id hne := by
    obtain ⟨hnone, g, hmem, hnew⟩ := h.groups.of_ne hne
    obtain ⟨g', hg', heq⟩ := List.mem_map.1 hmem
    obtain rfl : g' = g := congrArg Prod.snd heq
    exact .inr ⟨g', hnone, hnew, hgroups g' hg'⟩
  memberships key hne := by
    obtain ⟨-, m, hmem, -⟩ := h.memberships.of_ne hne
    obtain ⟨m', hm', heq⟩ := List.mem_map.1 hmem
    have hkey : m'.key = key := congrArg Prod.fst heq
    exact hkey ▸ hmemberships m' hm'

/-- A thing is replaced on behalf of its group. -/
lemma insertThing {id : String} {t new : Thing} (ht : s.things[id]? = some t)
    (hallowed : op.Allowed granted .group t.groupId op.ownedRole)
    (keys : Std.ExtTreeMap String String) :
    Warranted granted op s { s with things := s.things.insert id new, thingKeys := keys } where
  __ := unchanged op s
  things id' hne := by
    simp only [Std.ExtTreeMap.getElem?_insert, Std.compare_eq_iff_eq] at hne
    split at hne
    · rename_i heq
      exact of_stored_thing (heq ▸ ht) hallowed
    · exact absurd rfl hne

/-- Things are given other metadata on behalf of their groups. -/
lemma metadataChanged (h : MetadataChanged granted token s s')
    (hallowed : ∀ g, Permits granted token .group g .editor →
      op.Allowed granted .group g op.ownedRole) : Warranted granted op s s' := by
  rw [h.rest]
  refine { unchanged op s with things := fun id hne => ?_ }
  rcases h.things id with hsame | ⟨stored, metadata, hstored, -, hpermits⟩
  · exact absurd hsame.symm hne
  · exact of_stored_thing hstored (hallowed _ hpermits)

/-- Things are taken out on behalf of their groups. -/
lemma removeThings {ids : List String}
    (hallowed : ∀ id ∈ ids, ∃ g, s.OwnsThing id g ∧ op.Allowed granted .group g op.ownedRole) :
    Warranted granted op s (s.removeThings ids) := by
  refine ⟨fun id hne => ?_, ?_, ?_, ?_⟩
  · rw [Store.things_removeThings] at hne
    split at hne
    · rename_i hid
      obtain ⟨g, ⟨t, ht, rfl⟩, hg⟩ := hallowed id hid
      exact of_stored_thing ht hg
    · exact absurd rfl hne
  -- nothing but things and their keys changes
  · simp
  · simp
  · simp

/-- A profile is replaced on behalf of its group. -/
lemma insertProfile {id : String} {p new : Profile} (hp : s.profiles[id]? = some p)
    (hallowed : op.Allowed granted .group p.groupId op.ownedRole) :
    Warranted granted op s { s with profiles := s.profiles.insert id new } where
  __ := unchanged op s
  profiles id' hne := by
    simp only [Std.ExtTreeMap.getElem?_insert, Std.compare_eq_iff_eq] at hne
    split at hne
    · rename_i heq
      exact of_stored_profile (heq ▸ hp) hallowed
    · exact absurd rfl hne

/-- Profiles are taken out on behalf of their groups. -/
lemma removeProfiles {walk : Store.Walk} {ids : List String}
    (h : s.removeProfiles walk ids = (.ok (), s'))
    (hallowed : ∀ id ∈ ids, ∃ g, s.OwnsProfile id g ∧ op.Allowed granted .group g op.ownedRole) :
    Warranted granted op s s' := by
  obtain ⟨-, hrest, hprofiles⟩ := Store.removeProfiles_ok h
  rw [hrest]
  refine { unchanged op s with profiles := fun id hne => ?_ }
  have hid := hprofiles id
  split at hid
  · rename_i hmem
    obtain ⟨g, ⟨p, hp, rfl⟩, hg⟩ := hallowed id hmem
    exact of_stored_profile hp hg
  · exact absurd hid.symm hne

/-- A group is replaced. -/
lemma insertGroup {id : String} {new : Group} (hid : id ∈ s.groups)
    (hallowed : op.Allowed granted .group id op.ownedRole) :
    Warranted granted op s { s with groups := s.groups.insert id new } where
  things _ hne := absurd rfl hne
  profiles _ hne := absurd rfl hne
  groups id' hne := by
    simp only [Std.ExtTreeMap.getElem?_insert, Std.compare_eq_iff_eq] at hne
    split at hne
    · rename_i heq
      exact .inl (heq ▸ ⟨hid, hallowed⟩)
    · exact absurd rfl hne
  memberships _ hne := absurd rfl hne

/-- Memberships change on behalf of a group. -/
lemma changeMemberships {groupId : String} (hrest : s' = { s with memberships := s'.memberships })
    (hgroup : ∀ key : Membership.Key, s.memberships[key]? ≠ s'.memberships[key]? →
      key.groupId = groupId)
    (hallowed : ∀ after, op.MembersAllowed granted s after groupId) :
    Warranted granted op s s' := by
  rw [hrest]
  refine { unchanged op s with memberships := fun key hne => ?_ }
  exact hgroup key hne ▸ hallowed _

/-- Groups are taken out with whatever they own. -/
lemma of_without {gone : String → Prop} (h : s.Without gone s')
    (hallowed : ∀ g, gone g → op.Allowed granted .group g op.ownedRole)
    (hmembers : ∀ g, gone g → op.MembersAllowed granted s s' g) :
    Warranted granted op s s' where
  things id hne := by
    obtain ⟨t, ht, hgone⟩ := exists_gone (fun _ => h.things_iff) hne
    exact of_stored_thing ht (hallowed _ hgone)
  profiles id hne := by
    obtain ⟨p, hp, hgone⟩ := exists_gone (fun _ => h.profiles_iff) hne
    exact of_stored_profile hp (hallowed _ hgone)
  groups id hne := by
    obtain ⟨g, hg, hgone⟩ := exists_gone (fun _ => h.groups_iff) hne
    exact .inl ⟨Std.ExtTreeMap.mem_iff_isSome_getElem?.2 (by simp [hg]), hallowed _ hgone⟩
  memberships key hne := by
    obtain ⟨m, -, hgone⟩ := exists_gone (fun _ => h.memberships_iff) hne
    exact hmembers _ hgone

/-- Every effect is permitted. -/
lemma of_effect (hs : s.Sound) (h : Effect granted op s s') : Warranted granted op s s' := by
  cases h with
  | nothing => exact unchanged op s
  | createThings things permitted profile gains =>
    exact of_gains gains (fun t ht => ⟨_, rfl, permitted t ht⟩) (by simp) (by simp) (by simp)
  | updateThing found permitted profile =>
    refine insertThing found ?_ s.thingKeys
    exact ⟨_, rfl, permitted⟩
  | updateThingsMetadata changed => exact metadataChanged changed fun g hg => ⟨_, rfl, hg⟩
  | updateKey found permitted updated =>
    obtain ⟨-, stored, hstored, ⟨-, rfl⟩ | ⟨-, -, rfl⟩⟩ := Store.updateKey_ok hs updated
    · exact unchanged _ s'
    · refine insertThing found ?_ _
      exact ⟨_, rfl, permitted⟩
  | removeThings permitted =>
    refine removeThings fun id hid => ?_
    obtain ⟨g, hown, hpermits⟩ := permitted id hid
    exact ⟨g, hown, _, rfl, hpermits⟩
  | createProfiles profiles permitted named gains =>
    exact of_gains gains (by simp) (fun p hp => ⟨_, rfl, permitted p hp⟩) (by simp) (by simp)
  | updateProfile found permitted =>
    refine insertProfile found ?_
    exact ⟨_, rfl, permitted⟩
  | removeProfiles permitted removed =>
    refine removeProfiles removed fun id hid => ?_
    obtain ⟨g, hown, hpermits⟩ := permitted id hid
    exact ⟨g, hown, _, rfl, hpermits⟩
  | createGroups groups memberships permitted org members gains =>
    refine of_gains gains (by simp) (by simp) (fun g hg => ?_) fun m hm => ?_
    · exact ⟨_, rfl, org g hg ▸ permitted⟩
    · -- the group of a new member is one of the new groups
      obtain ⟨g, hg, hgroup⟩ := members m hm
      have hentry : (g.id, g) ∈ groups.map fun g => (g.id, g) := List.mem_map.2 ⟨g, hg, rfl⟩
      have hfree := gains.groups.fresh hentry
      rw [hgroup]
      exact ⟨g, by simpa using hfree, gains.groups.new hentry, _, rfl, org g hg ▸ permitted⟩
  | updateGroup same permitted updated =>
    obtain ⟨stored, hstored, -, rfl⟩ := Store.updateGroup_ok updated
    refine insertGroup (Std.ExtTreeMap.mem_iff_isSome_getElem?.2 (by simp [hstored])) ?_
    exact ⟨_, rfl, same ▸ permitted⟩
  | removeGroups permitted =>
    exact of_without (Store.without_removeGroups hs _) (fun g hg => ⟨_, rfl, permitted g hg.1⟩)
      fun g hg => ⟨_, rfl, permitted g hg.1⟩
  | createMemberships memberships permitted group members gains =>
    refine of_gains gains (by simp) (by simp) (by simp) fun m hm => ?_
    exact ⟨_, rfl, members m hm ▸ permitted⟩
  | @updateMemberships _ groupId _ _ _ memberships permitted members updated =>
    obtain rfl := Store.updateMemberships_ok updated
    refine changeMemberships (Store.foldl_changeRole_rest memberships s) (fun key hne => ?_)
      fun _ => ⟨_, rfl, permitted⟩
    obtain ⟨-, -, hsame⟩ := Store.memberships_foldl_changeRole memberships s key
    -- a membership that no request is about stays as it was
    by_contra hgroup
    refine hne (hsame fun m hm hkey => hgroup ?_).symm
    rw [← hkey]
    exact members m hm
  | removeMemberships permitted =>
    refine changeMemberships (Store.removeMemberships_rest _ _ s) (fun key hne => ?_)
      fun _ => ⟨_, rfl, permitted⟩
    rw [Store.memberships_removeMemberships] at hne
    split at hne
    · rename_i hkey
      exact hkey.1
    · exact absurd rfl hne
  | restore restored permitted gains =>
    exact of_gains gains (fun _ _ => permitted) (fun _ _ => permitted) (fun _ _ => permitted)
      fun _ _ => permitted

end Warranted

/-! ## Every reachable state -/

/-- **Every change of a record was permitted.**  In every reachable state, with whatever
collaborators, whatever record an operation adds, changes or takes out: permission was granted
meanwhile, for the token of the operation, on behalf of the owner of the record. -/
theorem Reachable.changes_warranted {enabled : Bool} {s : State}
    (h : Reachable anyCall enabled s) (setting : Setting) (op : Operation) :
    Warranted (Granted setting s (op.run setting s).2) op s.store (op.run setting s).2.store :=
  .of_effect h.coherent.sound (follows_run h.coherent op).effect

/-- The owner may edit the group, and nothing else is granted to anybody. -/
def groupEditor : Setting where
  __ := permissive
  authorize _ _ request :=
    if request = .forObject "owner" "group" .group .editor then ⟨0, .ok ()⟩
    else ⟨0, .error (.permissionDenied "denied")⟩

/-- The key of the sensor is changed on behalf of its group. -/
theorem sensor_key_change_permitted :
    Permits
      (Granted groupEditor smallFleet
        ((Operation.updateKey "owner" "sensor" "other").run groupEditor smallFleet).2)
      "owner" .group "group" .editor := by
  have hreach : Reachable anyCall true smallFleet := reachable_smallFleet fun _ _ _ => trivial
  have hchanged : smallFleet.store.things["sensor"]? ≠
      ((Operation.updateKey "owner" "sensor" "other").run groupEditor
        smallFleet).2.store.things["sensor"]? := by
    decide +kernel
  obtain ⟨t, ht, token, htoken, hpermits⟩ :=
    (Reachable.changes_warranted hreach groupEditor (.updateKey "owner" "sensor" "other")).things
      "sensor" hchanged
  rw [smallFleet_sensor] at ht
  obtain rfl := Option.some.inj ht
  obtain rfl := Option.some.inj htoken
  exact hpermits

end DeviceFleet.Service
