/-
# Records and their groups

Things, profiles and memberships name the group that they belong to.  A group that is taken out
takes them with it, members are added to stored groups only, and things to the group of their
profile.  Profiles are different: whether their group is stored is not looked at.  A caller who
administers the platform may act on any group, also on one that is not there, so such a profile
can be made, and then things with it.

So every record belongs to a stored group, up to the groups in which profiles were made although
they were not stored.  A restore does not look at groups at all and is left out here.
-/
import DeviceFleet.Proofs.Run.Step

namespace DeviceFleet

namespace Store

variable {s s' : Store} {b : Backup} {missing : String → Prop}

/-- Every membership belongs to a stored group, and every thing and every profile to a stored
group or to one of those that are `missing`. -/
structure Housed (missing : String → Prop) (s : Store) : Prop where
  /-- The group of a thing. -/
  thing : ∀ {id : String} {t : Thing}, s.things[id]? = some t →
    t.groupId ∈ s.groups ∨ missing t.groupId
  /-- The group of a profile. -/
  profile : ∀ {id : String} {p : Profile}, s.profiles[id]? = some p →
    p.groupId ∈ s.groups ∨ missing p.groupId
  /-- The group of a membership. -/
  membership : ∀ {key : Membership.Key} {m : Membership}, s.memberships[key]? = some m →
    m.groupId ∈ s.groups

lemma housed_empty : (∅ : Store).Housed missing := by constructor <;> simp

namespace Housed

/-- The profile of a thing vouches for the group. -/
lemma of_ownsProfile (h : s.Housed missing) {id groupId : String}
    (hown : s.OwnsProfile id groupId) : groupId ∈ s.groups ∨ missing groupId := by
  obtain ⟨p, hp, rfl⟩ := hown
  exact h.profile hp

/-- Things may change as long as they keep their groups. -/
lemma of_things (h : s.Housed missing) (hgroups : s'.groups = s.groups)
    (hprofiles : s'.profiles = s.profiles) (hmemberships : s'.memberships = s.memberships)
    (hthings : ∀ {id : String} {t : Thing}, s'.things[id]? = some t →
      ∃ (id₀ : String) (t₀ : Thing), s.things[id₀]? = some t₀ ∧ t₀.groupId = t.groupId) :
    s'.Housed missing := by
  refine ⟨fun ht => ?_, fun hp => ?_, fun hm => ?_⟩
  · obtain ⟨id₀, t₀, ht₀, hgroup⟩ := hthings ht
    rw [hgroups, ← hgroup]
    exact h.thing ht₀
  · rw [hgroups]
    exact h.profile (hprofiles ▸ hp)
  · rw [hgroups]
    exact h.membership (hmemberships ▸ hm)

/-- A thing may be replaced by one in the same group. -/
lemma insertThing (h : s.Housed missing) {id : String} {stored new : Thing}
    (hstored : s.things[id]? = some stored) (hgroup : new.groupId = stored.groupId)
    (keys : Std.ExtTreeMap String String) :
    Housed missing { s with things := s.things.insert id new, thingKeys := keys } := by
  refine h.of_things rfl rfl rfl fun {id' t} ht => ?_
  rcases eq_or_of_getElem?_insert ht with rfl | hold
  · exact ⟨id, stored, hstored, hgroup.symm⟩
  · exact ⟨id', t, hold, rfl⟩

/-- A profile may be replaced by one in the same group. -/
lemma insertProfile (h : s.Housed missing) {id : String} {stored new : Profile}
    (hstored : s.profiles[id]? = some stored) (hgroup : new.groupId = stored.groupId) :
    Housed missing { s with profiles := s.profiles.insert id new } := by
  refine { thing := h.thing, profile := fun {id' p} hp => ?_, membership := h.membership }
  rcases eq_or_of_getElem?_insert hp with rfl | hold
  · exact hgroup ▸ h.profile hstored
  · exact h.profile hold

/-- Groups may be added and replaced. -/
lemma insertGroup (h : s.Housed missing) (id : String) (g : Group) :
    Housed missing { s with groups := s.groups.insert id g } := by
  have hmem : ∀ {id' : String}, id' ∈ s.groups → id' ∈ s.groups.insert id g := fun hid =>
    Std.ExtTreeMap.mem_insert.2 (.inr hid)
  exact ⟨fun ht => (h.thing ht).imp_left hmem, fun hp => (h.profile hp).imp_left hmem,
    fun hm => hmem (h.membership hm)⟩

/-- Memberships may change as long as each is left in its place. -/
lemma of_memberships (h : s.Housed missing) (hs : s.Sound) (hs' : s'.Sound)
    (hrest : s' = { s with memberships := s'.memberships })
    (hkeys : ∀ {key : Membership.Key}, key ∈ s'.memberships → key ∈ s.memberships) :
    s'.Housed missing := by
  have hmembership : ∀ {key : Membership.Key} {m : Membership}, s'.memberships[key]? = some m →
      m.groupId ∈ s.groups := by
    intro key m hm
    have hkey : key ∈ s.memberships :=
      hkeys (Std.ExtTreeMap.mem_iff_isSome_getElem?.2 (by simp [hm]))
    have hold := Std.ExtTreeMap.getElem?_eq_some_getElem hkey
    -- the group of a membership is that of its place
    have hgroup : m.groupId = s.memberships[key].groupId :=
      congrArg Membership.Key.groupId ((hs'.membership_key hm).trans (hs.membership_key hold).symm)
    rw [hgroup]
    exact h.membership hold
  rw [hrest]
  exact ⟨h.thing, h.profile, hmembership⟩

/-- Records may be added if the groups of those among them are there afterwards. -/
lemma gains (h : s.Housed missing) (hgains : s.Gains b s')
    (hthings : ∀ t ∈ b.things, t.groupId ∈ s'.groups ∨ missing t.groupId)
    (hprofiles : ∀ p ∈ b.profiles, p.groupId ∈ s'.groups ∨ missing p.groupId)
    (hmemberships : ∀ m ∈ b.memberships, m.groupId ∈ s'.groups) : s'.Housed missing := by
  have hmem : ∀ {id : String}, id ∈ s.groups → id ∈ s'.groups := hgains.groups.mem_of_mem
  refine ⟨fun ht => ?_, fun hp => ?_, fun hm => ?_⟩
  · rcases hgains.thing_iff.1 ht with hold | ⟨hnew, -⟩
    · exact (h.thing hold).imp_left hmem
    · exact hthings _ hnew
  · rcases hgains.profile_iff.1 hp with hold | ⟨hnew, -⟩
    · exact (h.profile hold).imp_left hmem
    · exact hprofiles _ hnew
  · rcases hgains.membership_iff.1 hm with hold | ⟨m, hnew, -, rfl⟩
    · exact hmem (h.membership hold)
    · exact hmemberships m hnew

/-- What is left when groups are taken out belongs to the groups that are left. -/
lemma without {gone : String → Prop} (h : s.Housed missing) (hs : s.Sound)
    (hwithout : Without s gone s') : s'.Housed missing := by
  have hmem : ∀ {id : String}, ¬ gone id → id ∈ s.groups → id ∈ s'.groups := fun hid hold =>
    hwithout.mem_groups_iff.2 ⟨hold, hid⟩
  refine ⟨fun ht => ?_, fun hp => ?_, fun hm => ?_⟩
  · obtain ⟨hold, hnot⟩ := hwithout.things_iff.1 ht
    exact (h.thing hold).imp_left (hmem hnot)
  · obtain ⟨hold, hnot⟩ := hwithout.profiles_iff.1 hp
    exact (h.profile hold).imp_left (hmem hnot)
  · obtain ⟨hold, hnot⟩ := hwithout.memberships_iff.1 hm
    rw [← hs.membership_key hold] at hnot
    exact hmem hnot (h.membership hold)

end Housed

end Store

namespace Service

open DeviceFleet.Action

variable {setting : Setting} {s s' : State} {enabled : Bool} {missing : String → Prop}

/-- Every effect but that of a restore leaves the records in stored groups, if profiles are only
made in stored groups or in those that are `missing`. -/
lemma Effect.housed {granted : AuthorizeRequest → Prop} {op : Operation} {s s' : Store}
    (h : Effect granted op s s') (hs : s.Sound) (hs' : s'.Sound) (hhoused : s.Housed missing)
    (hrestore : ∀ token b, op ≠ .restore token b)
    (hprofiles : ∀ token profiles, op = .createProfiles token profiles →
      ∀ p ∈ profiles, p.groupId ∈ s.groups ∨ missing p.groupId) : s'.Housed missing := by
  cases h with
  | nothing => exact hhoused
  | createThings things permitted profile gains =>
    refine hhoused.gains gains (fun t ht => ?_) (by simp) (by simp)
    exact (hhoused.of_ownsProfile (profile t ht)).imp_left gains.groups.mem_of_mem
  | updateThing found permitted profile =>
    refine hhoused.insertThing found ?_ s.thingKeys
    rfl
  | updateThingsMetadata changed =>
    have hrest := changed.rest
    refine hhoused.of_things (by rw [hrest]) (by rw [hrest]) (by rw [hrest]) fun {id t} ht => ?_
    obtain ⟨stored, metadata, hstored, rfl⟩ := changed.origin ht
    exact ⟨id, stored, hstored, rfl⟩
  | updateKey found permitted updated =>
    obtain ⟨-, stored, hstored, ⟨-, rfl⟩ | ⟨-, -, rfl⟩⟩ := Store.updateKey_ok hs updated
    · exact hhoused
    · refine hhoused.insertThing hstored ?_ _
      rfl
  | removeThings permitted =>
    refine hhoused.of_things (by simp) (by simp) (by simp) fun {id t} ht => ?_
    rw [Store.things_removeThings, Option.ite_none_left_eq_some] at ht
    exact ⟨id, t, ht.2, rfl⟩
  | createProfiles profiles permitted named gains =>
    refine hhoused.gains gains (by simp) (fun p hp => ?_) (by simp)
    obtain ⟨q, hq, hgroup⟩ := named p hp
    rw [hgroup]
    exact (hprofiles _ _ rfl q hq).imp_left gains.groups.mem_of_mem
  | updateProfile found permitted =>
    refine hhoused.insertProfile found ?_
    rfl
  | removeProfiles permitted removed =>
    obtain ⟨-, hrest, hremoved⟩ := Store.removeProfiles_ok removed
    rw [hrest]
    refine ⟨hhoused.thing, fun {id p} hp => ?_, hhoused.membership⟩
    rw [hremoved, Option.ite_none_left_eq_some] at hp
    exact hhoused.profile hp.2
  | createGroups groups memberships permitted org members gains =>
    refine hhoused.gains gains (by simp) (by simp) fun m hm => ?_
    -- the group of a new member is one of the new groups
    obtain ⟨g, hg, hgroup⟩ := members m hm
    have hnew := gains.groups.new (List.mem_map.2 ⟨g, hg, rfl⟩)
    rw [hgroup]
    exact Std.ExtTreeMap.mem_iff_isSome_getElem?.2 (by simp [hnew])
  | updateGroup same permitted updated =>
    obtain ⟨stored, -, -, rfl⟩ := Store.updateGroup_ok updated
    exact hhoused.insertGroup _ _
  | removeGroups permitted => exact hhoused.without hs (Store.without_removeGroups hs _)
  | createMemberships memberships permitted group members gains =>
    refine hhoused.gains gains (by simp) (by simp) fun m hm => ?_
    exact members m hm ▸ gains.groups.mem_of_mem group
  | updateMemberships memberships permitted members updated =>
    obtain rfl := Store.updateMemberships_ok updated
    exact hhoused.of_memberships hs hs' (Store.foldl_changeRole_rest memberships s)
      (Store.mem_foldl_changeRole_iff memberships s _).1
  | removeMemberships permitted =>
    refine hhoused.of_memberships hs hs' (Store.removeMemberships_rest _ _ s) fun {key} hkey => ?_
    rw [Std.ExtTreeMap.mem_iff_isSome_getElem?, Store.memberships_removeMemberships] at hkey
    split at hkey
    · simp at hkey
    · exact Std.ExtTreeMap.mem_iff_isSome_getElem?.2 hkey
  | restore restored permitted gains => exact absurd rfl (hrestore _ _)

/-- Anything but a restore is admitted. -/
def noRestore (_ : State) (_ : Setting) (op : Operation) : Prop :=
  ∀ token b, op ≠ .restore token b

/-- Moreover profiles are only made in stored groups or in those that are `missing`. -/
def housing (missing : String → Prop) (s : State) (setting : Setting) (op : Operation) : Prop :=
  noRestore s setting op ∧ ∀ token profiles, op = .createProfiles token profiles →
    ∀ p ∈ profiles, p.groupId ∈ s.store.groups ∨ missing p.groupId

/-- **Every record belongs to a stored group, but for those that came with a profile made in a
group that was missing.**  If profiles are only made in stored groups, there are no exceptions;
and whatever groups are missing, memberships are never among the exceptions. -/
theorem Reachable.store_housed (h : Reachable (housing missing) enabled s) :
    s.store.Housed missing := by
  induction h with
  | refl => exact Store.housed_empty
  | tail hleads hstep ih =>
    obtain ⟨setting, op, ⟨hrestore, hprofiles⟩, rfl⟩ := hstep
    have hcoherent := Reachable.coherent hleads
    have hfollows : Follows setting op _ _ := follows_run hcoherent op
    exact hfollows.effect.housed hcoherent.sound hfollows.coherent.sound ih hrestore hprofiles

/-- The profile of the small fleet is made in a stored group, so the sensor belongs to one. -/
theorem sensor_group_stored : sensor.groupId ∈ smallFleet.store.groups := by
  have hempty : Reachable (housing fun _ => False) true (.initial ∅ (Caches.inMemory true)) := .refl
  have hgroup := hempty.step (show housing _ _ permissive (.createGroups "owner" "org"
    [⟨"group", "", "Group", "", ∅, .ofSeconds 0, .ofSeconds 0⟩]) from ⟨nofun, nofun⟩)
  have hprofile := hgroup.step (show housing _ _ permissive (.createProfiles "owner"
    [⟨"profile", "group", "Profile", ∅, ∅⟩]) from ⟨nofun, by
      rintro _ _ ⟨⟩
      exact List.forall_mem_singleton.2 (.inl (by decide +kernel))⟩)
  have hthing := hprofile.step (show housing _ _ permissive (.createThings "owner" [sensor]) from
    ⟨nofun, nofun⟩)
  have hreach : Reachable (housing fun _ => False) true smallFleet :=
    hthing.step (show housing _ _ permissive (.identify "secret") from ⟨nofun, nofun⟩)
  exact ((Reachable.store_housed hreach).thing smallFleet_sensor).elim id False.elim

/-- Whoever has the token of the platform administrator may act on the whole platform, and nobody
may do anything else. -/
def administered : Setting where
  __ := permissive
  authorize _ _ request :=
    if request = .root "root" then ⟨0, .ok ()⟩ else ⟨0, .error (.permissionDenied "denied")⟩

/-- A sensor in a group that nobody has made. -/
def straySensor : Thing := { sensor with groupId := "nowhere" }

/-- The administrator makes a profile in a group that is not there, and a sensor with it. -/
def strayFleetOps : List Operation :=
  [.createProfiles "root" [⟨"profile", "nowhere", "Profile", ∅, ∅⟩],
    .createThings "root" [straySensor]]

/-- The service after these operations. -/
def strayFleet : State := after administered strayFleetOps (.initial ∅ (Caches.inMemory true))

/-- Without any restore there are then records in a group that is not stored. -/
theorem strayFleet_not_housed :
    Reachable noRestore true strayFleet ∧
      strayFleet.store.things["sensor"]? = some straySensor ∧
      straySensor.groupId ∉ strayFleet.store.groups ∧
      ¬ strayFleet.store.Housed (fun _ => False) := by
  have hreach : Reachable noRestore true strayFleet := by
    refine leads_after (fun s op hop token b heq => ?_) _
    subst heq
    simp [strayFleetOps] at hop
  have hsensor : strayFleet.store.things["sensor"]? = some straySensor := by decide +kernel
  have hmissing : straySensor.groupId ∉ strayFleet.store.groups := by decide +kernel
  refine ⟨hreach, hsensor, hmissing, fun hhoused => ?_⟩
  exact (hhoused.thing hsensor).elim hmissing id

end Service

end DeviceFleet
