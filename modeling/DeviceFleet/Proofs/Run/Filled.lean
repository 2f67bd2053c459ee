/-
# Nothing blank

Whatever is stored passes the check that the store makes when it saves a record: no identifier, no
key and no owner is blank.  The store does not check a thing again when it is given another
profile; but the service has then found the profile, which is stored and so has no blank
identifier.  Addresses of members are never stored.
-/
import DeviceFleet.Proofs.Run.Step
import DeviceFleet.Proofs.Store.Contents

namespace DeviceFleet

namespace Store

variable {s s' : Store} {b : Backup}

lemma filled_empty : (∅ : Store).Filled := by constructor <;> simp

namespace Filled

/-- Things may change as long as they pass their checks. -/
lemma of_things (h : s.Filled) (hgroups : s'.groups = s.groups)
    (hprofiles : s'.profiles = s.profiles) (hmemberships : s'.memberships = s.memberships)
    (hthings : ∀ {id : String} {t : Thing}, s'.things[id]? = some t → checkThing t = .ok ()) :
    s'.Filled :=
  ⟨hthings, fun hp => h.profile (hprofiles ▸ hp), fun hg => h.group (hgroups ▸ hg),
    fun hm => h.membership (hmemberships ▸ hm), fun hm => h.email (hmemberships ▸ hm)⟩

/-- A thing may be replaced by one that passes its check. -/
lemma insertThing (h : s.Filled) {id : String} {new : Thing} (hnew : checkThing new = .ok ())
    (keys : Std.ExtTreeMap String String) :
    Filled { s with things := s.things.insert id new, thingKeys := keys } := by
  refine h.of_things rfl rfl rfl fun {id' t} ht => ?_
  rcases eq_or_of_getElem?_insert ht with rfl | hold
  · exact hnew
  · exact h.thing hold

/-- Profiles may change as long as they pass their checks. -/
lemma of_profiles (h : s.Filled) {profiles : Std.ExtTreeMap String Profile}
    (hprofiles : ∀ {id : String} {p : Profile}, profiles[id]? = some p → checkProfile p = .ok ()) :
    Filled { s with profiles := profiles } :=
  ⟨h.thing, hprofiles, h.group, h.membership, h.email⟩

/-- A group may be added or replaced if the new one passes its check. -/
lemma insertGroup (h : s.Filled) {id : String} {new : Group} (hnew : checkGroup new = .ok ()) :
    Filled { s with groups := s.groups.insert id new } := by
  refine ⟨h.thing, h.profile, fun {id' g} hg => ?_, h.membership, h.email⟩
  rcases eq_or_of_getElem?_insert hg with rfl | hold
  · exact hnew
  · exact h.group hold

/-- Memberships may be taken out and given other roles. -/
lemma of_memberships (h : s.Filled) (hrest : s' = { s with memberships := s'.memberships })
    (hmemberships : ∀ {key : Membership.Key} {m : Membership}, s'.memberships[key]? = some m →
      ∃ stored role time, s.memberships[key]? = some stored ∧
        m = { stored with role := role, updatedAt := time }) : s'.Filled := by
  have hmembership : ∀ {key : Membership.Key} {m : Membership}, s'.memberships[key]? = some m →
      checkMembership m = .ok () ∧ m.email = none := by
    intro key m hm
    obtain ⟨stored, role, time, hstored, rfl⟩ := hmemberships hm
    -- neither the check nor the address depends on what has changed
    have hcheck := h.membership hstored
    have hemail := h.email hstored
    exact ⟨hcheck, hemail⟩
  rw [hrest]
  exact ⟨h.thing, h.profile, h.group, fun hm => (hmembership hm).1, fun hm => (hmembership hm).2⟩

/-- Whatever is added has passed its check. -/
lemma gains (h : s.Filled) (hgains : s.Gains b s') : s'.Filled := by
  have hmembership : ∀ {key : Membership.Key} {m : Membership}, s'.memberships[key]? = some m →
      checkMembership m = .ok () ∧ m.email = none := by
    intro key m hm
    rcases hgains.membership_iff.1 hm with hold | ⟨m, hnew, -, rfl⟩
    · exact ⟨h.membership hold, h.email hold⟩
    · exact ⟨hgains.checked.memberships m hnew, rfl⟩
  refine ⟨fun ht => ?_, fun hp => ?_, fun hg => ?_, fun hm => (hmembership hm).1,
    fun hm => (hmembership hm).2⟩
  · rcases hgains.thing_iff.1 ht with hold | ⟨hnew, -⟩
    · exact h.thing hold
    · exact hgains.checked.things _ hnew
  · rcases hgains.profile_iff.1 hp with hold | ⟨hnew, -⟩
    · exact h.profile hold
    · exact hgains.checked.profiles _ hnew
  · rcases hgains.group_iff.1 hg with hold | ⟨hnew, -⟩
    · exact h.group hold
    · exact hgains.checked.groups _ hnew

/-- Taking out groups adds nothing. -/
lemma without {gone : String → Prop} (h : s.Filled) (hwithout : Without s gone s') : s'.Filled :=
  ⟨fun ht => h.thing (hwithout.things_iff.1 ht).1,
    fun hp => h.profile (hwithout.profiles_iff.1 hp).1,
    fun hg => h.group (hwithout.groups_iff.1 hg).1,
    fun hm => h.membership (hwithout.memberships_iff.1 hm).1,
    fun hm => h.email (hwithout.memberships_iff.1 hm).1⟩

/-- A stored thing may be given another profile that is stored. -/
lemma checkThing_of_ownsProfile (h : s.Filled) (hs : s.Sound) {id profileId groupId name : String}
    {t : Thing} {metadata : Metadata} (ht : s.things[id]? = some t)
    (hown : s.OwnsProfile profileId groupId) :
    checkThing { t with name := name, profileId := profileId, metadata := metadata } = .ok () := by
  obtain ⟨p, hp, -⟩ := hown
  obtain ⟨hid, hkey, hgroup, -⟩ := checkThing_eq_ok_iff.1 (h.thing ht)
  have hprofile := (checkProfile_eq_ok_iff.1 (h.profile hp)).1
  rw [hs.profile_id hp] at hprofile
  exact checkThing_eq_ok_iff.2 ⟨hid, hkey, hgroup, hprofile⟩

/-- A thing whose key is changed gets no blank one. -/
lemma updateKey (h : s.Filled) (hs : s.Sound) {id key : String}
    (hupdate : s.updateKey id key = (.ok (), s')) : s'.Filled := by
  obtain ⟨hblank, stored, hstored, ⟨-, rfl⟩ | ⟨-, -, rfl⟩⟩ := updateKey_ok hs hupdate
  · exact h
  · obtain ⟨hid, -, hrest⟩ := checkThing_eq_ok_iff.1 (h.thing hstored)
    have hnew : checkThing { stored with key := key } = .ok () :=
      checkThing_eq_ok_iff.2 ⟨hid, hblank, hrest⟩
    exact h.insertThing hnew _

end Filled

end Store

namespace Service

variable {s : State} {enabled : Bool} {admits : State → Setting → Operation → Prop}

/-- No effect stores anything blank. -/
lemma Effect.filled {granted : AuthorizeRequest → Prop} {op : Operation} {s s' : Store}
    (h : Effect granted op s s') (hs : s.Sound) (hfilled : s.Filled) : s'.Filled := by
  cases h with
  | nothing => exact hfilled
  | createThings things permitted profile gains => exact hfilled.gains gains
  | updateThing found permitted profile =>
    exact hfilled.insertThing (hfilled.checkThing_of_ownsProfile hs found profile) s.thingKeys
  | updateThingsMetadata changed =>
    have hrest := changed.rest
    refine hfilled.of_things (by rw [hrest]) (by rw [hrest]) (by rw [hrest]) fun {id t} ht => ?_
    obtain ⟨stored, metadata, hstored, rfl⟩ := changed.origin ht
    have hcheck := hfilled.thing hstored
    exact hcheck
  | updateKey found permitted updated => exact hfilled.updateKey hs updated
  | removeThings permitted =>
    refine hfilled.of_things (by simp) (by simp) (by simp) fun {id t} ht => ?_
    rw [Store.things_removeThings, Option.ite_none_left_eq_some] at ht
    exact hfilled.thing ht.2
  | createProfiles profiles permitted named gains => exact hfilled.gains gains
  | updateProfile found permitted =>
    have hcheck := hfilled.profile found
    refine hfilled.of_profiles fun {id p} hp => ?_
    rcases eq_or_of_getElem?_insert hp with rfl | hold
    · exact hcheck
    · exact hfilled.profile hold
  | removeProfiles permitted removed =>
    obtain ⟨-, hrest, hremoved⟩ := Store.removeProfiles_ok removed
    rw [hrest]
    refine hfilled.of_profiles fun {id p} hp => ?_
    rw [hremoved, Option.ite_none_left_eq_some] at hp
    exact hfilled.profile hp.2
  | createGroups groups memberships permitted org members gains => exact hfilled.gains gains
  | updateGroup same permitted updated =>
    obtain ⟨stored, hstored, rfl, rfl⟩ := Store.updateGroup_ok updated
    have hcheck := hfilled.group hstored
    exact hfilled.insertGroup hcheck
  | removeGroups permitted => exact hfilled.without (Store.without_removeGroups hs _)
  | createMemberships memberships permitted group members gains => exact hfilled.gains gains
  | updateMemberships memberships permitted members updated =>
    obtain rfl := Store.updateMemberships_ok updated
    refine hfilled.of_memberships (Store.foldl_changeRole_rest memberships s) fun {key m} hm => ?_
    obtain ⟨hsome, hnone, -⟩ := Store.memberships_foldl_changeRole memberships s key
    rcases hstored : s.memberships[key]? with _ | stored
    · simp [hnone hstored] at hm
    · obtain ⟨role, time, hnew⟩ := hsome stored hstored
      exact ⟨stored, role, time, rfl, Option.some.inj (hm.symm.trans hnew)⟩
  | removeMemberships permitted =>
    refine hfilled.of_memberships (Store.removeMemberships_rest _ _ s) fun {key m} hm => ?_
    rw [Store.memberships_removeMemberships, Option.ite_none_left_eq_some] at hm
    exact ⟨m, m.role, m.updatedAt, hm.2, rfl⟩
  | restore restored permitted gains => exact hfilled.gains gains

/-- **In every reachable state nothing that is stored is blank.** -/
lemma Reachable.filled (h : Reachable admits enabled s) : s.store.Filled := by
  induction h with
  | refl => exact Store.filled_empty
  | tail hleads hstep ih =>
    obtain ⟨setting, op, -, rfl⟩ := hstep
    have hcoherent := Reachable.coherent hleads
    have hfollows : Follows setting op _ _ := follows_run hcoherent op
    exact hfollows.effect.filled hcoherent.sound ih

end Service

end DeviceFleet
