/-
# Coherent states

The caches mirror the store when everything that they remember is what the store would answer.
This file has that invariant of the service, `State.Coherent`, and says what of it survives a
change of the store: whatever the caches remember about records that the change leaves alone.
-/
import DeviceFleet.Proofs.Cache.Member
import DeviceFleet.Proofs.Cache.Resource
import DeviceFleet.Proofs.Store.Gains
import DeviceFleet.Service.Action

namespace DeviceFleet

namespace Store

variable {s s' : Store} {b : Backup} {id groupId memberId key : String}

/-- The thing `id` has the key. -/
def NamesThing (s : Store) (key id : String) : Prop :=
  ∃ t : Thing, s.things[id]? = some t ∧ t.key = key

/-- The group owns the thing `id`. -/
def OwnsThing (s : Store) (id groupId : String) : Prop :=
  ∃ t : Thing, s.things[id]? = some t ∧ t.groupId = groupId

/-- The group owns the profile `id`. -/
def OwnsProfile (s : Store) (id groupId : String) : Prop :=
  ∃ p : Profile, s.profiles[id]? = some p ∧ p.groupId = groupId

/-- What a store answers about keys, owners and members it still answers after a change, but for
some things, profiles and groups. -/
structure KeptBut (s : Store) (things profiles groups : String → Prop) (s' : Store) : Prop where
  /-- Things keep their keys. -/
  names : ∀ {key id : String}, ¬ things id → s.NamesThing key id → s'.NamesThing key id
  /-- Things keep their groups. -/
  thing_owners : ∀ {id groupId : String}, ¬ things id → s.OwnsThing id groupId →
    s'.OwnsThing id groupId
  /-- Profiles keep their groups. -/
  profile_owners : ∀ {id groupId : String}, ¬ profiles id → s.OwnsProfile id groupId →
    s'.OwnsProfile id groupId
  /-- Members keep their groups. -/
  members : ∀ {memberId : String}, (∀ g ∈ s.groupIdsOfMember memberId, ¬ groups g) →
    s.groupIdsOfMember memberId = s'.groupIdsOfMember memberId

/-- What a store answers about keys, owners and members it still answers after a change. -/
abbrev Kept (s s' : Store) : Prop :=
  s.KeptBut (fun _ => False) (fun _ => False) (fun _ => False) s'

/-- A change of the groups alone keeps the rest. -/
lemma kept_groups (s : Store) (groups : Std.ExtTreeMap String Group) :
    s.Kept { s with groups := groups } :=
  ⟨fun _ h => h, fun _ h => h, fun _ h => h, fun _ => rfl⟩

section InsertThing

variable {stored new : Thing} (h : s.things[id]? = some stored)

include h in
/-- A thing may be replaced by another one with its group. -/
lemma OwnsThing.insertThing {id' : String} (hown : s.OwnsThing id' groupId)
    (hgroup : new.groupId = stored.groupId) (keys : Std.ExtTreeMap String String) :
    OwnsThing { s with things := s.things.insert id new, thingKeys := keys } id' groupId := by
  obtain ⟨t, ht, rfl⟩ := hown
  simp only [OwnsThing, Std.ExtTreeMap.getElem?_insert, Std.compare_eq_iff_eq]
  by_cases hid : id = id'
  · subst hid
    obtain rfl := Option.some.inj (h.symm.trans ht)
    exact ⟨new, if_pos rfl, hgroup⟩
  · exact ⟨t, by rw [if_neg hid]; exact ht, rfl⟩

/-- The keys of other things stay when a thing is replaced. -/
lemma NamesThing.insertThing {id' : String} (hname : s.NamesThing key id') (hne : id' ≠ id)
    (keys : Std.ExtTreeMap String String) :
    NamesThing { s with things := s.things.insert id new, thingKeys := keys } key id' := by
  obtain ⟨t, ht, rfl⟩ := hname
  simp only [NamesThing, Std.ExtTreeMap.getElem?_insert, Std.compare_eq_iff_eq]
  exact ⟨t, by rw [if_neg (Ne.symm hne)]; exact ht, rfl⟩

include h in
/-- A thing may be replaced by another one with its group and its key. -/
lemma kept_insertThing (hgroup : new.groupId = stored.groupId) (hkey : new.key = stored.key) :
    s.Kept { s with things := s.things.insert id new } := by
  refine ⟨?_, fun _ hown => hown.insertThing h hgroup s.thingKeys, fun _ hown => hown, fun _ => rfl⟩
  intro key id' _ hname
  by_cases hid : id' = id
  · subst hid
    obtain ⟨t, ht, rfl⟩ := hname
    obtain rfl := Option.some.inj (h.symm.trans ht)
    exact ⟨new, by simp, hkey⟩
  · exact hname.insertThing hid s.thingKeys

end InsertThing

lemma kept_updateThing {t : Thing} (h : s.updateThing t = (.ok (), s')) : s.Kept s' := by
  obtain ⟨stored, hstored, rfl⟩ := updateThing_ok h
  exact kept_insertThing hstored rfl rfl

/-- A profile may be replaced by another one with its group. -/
lemma kept_insertProfile {stored new : Profile} (h : s.profiles[id]? = some stored)
    (hgroup : new.groupId = stored.groupId) :
    s.Kept { s with profiles := s.profiles.insert id new } := by
  refine ⟨fun _ h => h, fun _ h => h, ?_, fun _ => rfl⟩
  rintro id' g - ⟨p, hp, rfl⟩
  simp only [OwnsProfile, Std.ExtTreeMap.getElem?_insert, Std.compare_eq_iff_eq]
  by_cases hid : id = id'
  · subst hid
    obtain rfl := Option.some.inj (h.symm.trans hp)
    exact ⟨new, if_pos rfl, hgroup⟩
  · exact ⟨p, by rw [if_neg hid]; exact hp, rfl⟩

lemma kept_updateProfile {p : Profile} (h : s.updateProfile p = (.ok (), s')) : s.Kept s' := by
  obtain ⟨stored, hstored, rfl⟩ := updateProfile_ok h
  exact kept_insertProfile hstored rfl

namespace Gains

lemma mem_memberships_iff (h : Gains s b s') {key : Membership.Key} :
    key ∈ s'.memberships ↔ key ∈ s.memberships ∨ ∃ m ∈ b.memberships, m.key = key := by
  simp only [Std.ExtTreeMap.mem_iff_isSome_getElem?, Option.isSome_iff_exists,
    h.memberships.getElem?_iff, List.mem_map, Prod.mk.injEq]
  grind

/-- Records that are added leave alone what was known about others. -/
lemma names (h : Gains s b s') (hkey : s.NamesThing key id) : s'.NamesThing key id := by
  obtain ⟨t, ht, hk⟩ := hkey
  exact ⟨t, h.things.old ht, hk⟩

lemma thing_owners (h : Gains s b s') (hg : s.OwnsThing id groupId) :
    s'.OwnsThing id groupId := by
  obtain ⟨t, ht, hg⟩ := hg
  exact ⟨t, h.things.old ht, hg⟩

lemma profile_owners (h : Gains s b s') (hg : s.OwnsProfile id groupId) :
    s'.OwnsProfile id groupId := by
  obtain ⟨p, hp, hg⟩ := hg
  exact ⟨p, h.profiles.old hp, hg⟩

/-- Only members with a new membership have other groups than before. -/
lemma groupIdsOfMember_eq (h : Gains s b s') (hs : s.Sound) (hs' : s'.Sound)
    (hm : memberId ∉ b.memberships.map (·.memberId)) :
    s.groupIdsOfMember memberId = s'.groupIdsOfMember memberId := by
  refine groupIdsOfMember_congr hs hs' fun groupId => ?_
  rw [h.mem_memberships_iff]
  constructor
  · exact .inl
  · rintro (hmem | ⟨m, hmem, hkey⟩)
    · exact hmem
    · have hmember : m.memberId = memberId := congrArg Membership.Key.memberId hkey
      exact absurd (List.mem_map.2 ⟨m, hmem, hmember⟩) hm

/-- Without new memberships nothing that was known has changed. -/
lemma kept (h : Gains s b s') (hs : s.Sound) (hs' : s'.Sound) (hb : b.memberships = []) :
    s.Kept s' :=
  ⟨fun _ => h.names, fun _ => h.thing_owners, fun _ => h.profile_owners,
    fun _ => h.groupIdsOfMember_eq hs hs' (by simp [hb])⟩

end Gains

lemma keptBut_removeThings (s : Store) (ids : List String) :
    s.KeptBut (· ∈ ids) (fun _ => False) (fun _ => False) (s.removeThings ids) := by
  refine ⟨?_, ?_, ?_, ?_⟩
  · rintro key id hid ⟨t, ht, rfl⟩
    exact ⟨t, by rw [things_removeThings, if_neg hid]; exact ht, rfl⟩
  · rintro id g hid ⟨t, ht, rfl⟩
    exact ⟨t, by rw [things_removeThings, if_neg hid]; exact ht, rfl⟩
  · intro id g _ h
    simpa only [OwnsProfile, profiles_removeThings] using h
  · intro m _
    simp only [groupIdsOfMember, membershipsWhere, memberships_removeThings]

lemma keptBut_removeProfiles {walk : Walk} {ids : List String}
    (h : s.removeProfiles walk ids = (.ok (), s')) :
    s.KeptBut (fun _ => False) (· ∈ ids) (fun _ => False) s' := by
  obtain ⟨-, hrest, hprofiles⟩ := removeProfiles_ok h
  refine ⟨?_, ?_, ?_, ?_⟩
  · intro key id _ hkey
    rw [hrest]
    exact hkey
  · intro id g _ hg
    rw [hrest]
    exact hg
  · rintro id g hid ⟨p, hp, rfl⟩
    exact ⟨p, by rw [hprofiles, if_neg hid]; exact hp, rfl⟩
  · intro m _
    rw [hrest]
    rfl

/-- When groups are taken out, what is known about other groups and what they own stays true. -/
lemma Without.keptBut {gone : String → Prop} (h : Without s gone s') (hs : s.Sound)
    (hs' : s'.Sound) :
    s.KeptBut (fun id => ∃ g, s.OwnsThing id g ∧ gone g)
      (fun id => ∃ g, s.OwnsProfile id g ∧ gone g) gone s' := by
  refine ⟨?_, ?_, ?_, ?_⟩
  · rintro key id hid ⟨t, ht, hk⟩
    exact ⟨t, h.things_iff.2 ⟨ht, fun hgone => hid ⟨_, ⟨t, ht, rfl⟩, hgone⟩⟩, hk⟩
  · rintro id g hid ⟨t, ht, hg⟩
    exact ⟨t, h.things_iff.2 ⟨ht, fun hgone => hid ⟨_, ⟨t, ht, rfl⟩, hgone⟩⟩, hg⟩
  · rintro id g hid ⟨p, hp, hg⟩
    exact ⟨p, h.profiles_iff.2 ⟨hp, fun hgone => hid ⟨_, ⟨p, hp, rfl⟩, hgone⟩⟩, hg⟩
  · intro m hm
    refine groupIdsOfMember_congr hs hs' fun g => ?_
    simp only [Std.ExtTreeMap.mem_iff_isSome_getElem?, Option.isSome_iff_exists,
      h.memberships_iff, exists_and_right]
    refine ⟨fun hmem => ⟨hmem, ?_⟩, fun hmem => hmem.1⟩
    obtain ⟨x, hx⟩ := hmem
    refine hm g ((mem_groupIdsOfMember_iff hs).2 ?_)
    exact Std.ExtTreeMap.mem_iff_isSome_getElem?.2 (by simp [hx])

end Store

/-! ## Caches and store -/

namespace Caches

variable {caches : Caches} {s s' : Store} {things profiles groups : String → Prop}

/-- All caches are in memory. -/
def InMemory (caches : Caches) : Prop :=
  ∃ things profiles groups, caches = ⟨.memory things, .memory profiles, .memory groups⟩

/-- The caches are in memory, and what they remember is what the store would answer. -/
structure Mirrors (caches : Caches) (s : Store) : Prop where
  /-- The keys and groups of things. -/
  things : ∃ c, caches.things = .memory c ∧ c.Mirrors s.NamesThing s.OwnsThing
  /-- The groups of profiles, which have no keys. -/
  profiles : ∃ c, caches.profiles = .memory c ∧ c.Mirrors (fun _ _ => False) s.OwnsProfile
  /-- The groups of members. -/
  groups : ∃ c, caches.groups = .memory c ∧ c.Mirrors s.groupIdsOfMember

/-- The caches remember nothing about some things, profiles and groups. -/
structure Avoid (caches : Caches) (things profiles groups : String → Prop) : Prop where
  /-- Nothing about the things. -/
  things : ∀ {c}, caches.things = .memory c → c.Avoids things
  /-- Nothing about the profiles. -/
  profiles : ∀ {c}, caches.profiles = .memory c → c.Avoids profiles
  /-- No list with one of the groups. -/
  groups : ∀ {c}, caches.groups = .memory c → c.Avoids groups

lemma avoid_nothing (caches : Caches) :
    caches.Avoid (fun _ => False) (fun _ => False) (fun _ => False) :=
  ⟨fun _ => .of_forall_not fun _ h => h, fun _ => .of_forall_not fun _ h => h,
    fun _ _ _ _ _ _ h => h⟩

namespace Avoid

variable {things' profiles' groups' : String → Prop} {id : String}

lemma anti (h : caches.Avoid things profiles groups) (ht : ∀ id, things' id → things id)
    (hp : ∀ id, profiles' id → profiles id) (hg : ∀ g, groups' g → groups g) :
    caches.Avoid things' profiles' groups' :=
  ⟨fun hc => (h.things hc).anti ht, fun hc => (h.profiles hc).anti hp,
    fun hc m gs hgs g hmem hgone => h.groups hc m gs hgs g hmem (hg g hgone)⟩

/-- All about a thing is forgotten. -/
lemma forgetThing (h : caches.Avoid things profiles groups) {c : ResourceCache}
    (hc : caches.things = .memory c) (hindexed : c.Indexed) (id : String) :
    Avoid { caches with things := .memory ((c.remove id).removeGroup id) }
      (fun id' => things id' ∨ id' = id) profiles groups := by
  refine ⟨fun hc' => ?_, h.profiles, h.groups⟩
  obtain rfl := Lookaside.memory.inj hc'
  exact ((h.things hc).anti fun _ h => h.1).forget hindexed

/-- All about a profile is forgotten. -/
lemma forgetProfile (h : caches.Avoid things profiles groups) {c : ResourceCache}
    (hc : caches.profiles = .memory c) (hkeys : ∀ key : String, c.keys[key]? ≠ some id) :
    Avoid { caches with profiles := .memory (c.removeGroup id) } things
      (fun id' => profiles id' ∨ id' = id) groups := by
  refine ⟨h.things, fun hc' => ?_, h.groups⟩
  obtain rfl := Lookaside.memory.inj hc'
  exact ((h.profiles hc).anti fun _ h => h.1).forgetGroup hkeys

/-- A member is forgotten. -/
lemma forgetMember (h : caches.Avoid things profiles groups) {c : MemberCache}
    (hc : caches.groups = .memory c) (memberId : String) :
    Avoid { caches with groups := .memory (c.remove memberId) } things profiles groups := by
  refine ⟨h.things, h.profiles, fun hc' => ?_⟩
  obtain rfl := Lookaside.memory.inj hc'
  exact (h.groups hc).remove memberId

/-- All members of a group are forgotten. -/
lemma forgetGroup (h : caches.Avoid things profiles groups) {c : MemberCache}
    (hc : caches.groups = .memory c) (hindexed : c.Indexed) (groupId : String) :
    Avoid { caches with groups := .memory (c.removeGroup groupId) } things profiles
      (fun g => groups g ∨ g = groupId) := by
  refine ⟨h.things, h.profiles, fun hc' => ?_⟩
  obtain rfl := Lookaside.memory.inj hc'
  exact (h.groups hc).removeGroup hindexed groupId

end Avoid

lemma mirrors_inMemory (enabled : Bool) (s : Store) : (inMemory enabled).Mirrors s :=
  ⟨⟨_, rfl, .empty enabled⟩, ⟨_, rfl, .empty enabled⟩, ⟨_, rfl, .empty enabled⟩⟩

lemma Mirrors.inMemory (h : caches.Mirrors s) : caches.InMemory := by
  obtain ⟨ct, hct, -⟩ := h.things
  obtain ⟨cp, hcp, -⟩ := h.profiles
  obtain ⟨cg, hcg, -⟩ := h.groups
  exact ⟨ct, cp, cg, by rw [← hct, ← hcp, ← hcg]⟩

/-- When the store changes, the caches stay right as long as they remember nothing about what
changes. -/
lemma Mirrors.change (h : caches.Mirrors s) (havoid : caches.Avoid things profiles groups)
    (hkept : s.KeptBut things profiles groups s') : caches.Mirrors s' := by
  obtain ⟨ct, hct, ht⟩ := h.things
  obtain ⟨cp, hcp, hp⟩ := h.profiles
  obtain ⟨cg, hcg, hg⟩ := h.groups
  refine ⟨⟨ct, hct, ht.mono ?_ ?_⟩, ⟨cp, hcp, hp.mono ?_ ?_⟩, ⟨cg, hcg, hg.mono ?_⟩⟩
  · exact fun key id hk => hkept.names ((havoid.things hct).keys hk)
  · exact fun id g hid => hkept.thing_owners ((havoid.things hct).groups hid)
  · exact fun key id _ hfalse => hfalse
  · exact fun id g hid => hkept.profile_owners ((havoid.profiles hcp).groups hid)
  · rintro m gs hgs rfl
    exact hkept.members ((havoid.groups hcg) m _ hgs)

/-- When a thing has got another key, its keys have to be forgotten; its group is the same. -/
lemma Mirrors.updateKey (h : caches.Mirrors s) (hs : s.Sound) {c : ResourceCache}
    (hc : caches.things = .memory c) {id key : String}
    (hupdate : s.updateKey id key = (.ok (), s')) :
    Mirrors { caches with things := .memory (c.remove id) } s' := by
  obtain ⟨c', hc', hmirrors⟩ := h.things
  obtain rfl := Lookaside.memory.inj (hc.symm.trans hc')
  obtain ⟨-, stored, hstored, ⟨-, rfl⟩ | ⟨-, -, rfl⟩⟩ := Store.updateKey_ok hs hupdate
  · exact ⟨⟨_, rfl, hmirrors.remove id⟩, h.profiles, h.groups⟩
  · refine ⟨⟨_, rfl, (hmirrors.remove id).mono ?_ ?_⟩, h.profiles, h.groups⟩
    · intro k id' hk hname
      have hne := (hmirrors.indexed.getElem?_keys_remove_iff.1 hk).2
      exact hname.insertThing hne _
    · intro id' g _ hown
      refine hown.insertThing hstored ?_ _
      rfl

/-- When memberships have changed, the members with other groups than before have to be
forgotten. -/
lemma Mirrors.changeMembers (h : caches.Mirrors s) {c : MemberCache}
    (hc : caches.groups = .memory c) {ms : List String}
    (hrest : s' = { s with memberships := s'.memberships })
    (hsame : ∀ m, m ∉ ms → s.groupIdsOfMember m = s'.groupIdsOfMember m) :
    Mirrors { caches with groups := .memory (ms.foldl (fun c m => c.remove m) c) } s' := by
  obtain ⟨c', hc', hmirrors⟩ := h.groups
  obtain rfl := Lookaside.memory.inj (hc.symm.trans hc')
  refine ⟨?_, ?_, ⟨_, rfl, hmirrors.foldl_remove hsame⟩⟩
  · rw [hrest]
    exact h.things
  · rw [hrest]
    exact h.profiles

end Caches

/-- The store is sound and the caches mirror it. -/
structure State.Coherent (s : State) : Prop where
  /-- The store is sound. -/
  sound : s.store.Sound
  /-- The caches mirror the store. -/
  mirrors : s.caches.Mirrors s.store

namespace State.Coherent

variable {s : State}

lemma initial (enabled : Bool) : (State.initial ∅ (Caches.inMemory enabled)).Coherent :=
  ⟨Store.sound_empty, Caches.mirrors_inMemory enabled ∅⟩

/-- Only the store and the caches matter. -/
lemma congr (h : s.Coherent) {s' : State} (hstore : s'.store = s.store)
    (hcaches : s'.caches = s.caches) : s'.Coherent :=
  ⟨hstore ▸ h.sound, hstore ▸ hcaches ▸ h.mirrors⟩

end State.Coherent

end DeviceFleet
