/-
# The contents of a store

What a store contains is listed as a backup, and a backup is brought back by a list of requests.
In an empty store none of these is refused if the records of the backup pass their checks and are
not in each other's way, and the contents of a store are such a backup, whatever addresses are
filled in for the members.  So the contents of a store, brought back to an empty one, make up the
same store again.  Brought back to the store itself, they are in their own way: the first request is
refused.
-/
import DeviceFleet.Proofs.Store.Gains
import DeviceFleet.Proofs.Store.History

namespace DeviceFleet

namespace Backup

/-- The requests that bring a backup back: one for each group, one for all things, one for all
profiles and one for each membership. -/
def writes (b : Backup) : List Store.Command :=
  b.groups.map .saveGroup ++
    ((if b.things ≠ [] then [.saveThings b.things] else []) ++
      ((if b.profiles ≠ [] then [.saveProfiles b.profiles] else []) ++
        b.memberships.map fun m => .saveMemberships [m]))

/-- The records of a backup can be stored side by side. -/
structure Storable (b : Backup) : Prop where
  /-- They pass their checks. -/
  checked : b.Checked
  /-- No two groups have one identifier. -/
  groups : b.groups.Pairwise fun g g' => g.id ≠ g'.id
  /-- No two things have one key or one identifier. -/
  things : b.things.Pairwise fun t t' => t.key ≠ t'.key ∧ t.id ≠ t'.id
  /-- No two profiles have one identifier. -/
  profiles : b.profiles.Pairwise fun p p' => p.id ≠ p'.id
  /-- No two memberships are of one member in one group. -/
  memberships : b.memberships.Pairwise fun m m' => m.key ≠ m'.key

/-- The backup with the addresses of members filled in. -/
def withEmails (address : String → Option String) (b : Backup) : Backup :=
  { b with memberships := b.memberships.map fun m => { m with email := address m.memberId } }

/-- Addresses do not matter. -/
lemma Storable.withEmails {b : Backup} (h : b.Storable) (address : String → Option String) :
    (b.withEmails address).Storable where
  checked := { h.checked with memberships := List.forall_mem_map.2 h.checked.memberships }
  groups := h.groups
  things := h.things
  profiles := h.profiles
  memberships := List.pairwise_map.2 h.memberships

end Backup

namespace Store

variable {s s' : Store} {b : Backup}

/-! ## Bringing a backup back -/

/-- The groups of a storable backup are stored one by one. -/
lemma runAll_saveGroups (h : b.Storable) :
    ∃ s', runAll (b.groups.map .saveGroup) ∅ = (.ok (), s') ∧
      (∅ : Store).Gains ⟨b.groups, [], [], []⟩ s' := by
  refine runAll_map_eq_ok (motive := fun done s => (∅ : Store).Gains ⟨done, [], [], []⟩ s)
    (fun {done g s} hgains hchecked hne => ?_) (.refl ∅) h.checked.groups h.groups
    fun _ _ => List.forall_mem_nil _
  have hfree : g.id ∉ s.groups := by
    simp only [hgains.groups.mem_iff, List.mem_map, Prod.mk.injEq]
    simpa using fun x hx => hne x hx
  have hsave := saveGroup_eq_ok hchecked hfree
  refine ⟨.group g, _, by rw [Command.run, hsave]; rfl, ?_⟩
  simpa using hgains.trans (.of_group hfree hchecked)

/-- After the groups all things are stored at once. -/
lemma runAll_saveThings (h : b.Storable) (hgains : (∅ : Store).Gains ⟨b.groups, [], [], []⟩ s) :
    ∃ s', runAll (if b.things ≠ [] then [.saveThings b.things] else []) s = (.ok (), s') ∧
      (∅ : Store).Gains ⟨b.groups, b.things, [], []⟩ s' := by
  by_cases hempty : b.things = []
  · refine ⟨s, by simp [hempty, runAll], by rwa [hempty]⟩
  · rw [if_pos hempty, runAll_singleton]
    have hfree : ∀ t ∈ b.things, t.key ∉ s.thingKeys ∧ t.id ∉ s.things := by
      simp [hgains.thingKeys.mem_iff, hgains.things.mem_iff]
    obtain ⟨s', hsave⟩ := saveThings_eq_ok h.checked.things hfree h.things
    obtain ⟨-, hadded, hchecked⟩ := saveThings_ok hsave
    refine ⟨s', by rw [Command.run, hsave]; rfl, ?_⟩
    simpa using hgains.trans (.of_things hadded hchecked)

/-- After the things all profiles are stored at once. -/
lemma runAll_saveProfiles (h : b.Storable)
    (hgains : (∅ : Store).Gains ⟨b.groups, b.things, [], []⟩ s) :
    ∃ s', runAll (if b.profiles ≠ [] then [.saveProfiles b.profiles] else []) s = (.ok (), s') ∧
      (∅ : Store).Gains ⟨b.groups, b.things, b.profiles, []⟩ s' := by
  by_cases hempty : b.profiles = []
  · refine ⟨s, by simp [hempty, runAll], by rwa [hempty]⟩
  · rw [if_pos hempty, runAll_singleton]
    have hfree : ∀ p ∈ b.profiles, p.id ∉ s.profiles := by simp [hgains.profiles.mem_iff]
    obtain ⟨s', hsave⟩ := saveProfiles_eq_ok h.checked.profiles hfree h.profiles
    obtain ⟨-, hadded, hchecked⟩ := saveProfiles_ok hsave
    refine ⟨s', by rw [Command.run, hsave]; rfl, ?_⟩
    simpa using hgains.trans (.of_profiles hadded hchecked)

/-- Finally the memberships are stored one by one. -/
lemma runAll_saveMemberships (h : b.Storable)
    (hgains : (∅ : Store).Gains ⟨b.groups, b.things, b.profiles, []⟩ s) :
    ∃ s', runAll (b.memberships.map fun m => .saveMemberships [m]) s = (.ok (), s') ∧
      (∅ : Store).Gains b s' := by
  refine runAll_map_eq_ok
    (motive := fun done s => (∅ : Store).Gains ⟨b.groups, b.things, b.profiles, done⟩ s)
    (fun {done m s} hgains hchecked hne => ?_) hgains h.checked.memberships h.memberships
    fun _ _ => List.forall_mem_nil _
  have hfree : m.key ∉ s.memberships := by
    simp only [hgains.memberships.mem_iff, List.mem_map, Prod.mk.injEq]
    simpa using fun x hx => hne x hx
  have hsave := saveMembership_eq_ok hchecked hfree
  obtain ⟨hadded, hall⟩ := saveMemberships_ok hsave
  refine ⟨.done, _, by rw [Command.run, hsave]; rfl, ?_⟩
  simpa using hgains.trans (.of_memberships hadded hall)

/-- **A storable backup can be brought back to an empty store.** -/
lemma runAll_writes_eq_ok (h : b.Storable) :
    ∃ s', runAll b.writes ∅ = (.ok (), s') ∧ (∅ : Store).Gains b s' := by
  obtain ⟨s₁, hgroups, hgains₁⟩ := runAll_saveGroups h
  obtain ⟨s₂, hthings, hgains₂⟩ := runAll_saveThings h hgains₁
  obtain ⟨s₃, hprofiles, hgains₃⟩ := runAll_saveProfiles h hgains₂
  obtain ⟨s₄, hmemberships, hgains₄⟩ := runAll_saveMemberships h hgains₃
  refine ⟨s₄, ?_, hgains₄⟩
  rw [Backup.writes, runAll_append_ok hgroups, runAll_append_ok hthings,
    runAll_append_ok hprofiles, hmemberships]

/-! ## What a store contains -/

/-- Every stored record passes the check that is made when it is saved, and no address of a member
is stored. -/
structure Filled (s : Store) : Prop where
  /-- A thing passes its check. -/
  thing : ∀ {id : String} {t : Thing}, s.things[id]? = some t → checkThing t = .ok ()
  /-- A profile passes its check. -/
  profile : ∀ {id : String} {p : Profile}, s.profiles[id]? = some p → checkProfile p = .ok ()
  /-- A group passes its check. -/
  group : ∀ {id : String} {g : Group}, s.groups[id]? = some g → checkGroup g = .ok ()
  /-- A membership passes its check. -/
  membership : ∀ {key : Membership.Key} {m : Membership}, s.memberships[key]? = some m →
    checkMembership m = .ok ()
  /-- A membership has no address. -/
  email : ∀ {key : Membership.Key} {m : Membership}, s.memberships[key]? = some m → m.email = none

/-- The four lists of the contents are the records of the four maps. -/
lemma contents_eq (s : Store) :
    s.contents = ⟨recordsOf s.groups, recordsOf s.things, recordsOf s.profiles,
      recordsOf s.memberships⟩ := by
  simp only [contents, exportGroups, exportThings, exportProfiles, exportMemberships, groupsWhere,
    thingsWhere, profilesWhere, membershipsWhere, List.filter_true]

/-- Two things of a sound store have neither one key nor one identifier. -/
lemma Sound.pairwise_things (h : s.Sound) :
    (recordsOf s.things).Pairwise fun t t' => t.key ≠ t'.key ∧ t.id ≠ t'.id := by
  refine (pairwise_recordsOf h.thing_id).imp_of_mem fun {t t'} ht ht' hne => ⟨fun hkey => ?_, hne⟩
  exact hne (h.key_inj (h.mem_things_iff.1 ht) (h.mem_things_iff.1 ht') hkey)

/-- The contents of a store can be stored side by side. -/
lemma storable_contents (h : s.Sound) (hfilled : s.Filled) : s.contents.Storable := by
  rw [contents_eq]
  refine ⟨⟨fun t ht => ?_, fun p hp => ?_, fun g hg => ?_, fun m hm => ?_⟩,
    pairwise_recordsOf h.group_id, h.pairwise_things, pairwise_recordsOf h.profile_id,
    pairwise_recordsOf h.membership_key⟩
  · exact hfilled.thing (h.mem_things_iff.1 ht)
  · exact hfilled.profile (h.mem_profiles_iff.1 hp)
  · exact hfilled.group (h.mem_groups_iff.1 hg)
  · exact hfilled.membership (h.mem_memberships_iff.1 hm)

/-- A store that has gained the contents of another one, and nothing else, is that one. -/
lemma eq_of_gains_contents (h : s.Sound) (hfilled : s.Filled) {address : String → Option String}
    (hgains : (∅ : Store).Gains (s.contents.withEmails address) s') : s' = s := by
  obtain ⟨hthings, hkeys, hprofiles, hgroups, hmemberships, -⟩ := hgains
  rw [contents_eq] at hthings hkeys hprofiles hgroups hmemberships
  have hthings : s'.things = s.things := eq_of_added_recordsOf h.thing_id hthings
  have hprofiles : s'.profiles = s.profiles := eq_of_added_recordsOf h.profile_id hprofiles
  have hgroups : s'.groups = s.groups := eq_of_added_recordsOf h.group_id hgroups
  have hkeys : s'.thingKeys = s.thingKeys := by
    apply Std.ExtTreeMap.ext_getElem?
    intro key
    ext id
    rw [hkeys.getElem?_iff, h.key_iff]
    simp only [Backup.withEmails, thingKeys_empty, Std.ExtTreeMap.getElem?_empty, reduceCtorEq,
      false_or, List.mem_map, Prod.mk.injEq, h.mem_things_iff]
    constructor
    · rintro ⟨t, ht, rfl, rfl⟩
      exact ⟨t, ht, rfl⟩
    · rintro ⟨t, ht, rfl⟩
      obtain rfl := h.thing_id ht
      exact ⟨t, ht, rfl, rfl⟩
  have hmemberships : s'.memberships = s.memberships := by
    refine eq_of_added_recordsOf h.membership_key (hmemberships.congr fun e => ?_)
    -- the addresses that were filled in are dropped, and there was none before
    have hentries : ((recordsOf s.memberships).map fun m => (m.key, { m with email := none })) =
        (recordsOf s.memberships).map fun m => (m.key, m) := by
      refine List.map_congr_left fun m hm => ?_
      rw [← hfilled.email (h.mem_memberships_iff.1 hm)]
    rw [← hentries, Backup.withEmails, List.map_map]
    rfl
  obtain ⟨things, thingKeys, profiles, groups, memberships⟩ := s
  obtain ⟨things', thingKeys', profiles', groups', memberships'⟩ := s'
  simp only at hthings hkeys hprofiles hgroups hmemberships
  rw [hthings, hkeys, hprofiles, hgroups, hmemberships]

/-- **The contents of a store, brought back to an empty one, make up the store again.** -/
lemma runAll_writes_contents (h : s.Sound) (hfilled : s.Filled)
    (address : String → Option String) :
    runAll (s.contents.withEmails address).writes ∅ = (.ok (), s) := by
  obtain ⟨s', hrun, hgains⟩ :=
    runAll_writes_eq_ok ((storable_contents h hfilled).withEmails address)
  rw [hrun, eq_of_gains_contents h hfilled hgains]

/-! ## Bringing back what is there -/

/-- The store refuses because it has such a record already. -/
inductive IsCollision : StoreError → Prop where
  /-- Another thing has the key. -/
  | key : IsCollision .duplicateKey
  /-- There is a record with the identifier. -/
  | record (kind : EntityKind) (id : String) : IsCollision (.alreadyExists kind id)

lemma saveGroup_collides {g : Group} (hchecked : checkGroup g = .ok ()) (hid : g.id ∈ s.groups) :
    s.saveGroup g = (.error (.alreadyExists .group g.id), s) := by
  rw [saveGroup, hchecked]
  exact if_pos hid

/-- A batch is refused when its first record is. -/
lemma insertEach_cons_error {α : Type} {insert : α → Store → Outcome Unit}
    {undo : α → Store → Store} {x : α} {xs : List α} {e : StoreError}
    (h : insert x s = (.error e, s)) : insertEach insert undo [] (x :: xs) s = (.error e, s) := by
  rw [insertEach, h]
  rfl

lemma saveThings_collides {t : Thing} {things : List Thing}
    (hchecked : ∀ u ∈ t :: things, checkThing u = .ok ()) (hkey : t.key ∈ s.thingKeys) :
    s.saveThings (t :: things) = (.error .duplicateKey, s) := by
  have hinsert : insertThing t s = (.error .duplicateKey, s) := if_pos hkey
  rw [saveThings, forM_eq_ok hchecked, insertEach_cons_error hinsert]

lemma saveProfiles_collides {p : Profile} {profiles : List Profile}
    (hchecked : ∀ q ∈ p :: profiles, checkProfile q = .ok ()) (hid : p.id ∈ s.profiles) :
    s.saveProfiles (p :: profiles) = (.error (.alreadyExists .profile p.id), s) := by
  have hinsert : insertProfile p s = (.error (.alreadyExists .profile p.id), s) := if_pos hid
  rw [saveProfiles, forM_eq_ok hchecked, insertEach_cons_error hinsert]

lemma saveMembership_collides {m : Membership} (hchecked : checkMembership m = .ok ())
    (hkey : m.key ∈ s.memberships) :
    s.saveMemberships [m] = (.error (.alreadyExists .membership m.key.label), s) := by
  have hinsert : insertMembership m s = (.error (.alreadyExists .membership m.key.label), s) :=
    if_pos hkey
  rw [saveMemberships, forM_eq_ok (List.forall_mem_singleton.2 hchecked),
    insertEach_cons_error hinsert]

/-- Every request that would bring back the contents of a store is refused by that store. -/
lemma refused_of_mem_writes (h : s.Sound) (hfilled : s.Filled) {address : String → Option String}
    (hc : c ∈ (s.contents.withEmails address).writes) :
    ∃ e, IsCollision e ∧ c.run s = (.error e, s) := by
  have hchecked := (storable_contents h hfilled).checked
  rw [contents_eq] at hc hchecked
  simp only [Backup.writes, Backup.withEmails, List.mem_append, List.mem_map] at hc
  rcases hc with ⟨g, hg, rfl⟩ | hthings | hprofiles | ⟨-, ⟨m, hm, rfl⟩, rfl⟩
  · have hid := mem_of_getElem? (h.mem_groups_iff.1 hg)
    have hrefused := saveGroup_collides (hchecked.groups g hg) hid
    exact ⟨_, .record .group g.id, by rw [Command.run, hrefused]; rfl⟩
  · -- the first thing is refused, and so are all
    rcases hrecords : recordsOf s.things with _ | ⟨t, things⟩
    · simp [hrecords] at hthings
    · have ht : t ∈ recordsOf s.things := by simp [hrecords]
      have hkey : t.key ∈ s.thingKeys :=
        mem_of_getElem? (h.key_iff.2 ⟨t, h.mem_things_iff.1 ht, rfl⟩)
      have hrefused := saveThings_collides (hrecords ▸ hchecked.things) hkey
      obtain rfl : c = .saveThings (t :: things) := by simpa [hrecords] using hthings
      exact ⟨_, .key, by rw [Command.run, hrefused]; rfl⟩
  · rcases hrecords : recordsOf s.profiles with _ | ⟨p, profiles⟩
    · simp [hrecords] at hprofiles
    · have hp : p ∈ recordsOf s.profiles := by simp [hrecords]
      have hid := mem_of_getElem? (h.mem_profiles_iff.1 hp)
      have hrefused := saveProfiles_collides (hrecords ▸ hchecked.profiles) hid
      obtain rfl : c = .saveProfiles (p :: profiles) := by simpa [hrecords] using hprofiles
      exact ⟨_, .record .profile p.id, by rw [Command.run, hrefused]; rfl⟩
  · have hkey : m.key ∈ s.memberships := mem_of_getElem? (h.mem_memberships_iff.1 hm)
    have hcheck : checkMembership { m with email := address m.memberId } = .ok () :=
      hchecked.memberships m hm
    have hrefused := saveMembership_collides (s := s) hcheck hkey
    exact ⟨_, .record .membership m.key.label, by rw [Command.run, hrefused]; rfl⟩

lemma writes_eq_nil_iff : b.writes = [] ↔ b = ∅ := by
  obtain ⟨groups, things, profiles, memberships⟩ := b
  have hempty : (∅ : Backup) = ⟨[], [], [], []⟩ := rfl
  simp [Backup.writes, hempty]

/-- So a store that gets its own contents back takes nothing, and stays as it is. -/
lemma runAll_writes_own (h : s.Sound) (hfilled : s.Filled) {address : String → Option String}
    (hb : s.contents.withEmails address ≠ ∅) :
    ∃ e, IsCollision e ∧ runAll (s.contents.withEmails address).writes s = (.error e, s) := by
  rcases hwrites : (s.contents.withEmails address).writes with _ | ⟨c, cs⟩
  · exact absurd (writes_eq_nil_iff.1 hwrites) hb
  · obtain ⟨e, hcollision, hrun⟩ :=
      refused_of_mem_writes h hfilled (c := c) (by rw [hwrites]; exact List.mem_cons_self)
    exact ⟨e, hcollision, runAll_cons_error hrun⟩

end Store

end DeviceFleet
