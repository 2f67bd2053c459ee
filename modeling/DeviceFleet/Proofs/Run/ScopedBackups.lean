/-
# Exports of a part

Besides the export of everything there are exports for an organization and for a group.  Each of
them is asked for and found in its own way, and yet it is a restriction of the export of
everything: the records that belong to the organization or the group, as they are there and in the
order they have there.  The addresses of members, too, are the same, since a directory of users
that is asked for fewer of them gives the same addresses.
-/
import DeviceFleet.Proofs.Run.Roundtrip
import DeviceFleet.Proofs.Service.Scope

namespace DeviceFleet.Service

open DeviceFleet.Action DeviceFleet.Access

variable {α κ : Type} {setting : Setting} {s : State} {store : Store} {enabled : Bool}
  {token : String} {address : String → Option String}

/-! ## The directory of users -/

/-- The directory of users replies in time and knows the addresses `address`: of the users that are
asked for it lists those that have an address. -/
def Knows (setting : Setting) (address : String → Option String) : Prop :=
  ∀ calls store ids, ∃ users,
    setting.heard (setting.findUsers calls store ids) = some (.ok users) ∧
      ∀ id ∈ ids, ∀ email, (⟨id, email⟩ : User) ∈ users ↔ address id = some email

/-- The address that is looked up in the list is the one that the directory knows. -/
lemma emailOf_eq {users : List User} {id : String}
    (h : ∀ email, (⟨id, email⟩ : User) ∈ users ↔ address id = some email) :
    emailOf users id = address id := by
  rw [emailOf]
  cases hfound : users.reverse.find? (fun u => u.id == id) with
  | none =>
    rw [List.find?_eq_none] at hfound
    rcases haddress : address id with _ | email
    · rfl
    · have hmem := List.mem_reverse.2 ((h email).2 haddress)
      simpa using hfound _ hmem
  | some user =>
    have hid : user.id = id := by simpa using List.find?_some hfound
    have hmem := List.mem_reverse.1 (List.mem_of_find?_eq_some hfound)
    subst hid
    exact ((h user.email).1 hmem).symm

lemma memberId_mem_memberIds {memberships : List Membership} {m : Membership}
    (hm : m ∈ memberships) : m.memberId ∈ memberIds memberships := by
  rw [memberIds, Std.ExtTreeSet.mem_toList, Std.ExtTreeSet.mem_ofList]
  exact List.elem_eq_true_of_mem (List.mem_map_of_mem hm)

/-- A directory that knows all addresses knows those of the members. -/
lemma Knows.members (h : Knows setting address) (memberships : List Membership) :
    KnowsMembers setting (memberships.map fun m => { m with email := address m.memberId }) := by
  intro _ calls store
  obtain ⟨users, hheard, husers⟩ := h calls store
    (memberIds (memberships.map fun m => { m with email := address m.memberId }))
  obtain ⟨hintime, hanswer⟩ := Setting.heard_eq_some_iff.1 hheard
  refine ⟨users, hintime, hanswer, fun m hm => ?_⟩
  obtain ⟨m', -, rfl⟩ := List.mem_map.1 hm
  exact emailOf_eq (husers _ (memberId_mem_memberIds hm))

/-! ## Questions of those who may ask -/

/-- Who passes a check is answered a question that the store never refuses. -/
lemma run_checked_query (hfaults : setting.faults = []) {subject : Subject} {object : String}
    {action : Role} (hpasses : Passes setting s token subject object action) (denied : String)
    (method : Store.Method) (f : Store → α) :
    ∃ s', (canAccess subject denied token object action >>= fun _ =>
      ask method fun store => .ok (f store)) setting s = (.ok (f s.store), s') ∧
        s'.store = s.store := by
  obtain ⟨s', haccess, hunchanged⟩ := hpasses.run_canAccess denied
  refine ⟨s', ?_, hunchanged.store⟩
  rw [run_bind_ok haccess, run_query hfaults, hunchanged.store]

/-- Who owns an organization is answered a question about its groups. -/
lemma run_orgScope_query (hfaults : setting.faults = []) {orgId : String}
    (hpasses : Passes setting s token .org orgId .owner) (method : Store.Method)
    (f : List String → Store → α) :
    ((orgScope token orgId >>= fun ids => ask method fun store => .ok (f ids store)) setting s).1 =
      .ok (f (s.store.groupIdsOfOrg orgId) s.store) := by
  obtain ⟨s', hscope, hstore⟩ := run_checked_query hfaults hpasses "org access denied"
    .groupIdsOfOrg fun store => store.groupIdsOfOrg orgId
  have hrun : orgScope token orgId setting s = (.ok (s.store.groupIdsOfOrg orgId), s') := hscope
  rw [run_bind_ok hrun, run_query hfaults, hstore]

/-! ## Parts of a list -/

/-- The parts of a list that belong to different keys make up the list. -/
lemma flatMap_filter_perm [DecidableEq κ] (key : α → κ) {keys : List κ} {items : List α}
    (hnodup : keys.Nodup) (hcovered : ∀ a ∈ items, key a ∈ keys) :
    (keys.flatMap fun k => items.filter fun a => key a == k).Perm items := by
  induction keys generalizing items with
  | nil =>
    have hempty : items = [] := List.eq_nil_iff_forall_not_mem.2 fun a ha =>
      List.not_mem_nil (hcovered a ha)
    rw [hempty]
    exact .refl []
  | cons k keys ih =>
    rw [List.nodup_cons] at hnodup
    -- the other parts are those of what does not belong to `k`
    have hothers : (keys.flatMap fun k' => items.filter fun a => key a == k') =
        keys.flatMap fun k' => (items.filter fun a => !key a == k).filter fun a => key a == k' := by
      refine List.flatMap_congr fun k' hk' => ?_
      have hne : k' ≠ k := fun heq => hnodup.1 (heq ▸ hk')
      rw [List.filter_filter]
      refine List.filter_congr fun a _ => ?_
      by_cases hkey : key a = k'
      · simp [hkey, hne]
      · simp [hkey]
    rw [List.flatMap_cons, hothers]
    refine .trans (.append_left _ (ih hnodup.2 fun a ha => ?_)) (List.filter_append_perm _ items)
    rw [List.mem_filter] at ha
    have hne : key a ≠ k := by simpa using ha.2
    exact (List.mem_cons.1 (hcovered a ha.1)).resolve_left hne

/-- To be in a list of one key is to be that key. -/
lemma filter_singleton_contains (key : α → String) (k : String) (items : List α) :
    (items.filter fun a => [k].contains (key a)) = items.filter fun a => key a == k := by
  simp only [List.contains_cons, List.contains_nil, Bool.or_false]

/-! ## The exports of parts -/

/-- The exports of parts of the records `store` are restrictions of the export `b` of everything,
whoever asks for them, if they may, and whatever was asked before. -/
structure Restricts (setting : Setting) (address : String → Option String) (store : Store)
    (b : Backup) : Prop where
  /-- The groups of an organization. -/
  groupsOfOrg : ∀ (s : State) token orgId, s.store = store →
    Passes setting s token .org orgId .owner →
      ((Operation.backupGroupsByOrg token orgId).run setting s).1 =
        .ok (.groups (b.groups.filter fun g => g.orgId == orgId))
  /-- The things in the stored groups of an organization. -/
  thingsOfOrg : ∀ (s : State) token orgId, s.store = store →
    Passes setting s token .org orgId .owner →
      ((Operation.backupThingsByOrg token orgId).run setting s).1 =
        .ok (.things (b.things.filter fun t => store.InOrg orgId t.groupId))
  /-- The profiles in the stored groups of an organization. -/
  profilesOfOrg : ∀ (s : State) token orgId, s.store = store →
    Passes setting s token .org orgId .owner →
      ((Operation.backupProfilesByOrg token orgId).run setting s).1 =
        .ok (.profiles (b.profiles.filter fun p => store.InOrg orgId p.groupId))
  /-- The things of a group. -/
  thingsOfGroup : ∀ (s : State) token groupId, s.store = store →
    Passes setting s token .group groupId .owner →
      ((Operation.backupThingsByGroup token groupId).run setting s).1 =
        .ok (.things (b.things.filter fun t => t.groupId == groupId))
  /-- The profiles of a group. -/
  profilesOfGroup : ∀ (s : State) token groupId, s.store = store →
    Passes setting s token .group groupId .owner →
      ((Operation.backupProfilesByGroup token groupId).run setting s).1 =
        .ok (.profiles (b.profiles.filter fun p => p.groupId == groupId))
  /-- The memberships of a group. -/
  membershipsOfGroup : ∀ (s : State) token groupId, s.store = store →
    Passes setting s token .group groupId .owner →
      ((Operation.backupMemberships token groupId).run setting s).1 =
        .ok (.memberships (b.memberships.filter fun m => m.groupId == groupId))
  /-- Members have the addresses that the directory knows. -/
  email : ∀ m ∈ b.memberships, m.email = address m.memberId
  /-- No group is exported twice. -/
  nodup : b.groups.Nodup
  /-- The groups of all organizations, asked for one after the other, are all groups. -/
  split : ∀ (orgIds : List String) (part : String → List Group), orgIds.Nodup →
    (∀ g ∈ b.groups, g.orgId ∈ orgIds) →
    (∀ orgId ∈ orgIds, ∃ (s : State) (token : String), s.store = store ∧
      Passes setting s token .org orgId .owner ∧
      ((Operation.backupGroupsByOrg token orgId).run setting s).1 = .ok (.groups (part orgId))) →
    (orgIds.flatMap part).Perm b.groups

lemma contains_groupIdsOfOrg (h : store.Sound) (orgId groupId : String) :
    (store.groupIdsOfOrg orgId).contains groupId = decide (store.InOrg orgId groupId) := by
  rw [Bool.eq_iff_iff, List.contains_iff_mem, Store.mem_groupIdsOfOrg_iff h, decide_eq_true_iff]

/-- What an action answers is answered by the operation that hands it on. -/
lemma run_map_fst {β : Type} {x : Action α} {f : α → β} {a : α} (h : (x setting s).1 = .ok a) :
    ((f <$> x) setting s).1 = .ok (f a) := by
  rw [run_map, h]
  rfl

/-- The groups of an organization are exported. -/
lemma run_backupGroupsByOrg (hfaults : setting.faults = []) {orgId : String}
    (hpasses : Passes setting s token .org orgId .owner) :
    ((Operation.backupGroupsByOrg token orgId).run setting s).1 =
      .ok (.groups ((Store.recordsOf s.store.groups).filter fun g => g.orgId == orgId)) := by
  obtain ⟨s', hrun, -⟩ := run_checked_query hfaults hpasses "org access denied"
    .exportGroupsOfOrg fun store => store.exportGroupsOfOrg orgId
  exact run_map_fst (congrArg Prod.fst hrun)

/-- The memberships of a group are exported with addresses. -/
lemma run_backupMemberships (hfaults : setting.faults = []) (hknows : Knows setting address)
    {groupId : String} (hpasses : Passes setting s token .group groupId .owner) :
    ((Operation.backupMemberships token groupId).run setting s).1 =
      .ok (.memberships ((s.store.exportMembershipsOfGroup groupId).map
        fun m => { m with email := address m.memberId })) := by
  obtain ⟨s', hrun, -⟩ := run_checked_query hfaults hpasses "group access denied"
    .exportMembershipsOfGroup fun store => store.exportMembershipsOfGroup groupId
  have hall : backupMemberships token groupId setting s =
      resolveEmails (s.store.exportMembershipsOfGroup groupId) setting s' := by
    rw [backupMemberships, ← bind_assoc]
    exact run_bind_ok hrun
  refine run_map_fst ?_
  rw [hall]
  exact run_resolveEmails_ok (hknows.members _)

/-- The exports of parts restrict the contents of the store. -/
lemma restricts_contents (hfaults : setting.faults = []) (hknows : Knows setting address)
    (h : store.Sound) : Restricts setting address store (store.contents.withEmails address) where
  groupsOfOrg := by
    rintro s token orgId rfl hpasses
    rw [Store.contents_eq]
    exact run_backupGroupsByOrg hfaults hpasses
  thingsOfOrg := by
    rintro s token orgId rfl hpasses
    have hrun := run_orgScope_query hfaults hpasses .exportThingsOfGroups
      fun ids store => store.exportThingsOfGroups ids
    simp only [Store.exportThingsOfGroups, Store.thingsWhere, contains_groupIdsOfOrg h] at hrun
    rw [Store.contents_eq]
    exact run_map_fst hrun
  profilesOfOrg := by
    rintro s token orgId rfl hpasses
    have hrun := run_orgScope_query hfaults hpasses .exportProfilesOfGroups
      fun ids store => store.exportProfilesOfGroups ids
    simp only [Store.exportProfilesOfGroups, Store.profilesWhere, contains_groupIdsOfOrg h] at hrun
    rw [Store.contents_eq]
    exact run_map_fst hrun
  thingsOfGroup := by
    rintro s token groupId rfl hpasses
    obtain ⟨s', hrun, -⟩ := run_checked_query hfaults hpasses "group access denied"
      .exportThingsOfGroups fun store => store.exportThingsOfGroups [groupId]
    rw [Store.contents_eq]
    refine run_map_fst ((congrArg Prod.fst hrun).trans (congrArg Except.ok ?_))
    exact filter_singleton_contains Thing.groupId groupId _
  profilesOfGroup := by
    rintro s token groupId rfl hpasses
    obtain ⟨s', hrun, -⟩ := run_checked_query hfaults hpasses "group access denied"
      .exportProfilesOfGroups fun store => store.exportProfilesOfGroups [groupId]
    rw [Store.contents_eq]
    refine run_map_fst ((congrArg Prod.fst hrun).trans (congrArg Except.ok ?_))
    exact filter_singleton_contains Profile.groupId groupId _
  membershipsOfGroup := by
    rintro s token groupId rfl hpasses
    rw [run_backupMemberships hfaults hknows hpasses, Store.contents_eq, Backup.withEmails,
      List.filter_map]
    rfl
  email := by
    intro m hm
    obtain ⟨m', -, rfl⟩ := List.mem_map.1 hm
    rfl
  nodup := by
    rw [Store.contents_eq]
    refine (Store.pairwise_recordsOf h.group_id).imp fun {g g'} hne heq => ?_
    exact hne (congrArg Group.id heq)
  split := by
    intro orgIds part hnodup hcovered hparts
    have hpart : ∀ orgId ∈ orgIds, part orgId =
        (store.contents.withEmails address).groups.filter fun g => g.orgId == orgId := by
      intro orgId horg
      obtain ⟨s, token, rfl, hpasses, hrun⟩ := hparts orgId horg
      rw [run_backupGroupsByOrg hfaults hpasses] at hrun
      rw [Store.contents_eq]
      exact (Answer.groups.inj (Except.ok.inj hrun)).symm
    rw [List.flatMap_congr hpart]
    exact flatMap_filter_perm Group.orgId hnodup hcovered

/-- **The exports of parts are restrictions of the export of everything.**  In every reachable
state, if the directory of users is available and the caller administers the platform, everything
is exported; and whoever may ask for a part is given what the export of everything has of it. -/
theorem Reachable.scoped_backups_restrict (h : Reachable anyCall enabled s)
    (hfaults : setting.faults = []) (hknows : Knows setting address)
    (hroot : Grants setting s (.root token)) :
    ∃ b, ((Operation.backup token).run setting s).1 = .ok (.backup b) ∧
      Restricts setting address s.store b := by
  have hbackup : (backup token setting s).1 = .ok (s.store.contents.withEmails address) :=
    run_backup_of_root hfaults hroot (hknows.members s.store.exportMemberships)
  refine ⟨s.store.contents.withEmails address, run_map_fst hbackup, ?_⟩
  exact restricts_contents hfaults hknows h.coherent.sound

/-- The small fleet, with a guest in the group. -/
def sharedFleet : State :=
  after permissive (smallFleetOps ++ [.createMemberships "owner" "group" [⟨"guest", .viewer⟩]])
    (.initial ∅ (Caches.inMemory true))

/-- Everybody may do everything, and the directory knows the owner only. -/
def ownerListed : Setting where
  __ := permissive
  findUsers _ _ ids :=
    ⟨0, .ok (if "owner" ∈ ids then [⟨"owner", "owner@example.org"⟩] else [])⟩

lemma ownerListed_knows :
    Knows ownerListed fun id => if id = "owner" then some "owner@example.org" else none := by
  intro _ _ ids
  refine ⟨_, rfl, fun id hid email => ?_⟩
  by_cases howner : id = "owner"
  · subst howner
    simp [hid, eq_comm]
  · by_cases hasked : "owner" ∈ ids
    · simp [hasked, howner]
    · simp [hasked, howner]

/-- The memberships in the group of the shared fleet are exported, the guest without address. -/
theorem sharedFleet_exported :
    (∃ b, ((Operation.backup "root").run ownerListed sharedFleet).1 = .ok (.backup b) ∧
      ((Operation.backupThingsByOrg "owner" "org").run ownerListed sharedFleet).1 =
        .ok (.things (b.things.filter fun t => sharedFleet.store.InOrg "org" t.groupId)) ∧
      ((Operation.backupMemberships "owner" "group").run ownerListed sharedFleet).1 =
        .ok (.memberships (b.memberships.filter fun m => m.groupId == "group"))) ∧
    ((Operation.backupThingsByOrg "owner" "org").run ownerListed sharedFleet).1 =
      .ok (.things [sensor]) ∧
    ((Operation.backupMemberships "owner" "group").run ownerListed sharedFleet).1 =
      .ok (.memberships
        [⟨"guest", "group", .viewer, none, .ofSeconds 0, .ofSeconds 0⟩,
          ⟨"owner", "group", .owner, some "owner@example.org", .ofSeconds 0, .ofSeconds 0⟩]) := by
  have hreach : Reachable anyCall true sharedFleet := leads_after (fun _ _ _ => trivial) _
  have hroot : Grants ownerListed sharedFleet (.root "root") := rfl
  obtain ⟨b, hrun, hparts⟩ := hreach.scoped_backups_restrict rfl ownerListed_knows hroot
  refine ⟨⟨b, hrun, ?_, ?_⟩, by decide +kernel, by decide +kernel⟩
  · exact hparts.thingsOfOrg sharedFleet "owner" "org" rfl (.inl rfl)
  · exact hparts.membershipsOfGroup sharedFleet "owner" "group" rfl (.inl rfl)

end DeviceFleet.Service
