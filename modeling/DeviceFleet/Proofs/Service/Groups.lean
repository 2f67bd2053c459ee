/-
# The operations on groups

What the operations that write groups do.  Groups are made one after the other, so a failure
keeps what was made before; every other failure leaves the records as they were.  Groups are
taken out with whatever they own, after the caches were made to forget all of it.
-/
import DeviceFleet.Proofs.Service.Profiles
import DeviceFleet.Service.Groups

namespace DeviceFleet.Service

open DeviceFleet.Action DeviceFleet.Access

variable {setting : Setting} {s : State} {token orgId groupId id : String}

/-! ## Forgetting members -/

/-- Members are forgotten one after the other. -/
lemma run_forgetMembers {α : Type} (xs : List α) (f : α → String) {c : MemberCache}
    (hc : s.caches.groups = .memory c) :
    (xs.forM fun x => forgetMember (f x)) setting s =
      (.ok (), { s with
        caches := { s.caches with
          groups := .memory ((xs.map f).foldl (fun c m => c.remove m) c) } }) := by
  induction xs generalizing s c with
  | nil => exact congrArg (Prod.mk _) (by simp [← hc])
  | cons x xs ih =>
    change (changeMemberCache (MemberCache.remove (f x)) >>= fun _ =>
      xs.forM fun x => forgetMember (f x)) setting s = _
    rw [run_bind_ok (run_changeMemberCache hc _)]
    exact ih rfl

/-- The members that are forgotten when `forget` is carried out. -/
def Forgets (forget : Action Unit) (ids : List String) : Prop :=
  ∀ ⦃setting : Setting⦄ ⦃s : State⦄ ⦃c : MemberCache⦄, s.caches.groups = .memory c →
    forget setting s = (.ok (), { s with
      caches := { s.caches with groups := .memory (ids.foldl (fun c m => c.remove m) c) } })

lemma forgets_forgetMember (memberId : String) : Forgets (forgetMember memberId) [memberId] :=
  fun _ _ _ hc => run_changeMemberCache hc _

lemma forgets_forM {α : Type} (xs : List α) (f : α → String) :
    Forgets (xs.forM fun x => forgetMember (f x)) (xs.map f) :=
  fun _ _ _ hc => run_forgetMembers xs f hc

lemma blind_forgetMember (memberId : String) : Blind (forgetMember memberId) :=
  blind_changeMemberCache (MemberCache.remove_empty memberId false)

/-- Memberships are changed, and then the members that have other groups than before are
forgotten.  In between the cache of members is not right, but nothing is looked up. -/
lemma ensures_changeMembers {method : Store.Method} {f : Store → Store.Outcome Unit}
    {forget : Action Unit} {ids : List String} (hs : s.Coherent) (hforget : Forgets forget ids)
    (herror : ∀ e store, f s.store = (.error e, store) → store = s.store)
    (hok : ∀ store, f s.store = (.ok (), store) → store.Sound ∧
      store = { s.store with memberships := store.memberships } ∧
      ∀ m, m ∉ ids → s.store.groupIdsOfMember m = store.groupIdsOfMember m) :
    (change method f >>= fun _ => forget).Ensures setting s
      (fun _ s' => s'.Coherent ∧ s.Precedes s' ∧ f s.store = (.ok (), s'.store))
      (fun _ s' => s' = s) := by
  refine (ensures_change herror).bind fun _ s₁ ⟨store, hf, hs₁⟩ => ?_
  subst hs₁
  obtain ⟨hsound, hrest, hsame⟩ := hok store hf
  -- the cache is right again when all the members `ids` are forgotten
  obtain ⟨c, hc, -⟩ := hs.mirrors.groups
  unfold Ensures
  rw [hforget (s := { s with store := store }) hc]
  exact ⟨⟨hsound, hs.mirrors.changeMembers hc hrest hsame⟩, .of_eq rfl rfl, hf⟩

/-- New memberships are stored, and their members are forgotten. -/
lemma ensures_saveMemberships {memberships : List Membership} {forget : Action Unit}
    {ids : List String} (hs : s.Coherent) (hforget : Forgets forget ids)
    (hids : ∀ m ∈ memberships, m.memberId ∈ ids) :
    (change .saveMemberships (fun s => s.saveMemberships memberships) >>= fun _ => forget).Ensures
      setting s
      (fun _ s' => s'.Coherent ∧ s.Precedes s' ∧ s.store.Gains ⟨[], [], [], memberships⟩ s'.store)
      (fun _ s' => s' = s) := by
  refine (ensures_changeMembers hs hforget (fun _ _ => Store.saveMemberships_error)
    fun store hsave => ?_).mono (fun _ s' ⟨hs', hprecedes, hsave⟩ => ?_) fun _ _ h => h
  · have hsound := (hs.sound.saveMemberships memberships).of_outcome hsave
    obtain ⟨hadded, hchecked⟩ := Store.saveMemberships_ok hsave
    refine ⟨hsound, hadded.rest, fun m hm => ?_⟩
    refine (Store.Gains.of_memberships hadded hchecked).groupIdsOfMember_eq hs.sound hsound ?_
    rw [List.mem_map]
    rintro ⟨x, hx, rfl⟩
    exact hm (hids x hx)
  · obtain ⟨hadded, hchecked⟩ := Store.saveMemberships_ok hsave
    exact ⟨hs', hprecedes, .of_memberships hadded hchecked⟩

/-! ## Making groups -/

/-- Between the stores `s` and `s'` groups of an organization were added, and members for some of
them. -/
def GroupsCreated (orgId : String) (s s' : Store) : Prop :=
  ∃ (groups : List Group) (memberships : List Membership),
    s.Gains ⟨groups, [], [], memberships⟩ s' ∧ (∀ g ∈ groups, g.orgId = orgId) ∧
      ∀ m ∈ memberships, ∃ g ∈ groups, m.groupId = g.id

lemma GroupsCreated.refl (orgId : String) (s : Store) : GroupsCreated orgId s s :=
  ⟨[], [], .refl s, by simp, by simp⟩

lemma GroupsCreated.trans {s s' s'' : Store} (h : GroupsCreated orgId s s')
    (h' : GroupsCreated orgId s' s'') : GroupsCreated orgId s s'' := by
  obtain ⟨groups, memberships, hgains, horg, hmembers⟩ := h
  obtain ⟨groups', memberships', hgains', horg', hmembers'⟩ := h'
  refine ⟨groups ++ groups', memberships ++ memberships', hgains.trans hgains', ?_, ?_⟩
  · exact List.forall_mem_append.2 ⟨horg, horg'⟩
  · intro m hm
    rcases List.mem_append.1 hm with hm | hm
    · obtain ⟨g, hg, heq⟩ := hmembers m hm
      exact ⟨g, List.mem_append_left groups' hg, heq⟩
    · obtain ⟨g, hg, heq⟩ := hmembers' m hm
      exact ⟨g, List.mem_append_right groups hg, heq⟩

/-- A new group is stored. -/
lemma ensures_saveGroup (hs : s.Coherent) (g : Group) :
    (change .saveGroup fun s => s.saveGroup g).Ensures setting s
      (fun saved s' => s'.Coherent ∧ s.Precedes s' ∧ saved = g ∧
        s.store.Gains ⟨[g], [], [], []⟩ s'.store)
      (fun _ s' => s' = s) := by
  refine (ensures_change (f := fun s => s.saveGroup g) fun _ _ => Store.saveGroup_error).mono
    (fun saved s' ⟨store, hsave, hs'⟩ => ?_) fun _ _ h => h
  subst hs'
  have hsound := (hs.sound.saveGroup g).of_outcome hsave
  obtain ⟨rfl, hchecked, hfree, rfl⟩ := Store.saveGroup_ok hsave
  have hgains := Store.Gains.of_group hfree hchecked
  exact ⟨hs.change_of_kept (hgains.kept hs.sound hsound rfl) hsound, .of_eq rfl rfl, rfl, hgains⟩

/-- A group is made, and then its owner; the second may fail after the first was done. -/
lemma ensures_createGroup (hs : s.Coherent) (ownerId : String) (g : Group) :
    (createGroup orgId ownerId g).Ensures setting s
      (fun _ s' => s'.Coherent ∧ s.Precedes s' ∧ GroupsCreated orgId s.store s'.store)
      (fun _ s' => s'.Coherent ∧ s.Precedes s' ∧ GroupsCreated orgId s.store s'.store) := by
  have hnothing : ∀ {s' : State}, s.Keeps s' →
      s'.Coherent ∧ s.Precedes s' ∧ GroupsCreated orgId s.store s'.store := fun h =>
    ⟨h.coherent, h.precedes, h.store ▸ .refl orgId s.store⟩
  refine (((readOnly_orNewId g.id).ensures hs).mono_error fun _ _ h => hnothing h).bind
    fun id s₁ hk₁ => ?_
  refine ((readOnly_now.ensures hk₁.coherent).mono_error
    fun _ _ h => hnothing (hk₁.trans h)).bind fun time s₂ hk => ?_
  have hk₂ := hk₁.trans hk
  refine ((ensures_saveGroup hk₂.coherent _).failing fun _ => hnothing hk₂).bind
    fun group s₃ ⟨hs₃, hp, hgroup, hgains⟩ => ?_
  have hp₃ := hk₂.precedes.trans hp
  have horg : group.orgId = orgId := by rw [hgroup]
  rw [← hgroup, hk₂.store] at hgains
  -- whatever happens from here on, the group is stored, maybe without its owner
  have hcreated : ∀ memberships, (∀ m ∈ memberships, m.groupId = group.id) → ∀ {store : Store},
      s₃.store.Gains ⟨[], [], [], memberships⟩ store → GroupsCreated orgId s.store store := by
    intro memberships hmembers store hmore
    refine ⟨[group], memberships, hgains.trans hmore, ?_, fun m hm => ⟨group, ?_, hmembers m hm⟩⟩
    · intro g' hg'
      obtain rfl := List.mem_singleton.1 hg'
      exact horg
    · exact List.mem_singleton.2 rfl
  refine ((readOnly_now.ensures hs₃).mono_error fun _ s' h =>
    ⟨h.coherent, hp₃.trans h.precedes,
      h.store ▸ hcreated [] (by simp) (.refl s₃.store)⟩).bind fun time' s₄ hk₄ => ?_
  have hp₄ := hp₃.trans hk₄.precedes
  have hmember : ∀ m ∈ [Membership.granted group.id ownerId .owner time'],
      m.memberId ∈ [ownerId] := by
    intro m hm
    obtain rfl := List.mem_singleton.1 hm
    exact List.mem_singleton.2 rfl
  rw [← bind_assoc]
  refine ((ensures_saveMemberships hk₄.coherent (forgets_forgetMember ownerId) hmember).failing
    fun _ => ⟨hk₄.coherent, hp₄, hk₄.store ▸ hcreated [] (by simp) (.refl s₃.store)⟩).bind
    fun _ s₅ ⟨hs₅, hp₅, hmore⟩ => ?_
  refine ensures_pure ⟨hs₅, hp₄.trans hp₅, hcreated _ ?_ (hk₄.store ▸ hmore)⟩
  intro m hm
  obtain rfl := List.mem_singleton.1 hm
  rfl

/-- Groups are made one after the other, and a failure keeps those that were made before. -/
lemma ensures_createGroups (hs : s.Coherent) (groups : List Group) :
    (createGroups token orgId groups).Ensures setting s
      (fun _ s' => Follows setting (.createGroups token orgId groups) s s')
      (fun _ s' => Follows setting (.createGroups token orgId groups) s s') := by
  unfold createGroups
  refine ensures_check (fun _ => .of_keeps (.refl hs)) fun _ => ?_
  refine (ensures_canAccess.mono_error fun _ s' h => .of_keeps (h.keeps hs)).bind
    fun _ s₁ ⟨hunchanged, hpermits⟩ => ?_
  have hk₁ : s.Keeps s₁ := hunchanged.keeps hs
  refine (((readOnly_identifyCaller token).ensures hk₁.coherent).mono_error
    fun _ s' h => .of_keeps (hk₁.trans h)).bind fun creator s₂ hk => ?_
  have hk₂ := hk₁.trans hk
  have hpermits₂ := hpermits.later hk.precedes
  have hfollows : ∀ {s' : State}, (s'.Coherent ∧ s₂.Precedes s' ∧
      GroupsCreated orgId s₂.store s'.store) →
      Follows setting (.createGroups token orgId groups) s s' := by
    rintro s' ⟨hs', hp, created, memberships, hgains, horg, hmembers⟩
    rw [hk₂.store] at hgains
    exact ⟨hs', hk₂.precedes.trans hp,
      .createGroups created memberships (hpermits₂.later hp) horg hmembers hgains⟩
  have hcreate : (groups.mapM (createGroup orgId creator.id)).Ensures setting s₂
      (fun _ s' => s'.Coherent ∧ s₂.Precedes s' ∧ GroupsCreated orgId s₂.store s'.store)
      (fun _ s' => s'.Coherent ∧ s₂.Precedes s' ∧ GroupsCreated orgId s₂.store s'.store) := by
    refine ensures_mapM ⟨hk₂.coherent, .refl s₂, .refl orgId s₂.store⟩
      fun done g s₃ _ ⟨hs₃, hp₃, hc₃⟩ => ?_
    have htrans : ∀ s' : State, (s'.Coherent ∧ s₃.Precedes s' ∧
        GroupsCreated orgId s₃.store s'.store) →
        s'.Coherent ∧ s₂.Precedes s' ∧ GroupsCreated orgId s₂.store s'.store :=
      fun s' ⟨hs', hp, hc⟩ => ⟨hs', hp₃.trans hp, hc₃.trans hc⟩
    exact (ensures_createGroup hs₃ creator.id g).mono (fun _ => htrans) fun _ => htrans
  refine (hcreate.mono (fun _ s' h => h) fun _ _ h => hfollows h).bind fun created s₃ h₃ => ?_
  refine (ensures_report (R := fun _ => Follows setting (.createGroups token orgId groups) s)
    ?_).bind fun _ s₄ h₄ => ensures_pure h₄
  exact (hfollows h₃).report _

lemma couples_createGroups (token orgId : String) (groups : List Group) :
    Couples State.Coherent (createGroups token orgId groups) := by
  unfold createGroups
  refine Couples.check ?_
  refine (readOnly_canAccessOrg token orgId .editor).couples.bind_blind fun _ => ?_
  refine (blind_identifyCaller token).bind fun creator => ?_
  refine (Blind.mapM fun g _ => ?_).bind fun created =>
    (blind_report _ _ _ _).bind fun _ => blind_pure _
  have hid : Blind (orNewId g.id) := by
    unfold orNewId
    split
    · exact blind_newId
    · exact blind_pure g.id
  exact hid.bind fun _ => blind_now.bind fun _ => (blind_change _ _).bind fun group =>
    blind_now.bind fun _ => (blind_change _ _).bind fun _ =>
      (blind_forgetMember creator.id).bind fun _ => blind_pure group

/-! ## Changing groups -/

lemma ensures_updateGroup (hs : s.Coherent) (g : Group) :
    (updateGroup token g).Ensures setting s
      (fun _ s' => Follows setting (.updateGroup token g) s s') (fun _ s' => s.Keeps s') := by
  refine (ensures_canAccess.mono_error fun _ s' h => h.keeps hs).bind
    fun _ s₁ ⟨hunchanged, hpermits⟩ => ?_
  have hk₁ : s.Keeps s₁ := hunchanged.keeps hs
  refine ((readOnly_now.ensures hk₁.coherent).mono_error fun _ _ h => hk₁.trans h).bind
    fun time s₂ hk => ?_
  have hk₂ := hk₁.trans hk
  refine (ensures_change (f := fun s => s.updateGroup { g with updatedAt := time })
    fun _ _ => Store.updateGroup_error).mono ?_ ?_
  · rintro changed s' ⟨store, hupdate, rfl⟩
    have hsound := (hk₂.coherent.sound.updateGroup _).of_outcome hupdate
    have hkept : s₂.store.Kept store := by
      obtain ⟨-, -, -, rfl⟩ := Store.updateGroup_ok hupdate
      exact Store.kept_groups s₂.store _
    refine .of_change hk₂ (hk₂.coherent.change_of_kept hkept hsound) ?_
    refine .updateGroup ?_ (hpermits.later (hk.precedes.trans (.of_eq rfl rfl))) hupdate
    rfl
  · rintro - s' rfl
    exact hk₂

lemma couples_updateGroup (token : String) (g : Group) :
    Couples State.Coherent (updateGroup token g) :=
  (readOnly_canAccessGroup token g.id .editor).couples.bind_blind fun _ =>
    blind_now.bind fun _ => blind_change _ _

/-! ## Taking out groups -/

lemma readOnly_purgeGroup (groupId : String) : ReadOnly (purgeGroup groupId) := by
  have hthings : ∀ things : List Thing, ReadOnly (things.forM fun t => do
      changeThingCache (ResourceCache.remove t.id)
      changeThingCache (ResourceCache.removeGroup t.id)) := fun things =>
    .forM fun t _ => (readOnly_forgetThingKeys t.id).bind fun _ => readOnly_forgetThingGroup t.id
  have hprofiles : ∀ profiles : List Profile, ReadOnly (profiles.forM fun p =>
      changeProfileCache (ResourceCache.removeGroup p.id)) := fun profiles =>
    .forM fun p _ => readOnly_forgetProfileGroup p.id
  have hmembers : ∀ memberships : List Membership, ReadOnly (memberships.forM fun m =>
      forgetMember m.memberId) := fun memberships =>
    .forM fun m _ => readOnly_forgetMember m.memberId
  exact (readOnly_ask _ _).bind fun things => (hthings things).bind fun _ =>
    (readOnly_ask _ _).bind fun profiles => (hprofiles profiles).bind fun _ =>
      (readOnly_ask _ _).bind fun memberships => (hmembers memberships).bind fun _ =>
        readOnly_forgetGroup groupId

section Purge

variable {things profiles groups : String → Prop}

/-- Some things are forgotten. -/
lemma ensures_purgeThings (hs : s.Coherent) (havoid : s.caches.Avoid things profiles groups)
    (purged : List Thing) :
    (purged.forM fun t => do
      changeThingCache (ResourceCache.remove t.id)
      changeThingCache (ResourceCache.removeGroup t.id)).Ensures setting s
      (fun _ s' => s.Keeps s' ∧
        s'.caches.Avoid (fun id => things id ∨ ∃ t ∈ purged, t.id = id) profiles groups)
      (fun _ s' => s.Keeps s') := by
  refine ensures_forM (I := fun (done : List Thing) s' => s.Keeps s' ∧
    s'.caches.Avoid (fun id => things id ∨ ∃ t ∈ done, t.id = id) profiles groups)
    ⟨.refl hs, by simpa using havoid⟩ fun done t s₁ _ ⟨hk₁, havoid₁⟩ => ?_
  obtain ⟨c, hc, hmirrors⟩ := hk₁.coherent.mirrors.things
  refine ((readOnly_forgetThingKeys t.id).ensures_changeThingCache hk₁.coherent hc).bind
    fun _ s₂ ⟨hk₂, hs₂⟩ => ?_
  have hc₂ : s₂.caches.things = .memory (c.remove t.id) := by rw [hs₂]
  refine ((readOnly_forgetThingGroup t.id).ensures_changeThingCache hk₂.coherent hc₂).mono_ok ?_
  rintro - s₃ ⟨hk₃, hs₃⟩
  refine ⟨hk₁.trans (hk₂.trans hk₃), ?_⟩
  rw [hs₃, hs₂]
  refine (havoid₁.forgetThing hc hmirrors.indexed t.id).anti ?_ (fun _ h => h) fun _ h => h
  rintro id (h | ⟨t', ht', rfl⟩)
  · exact .inl (.inl h)
  · rcases List.mem_append.1 ht' with ht' | ht'
    · exact .inl (.inr ⟨t', ht', rfl⟩)
    · exact .inr (by rw [List.mem_singleton.1 ht'])

/-- Some profiles are forgotten. -/
lemma ensures_purgeProfiles (hs : s.Coherent) (havoid : s.caches.Avoid things profiles groups)
    (purged : List Profile) :
    (purged.forM fun p => changeProfileCache (ResourceCache.removeGroup p.id)).Ensures setting s
      (fun _ s' => s.Keeps s' ∧
        s'.caches.Avoid things (fun id => profiles id ∨ ∃ p ∈ purged, p.id = id) groups)
      (fun _ s' => s.Keeps s') := by
  refine ensures_forM (I := fun (done : List Profile) s' => s.Keeps s' ∧
    s'.caches.Avoid things (fun id => profiles id ∨ ∃ p ∈ done, p.id = id) groups)
    ⟨.refl hs, by simpa using havoid⟩ fun done p s₁ _ ⟨hk₁, havoid₁⟩ => ?_
  obtain ⟨c, hc, hmirrors⟩ := hk₁.coherent.mirrors.profiles
  refine ((readOnly_forgetProfileGroup p.id).ensures_changeProfileCache hk₁.coherent hc).mono_ok ?_
  rintro - s₂ ⟨hk₂, hs₂⟩
  refine ⟨hk₁.trans hk₂, ?_⟩
  rw [hs₂]
  -- profiles have no keys, so forgetting the group is forgetting all
  have hkeys : ∀ key : String, c.keys[key]? ≠ some p.id := fun _ hk => hmirrors.names_of hk
  refine (havoid₁.forgetProfile hc hkeys).anti (fun _ h => h) ?_ fun _ h => h
  rintro id (h | ⟨p', hp', rfl⟩)
  · exact .inl (.inl h)
  · rcases List.mem_append.1 hp' with hp' | hp'
    · exact .inl (.inr ⟨p', hp', rfl⟩)
    · exact .inr (by rw [List.mem_singleton.1 hp'])

/-- Some members are forgotten, which brings nothing back. -/
lemma ensures_purgeMembers (hs : s.Coherent) (havoid : s.caches.Avoid things profiles groups)
    (purged : List Membership) :
    (purged.forM fun m => forgetMember m.memberId).Ensures setting s
      (fun _ s' => s.Keeps s' ∧ s'.caches.Avoid things profiles groups)
      (fun _ s' => s.Keeps s') := by
  refine ensures_forM (I := fun _ s' => s.Keeps s' ∧ s'.caches.Avoid things profiles groups)
    ⟨.refl hs, havoid⟩ fun done m s₁ _ ⟨hk₁, havoid₁⟩ => ?_
  obtain ⟨c, hc, -⟩ := hk₁.coherent.mirrors.groups
  refine ((readOnly_forgetMember m.memberId).ensures_changeMemberCache hk₁.coherent hc).mono_ok ?_
  rintro - s₂ ⟨hk₂, hs₂⟩
  exact ⟨hk₁.trans hk₂, hs₂ ▸ havoid₁.forgetMember hc m.memberId⟩

/-- All things of a group are among those that are listed to be forgotten. -/
lemma exists_mem_exportThings {st : Store} (hst : st.Sound) (h : st.OwnsThing id groupId) :
    ∃ t ∈ st.exportThingsOfGroups [groupId], t.id = id := by
  obtain ⟨t, ht, rfl⟩ := h
  obtain rfl := hst.thing_id ht
  refine ⟨t, ?_, rfl⟩
  simp [Store.exportThingsOfGroups, Store.thingsWhere, hst.mem_things_iff, ht]

lemma exists_mem_exportProfiles {st : Store} (hst : st.Sound) (h : st.OwnsProfile id groupId) :
    ∃ p ∈ st.exportProfilesOfGroups [groupId], p.id = id := by
  obtain ⟨p, hp, rfl⟩ := h
  obtain rfl := hst.profile_id hp
  refine ⟨p, ?_, rfl⟩
  simp [Store.exportProfilesOfGroups, Store.profilesWhere, hst.mem_profiles_iff, hp]

/-- A group is forgotten with whatever it owns and whoever has a role in it. -/
lemma ensures_purgeGroup (hs : s.Coherent) (havoid : s.caches.Avoid things profiles groups) :
    (purgeGroup groupId).Ensures setting s
      (fun _ s' => s.Keeps s' ∧ s'.caches.Avoid (fun id => things id ∨ s.store.OwnsThing id groupId)
        (fun id => profiles id ∨ s.store.OwnsProfile id groupId) (fun g => groups g ∨ g = groupId))
      (fun _ s' => s.Keeps s') := by
  unfold purgeGroup
  refine (ensures_ask.failing fun _ => .refl hs).bind
    fun ts s' ⟨hs', hts⟩ => ?_
  obtain rfl := hs'.symm
  refine (ensures_purgeThings hs havoid ts).bind fun _ s₁ ⟨hk₁, havoid₁⟩ => ?_
  refine (ensures_ask.failing fun _ => hk₁).bind fun ps s' ⟨hs', hps⟩ => ?_
  obtain rfl := hs'.symm
  refine ((ensures_purgeProfiles hk₁.coherent havoid₁ ps).mono_error
    fun _ _ h => hk₁.trans h).bind fun _ s₂ ⟨hk, havoid₂⟩ => ?_
  have hk₂ := hk₁.trans hk
  refine (ensures_ask.failing fun _ => hk₂).bind fun ms s' ⟨hs', _⟩ => ?_
  obtain rfl := hs'.symm
  refine ((ensures_purgeMembers hk₂.coherent havoid₂ ms).mono_error
    fun _ _ h => hk₂.trans h).bind fun _ s₃ ⟨hk', havoid₃⟩ => ?_
  have hk₃ := hk₂.trans hk'
  obtain ⟨c, hc, hmirrors⟩ := hk₃.coherent.mirrors.groups
  refine ((readOnly_forgetGroup groupId).ensures_changeMemberCache hk₃.coherent hc).mono_ok ?_
  rintro - s₄ ⟨hk₄, hs₄⟩
  refine ⟨hk₃.trans hk₄, ?_⟩
  rw [hs₄]
  refine (havoid₃.forgetGroup hc hmirrors.indexed groupId).anti ?_ ?_ fun _ h => h
  · rintro id (h | hown)
    · exact .inl h
    · obtain rfl := Except.ok.inj hts
      exact .inr (exists_mem_exportThings hs.sound hown)
  · rintro id (h | hown)
    · exact .inl h
    · rw [hk₁.store] at hps
      obtain rfl := Except.ok.inj hps
      exact .inr (exists_mem_exportProfiles hs.sound hown)

end Purge

/-- The caller owns each of some groups. -/
lemma ensures_ownGroups (hs : s.Coherent) (ids : List String) :
    (ids.forM fun id => canAccessGroup token id .owner).Ensures setting s
      (fun _ s' => s.Keeps s' ∧ ∀ id ∈ ids, Permits (Granted setting s s') token .group id .owner)
      (fun _ s' => s.Keeps s') := by
  refine ensures_forM (I := fun done s' => s.Keeps s' ∧
    ∀ id ∈ done, Permits (Granted setting s s') token .group id .owner) ⟨.refl hs, by simp⟩
    fun done id s₁ _ ⟨hk₁, hdone⟩ => ?_
  refine ensures_canAccess.mono ?_ fun _ _ h => hk₁.trans (h.keeps hk₁.coherent)
  rintro _ s₂ ⟨hunchanged, hpermits⟩
  refine ⟨hk₁.trans (hunchanged.keeps hk₁.coherent),
    List.forall_mem_append.2 ⟨fun id' hid' => ?_, List.forall_mem_singleton.2 ?_⟩⟩
  · exact (hdone id' hid').later hunchanged.precedes
  · exact .earlier hk₁.precedes hpermits

/-- Some groups are forgotten with whatever they own; forgetting one brings none back. -/
lemma ensures_purgeGroups (hs : s.Coherent) (ids : List String) :
    (ids.forM purgeGroup).Ensures setting s
      (fun _ s' => s.Keeps s' ∧ s'.caches.Avoid (fun id => ∃ g ∈ ids, s.store.OwnsThing id g)
        (fun id => ∃ g ∈ ids, s.store.OwnsProfile id g) (· ∈ ids))
      (fun _ s' => s.Keeps s') := by
  refine ensures_forM (I := fun done s' => s.Keeps s' ∧ s'.caches.Avoid
    (fun id => ∃ g ∈ done, s.store.OwnsThing id g)
    (fun id => ∃ g ∈ done, s.store.OwnsProfile id g) (· ∈ done)) ⟨.refl hs, ?_⟩
    fun done groupId s₁ _ ⟨hk₁, havoid⟩ => ?_
  · exact s.caches.avoid_nothing.anti (by simp) (by simp) (by simp)
  · refine (ensures_purgeGroup hk₁.coherent havoid).mono ?_ fun _ _ h => hk₁.trans h
    rintro _ s₂ ⟨hk₂, havoid₂⟩
    refine ⟨hk₁.trans hk₂, havoid₂.anti ?_ ?_ (by simp)⟩
    · rintro id ⟨g, hg, hown⟩
      rcases List.mem_append.1 hg with hg | hg
      · exact .inl ⟨g, hg, hown⟩
      · obtain rfl := List.mem_singleton.1 hg
        exact .inr (hk₁.store ▸ hown)
    · rintro id ⟨g, hg, hown⟩
      rcases List.mem_append.1 hg with hg | hg
      · exact .inl ⟨g, hg, hown⟩
      · obtain rfl := List.mem_singleton.1 hg
        exact .inr (hk₁.store ▸ hown)

/-- Groups are taken out when the caches know nothing of them any more. -/
lemma ensures_removeGroups (hs : s.Coherent) (ids : List String) :
    (removeGroups token ids).Ensures setting s
      (fun _ s' => Follows setting (.removeGroups token ids) s s' ∧
        s'.store = s.store.removeGroups ids)
      (fun _ s' => s.Keeps s') := by
  refine (ensures_ownGroups hs ids).bind fun _ s₁ ⟨hk₁, hpermits⟩ => ?_
  refine ((ensures_purgeGroups hk₁.coherent ids).mono_error fun _ _ h => hk₁.trans h).bind
    fun _ s₂ ⟨hk, havoid⟩ => ?_
  have hk₂ := hk₁.trans hk
  refine ((ensures_change (f := fun s => (.ok (), s.removeGroups ids)) (by simp)).failing
    fun _ => hk₂).bind fun _ s₃ ⟨store, hremove, hs₃⟩ => ?_
  obtain rfl : s₂.store.removeGroups ids = store := congrArg Prod.snd hremove
  subst hs₃
  have hsound₂ := hk₂.coherent.sound
  have hsound := hsound₂.removeGroups ids
  have hkept := (Store.without_removeGroups hsound₂ ids).keptBut hsound₂ hsound
  have hcoherent := hk₂.coherent.change (havoid.anti
    (fun id ⟨g, hown, hg⟩ => ⟨g, hg.1, hk.store ▸ hown⟩)
    (fun id ⟨g, hown, hg⟩ => ⟨g, hg.1, hk.store ▸ hown⟩) fun g hg => hg.1) hkept hsound
  have hfollows : Follows setting (.removeGroups token ids) s
      { s₂ with store := s₂.store.removeGroups ids } :=
    .of_change hk₂ hcoherent (.removeGroups fun id hid =>
      (hpermits id hid).later (hk.precedes.trans (.of_eq rfl rfl)))
  exact ensures_report ⟨hfollows.report _, by rw [hk₂.store]⟩

lemma couples_removeGroups (token : String) (ids : List String) :
    Couples State.Coherent (removeGroups token ids) := by
  have haccess : ReadOnly (ids.forM fun id => canAccessGroup token id .owner) :=
    .forM fun id _ => readOnly_canAccessGroup token id .owner
  have hpurge : ReadOnly (ids.forM purgeGroup) := .forM fun id _ => readOnly_purgeGroup id
  have hread : ReadOnly ((ids.forM fun id => canAccessGroup token id .owner) >>= fun _ =>
      ids.forM purgeGroup) := haccess.bind fun _ => hpurge
  have hchange := hread.couples.bind_blind fun _ =>
    (blind_change .removeGroups fun s => (.ok (), s.removeGroups ids)).bind fun _ =>
      blind_report .debug groupTarget "groups removed" [("count", .number ids.length)]
  simpa only [removeGroups, bind_assoc] using hchange

end DeviceFleet.Service
