/-
# The owners of new groups

To make a group is two requests to the store: one for the group and one for the membership that
makes the caller its owner.  Between the two nothing is undone, so when the second is refused the
group stays without its owner.  The store refuses it if the caller has a role in a group with that
identifier already, which can only have come in without the group, or if the caller has a blank
identifier; and it may be out of order.

Groups are made one after the other, and the first refusal ends the operation.  So however the
operation ends, at most the last of the new groups is without its owner.  None of this depends on
the caches or on how the state was reached.
-/
import DeviceFleet.Proofs.Action.CacheFailures
import DeviceFleet.Proofs.Action.Heard
import DeviceFleet.Proofs.Run.Step

namespace DeviceFleet

/-! ## Groups and their owners in the store -/

namespace Store

variable {setting : Setting} {s s' s'' : Store} {groupId ownerId : String}

/-- The member has the role of an owner in the group. -/
def IsOwner (s : Store) (groupId memberId : String) : Prop :=
  ∃ m : Membership, s.memberships[(⟨groupId, memberId⟩ : Membership.Key)]? = some m ∧
    m.role = .owner

/-- There is a group in the store `s'` that was not in the store `s`. -/
def NewGroup (s s' : Store) (groupId : String) : Prop :=
  groupId ∈ s'.groups ∧ groupId ∉ s.groups

/-- Between the stores `s` and `s'` groups were added that are owned by `ownerId`, and nobody else
was given a role, but in these groups. -/
structure OwnedAdded (ownerId : String) (s s' : Store) : Prop where
  /-- The groups that were there still are. -/
  groups : ∀ {id : String}, id ∈ s.groups → id ∈ s'.groups
  /-- The memberships that were there still are. -/
  memberships : ∀ {key : Membership.Key} {m : Membership},
    s.memberships[key]? = some m → s'.memberships[key]? = some m
  /-- Each new group has its owner. -/
  owner : ∀ {id : String}, NewGroup s s' id → s'.IsOwner id ownerId
  /-- A new membership is one in a new group. -/
  member : ∀ {key : Membership.Key}, key ∈ s'.memberships → key ∉ s.memberships →
    NewGroup s s' key.groupId

lemma IsOwner.of_kept (h : s.IsOwner groupId ownerId)
    (hkept : ∀ {key : Membership.Key} {m : Membership},
      s.memberships[key]? = some m → s'.memberships[key]? = some m) :
    s'.IsOwner groupId ownerId := by
  obtain ⟨m, hm, hrole⟩ := h
  exact ⟨m, hkept hm, hrole⟩

namespace OwnedAdded

lemma refl (ownerId : String) (s : Store) : OwnedAdded ownerId s s where
  groups h := h
  memberships h := h
  owner h := absurd h.1 h.2
  member h hnot := absurd h hnot

lemma of_eq (h : s' = s) : OwnedAdded ownerId s s' := h ▸ refl ownerId s

lemma trans (h : OwnedAdded ownerId s s') (h' : OwnedAdded ownerId s' s'') :
    OwnedAdded ownerId s s'' where
  groups hid := h'.groups (h.groups hid)
  memberships hm := h'.memberships (h.memberships hm)
  owner {id} hnew := by
    by_cases hid : id ∈ s'.groups
    · exact (h.owner ⟨hid, hnew.2⟩).of_kept h'.memberships
    · exact h'.owner ⟨hnew.1, hid⟩
  member {key} hkey hnot := by
    by_cases hkey' : key ∈ s'.memberships
    · obtain ⟨hin, hout⟩ := h.member hkey' hnot
      exact ⟨h'.groups hin, hout⟩
    · obtain ⟨hin, hout⟩ := h'.member hkey hkey'
      exact ⟨hin, fun hid => hout (h.groups hid)⟩

/-- A group is added and then its owner. -/
lemma of_insert {g : Group} {m : Membership} (hgroup : g.id ∉ s.groups)
    (hkey : (⟨g.id, ownerId⟩ : Membership.Key) ∉ s.memberships) (hrole : m.role = .owner) :
    OwnedAdded ownerId s { s with
      groups := s.groups.insert g.id g
      memberships := s.memberships.insert ⟨g.id, ownerId⟩ m } where
  groups hid := Std.ExtTreeMap.mem_insert.2 (.inr hid)
  memberships {key m'} hm := by grind
  owner {id} hnew := by
    obtain ⟨hin, hout⟩ := hnew
    rcases Std.ExtTreeMap.mem_insert.1 hin with heq | hid
    · obtain rfl := Std.compare_eq_iff_eq.1 heq
      exact ⟨m, by simp, hrole⟩
    · exact absurd hid hout
  member {key} hmem hnot := by
    rcases Std.ExtTreeMap.mem_insert.1 hmem with heq | hkey'
    · obtain rfl := Std.compare_eq_iff_eq.1 heq
      exact ⟨by simp, hgroup⟩
    · exact absurd hkey' hnot

end OwnedAdded

/-- The store does not take the membership that would make `ownerId` the owner of a group. -/
inductive OwnerRefused (setting : Setting) (s : Store) (ownerId groupId : String) : Prop where
  /-- There is a membership of theirs in a group with this identifier already. -/
  | member (h : (⟨groupId, ownerId⟩ : Membership.Key) ∈ s.memberships)
  /-- Their identifier is blank. -/
  | blank (h : Text.isBlank ownerId = true)
  /-- The store is out of order. -/
  | fault (h : .refuses .saveMemberships ∈ setting.faults)

/-- The reason is the same in a store without that membership being new. -/
lemma OwnerRefused.mono (h : OwnerRefused setting s' ownerId groupId)
    (hkey : (⟨groupId, ownerId⟩ : Membership.Key) ∈ s'.memberships →
      (⟨groupId, ownerId⟩ : Membership.Key) ∈ s.memberships) :
    OwnerRefused setting s ownerId groupId := by
  cases h with
  | member h => exact .member (hkey h)
  | blank h => exact .blank h
  | fault h => exact .fault h

/-- Between the stores `s` and `s'` groups with their owner were added, and then the group
`last`, whose owner was refused. -/
structure LeftWithoutOwner (setting : Setting) (ownerId : String) (s s' : Store) (last : String) :
    Prop where
  /-- The group is new. -/
  isNew : NewGroup s s' last
  /-- Its owner was refused. -/
  refused : OwnerRefused setting s ownerId last
  /-- Each other new group has its owner. -/
  others : ∀ {id : String}, NewGroup s s' id → id ≠ last → s'.IsOwner id ownerId
  /-- The memberships that were there still are. -/
  memberships : ∀ {key : Membership.Key} {m : Membership},
    s.memberships[key]? = some m → s'.memberships[key]? = some m

/-- A group is added, and its owner is refused. -/
lemma leftWithoutOwner_insert {g : Group} (hgroup : g.id ∉ s.groups)
    (hrefused : OwnerRefused setting s ownerId g.id) :
    LeftWithoutOwner setting ownerId s { s with groups := s.groups.insert g.id g } g.id where
  isNew := ⟨by simp, hgroup⟩
  refused := hrefused
  others {id} hnew hne := by
    rcases Std.ExtTreeMap.mem_insert.1 hnew.1 with heq | hid
    · exact absurd (Std.compare_eq_iff_eq.1 heq).symm hne
    · exact absurd hid hnew.2
  memberships hm := hm

/-- Other groups with their owner may have been added before. -/
lemma LeftWithoutOwner.after {last : String} (h : OwnedAdded ownerId s s')
    (h' : LeftWithoutOwner setting ownerId s' s'' last) :
    LeftWithoutOwner setting ownerId s s'' last where
  isNew := ⟨h'.isNew.1, fun hid => h'.isNew.2 (h.groups hid)⟩
  refused := by
    refine h'.refused.mono fun hkey => ?_
    -- no membership in the group was added before the group was
    by_contra hnot
    exact h'.isNew.2 (h.member hkey hnot).1
  others {id} hnew hne := by
    by_cases hid : id ∈ s'.groups
    · exact (h.owner ⟨hid, hnew.2⟩).of_kept h'.memberships
    · exact h'.others ⟨hnew.1, hid⟩ hne
  memberships hm := h'.memberships (h.memberships hm)

end Store

/-! ## Making groups -/

namespace Service

open DeviceFleet.Action DeviceFleet.Access DeviceFleet.Store

variable {setting : Setting} {s : State} {orgId ownerId : String}

/-- Between the stores `s` and `s'` groups were made for `ownerId`, and the last of them may be
without its owner. -/
def MadeFor (setting : Setting) (ownerId : String) (s s' : Store) : Prop :=
  OwnedAdded ownerId s s' ∨ ∃ last, LeftWithoutOwner setting ownerId s s' last

lemma leavesRecords_orNewId (id : String) : LeavesRecords (orNewId id) := by
  unfold orNewId
  split
  · exact leavesRecords_of_unchanged unchanged_newId
  · exact leavesRecords_pure id

/-- The store takes the owner of a group, or there is a reason why not. -/
lemma ensures_saveOwner {g : Group} (hchecked : checkGroup g = .ok ()) (time : Instant) :
    (change .saveMemberships fun s =>
        s.saveMemberships [Membership.granted g.id ownerId .owner time]).Ensures setting s
      (fun _ s' => (⟨g.id, ownerId⟩ : Membership.Key) ∉ s.store.memberships ∧
        ∃ m : Membership, m.role = .owner ∧
          s'.store = { s.store with memberships := s.store.memberships.insert ⟨g.id, ownerId⟩ m })
      (fun _ s' => s' = s ∧ OwnerRefused setting s.store ownerId g.id) := by
  unfold Ensures
  rw [run_change]
  by_cases hfault : .refuses .saveMemberships ∈ setting.faults
  · rw [if_pos hfault]
    exact ⟨rfl, .fault hfault⟩
  · rw [if_neg hfault]
    rcases hsave : s.store.saveMemberships [Membership.granted g.id ownerId .owner time] with
      ⟨⟨e⟩ | ⟨⟨⟩⟩, store⟩
    · obtain rfl := saveMemberships_error hsave
      refine ⟨rfl, ?_⟩
      by_contra hnot
      -- without a reason the membership would have been taken
      have hfilled : checkMembership (Membership.granted g.id ownerId .owner time) = .ok () := by
        refine seq_eq_ok_iff.2 ⟨require_eq_ok_iff.2 ?_, require_eq_ok_iff.2 ?_⟩
        · exact Bool.eq_false_iff.2 fun hblank => hnot (.blank hblank)
        · exact require_eq_ok_iff.1 (seq_eq_ok_iff.1 hchecked).1
      have hsaved := saveMembership_eq_ok hfilled fun hkey => hnot (.member hkey)
      rw [hsave] at hsaved
      simp at hsaved
    · obtain ⟨hadded, hfilled⟩ := saveMemberships_ok hsave
      have hfree : (⟨g.id, ownerId⟩ : Membership.Key) ∉ s.store.memberships :=
        hadded.stored.fresh (List.mem_singleton.2 rfl)
      have hsaved := saveMembership_eq_ok (hfilled _ (List.mem_singleton.2 rfl)) hfree
      rw [hsave] at hsaved
      exact ⟨hfree, _, rfl, congrArg Prod.snd hsaved⟩

/-- A group is made with its owner, or nothing is made, or the owner was refused. -/
lemma ensures_createGroup_owner (s : State) (g : Group) :
    (createGroup orgId ownerId g).Ensures setting s
      (fun _ s' => OwnedAdded ownerId s.store s'.store)
      (fun _ s' => MadeFor setting ownerId s.store s'.store) := by
  have hnothing : ∀ {s' : State}, s'.store = s.store → MadeFor setting ownerId s.store s'.store :=
    fun h => .inl (.of_eq h)
  have hnow : ∀ (s : State) {E : ServiceError → State → Prop},
      now.Ensures setting s (fun _ s' => s'.store = s.store) E := fun _ _ => rfl
  refine (((leavesRecords_orNewId g.id).ensures setting s).mono_error
    fun _ _ h => hnothing h).bind fun id s₁ h₁ => ?_
  refine (hnow s₁).bind fun time s₂ h => ?_
  have h₂ : s₂.store = s.store := h.trans h₁
  refine ((ensures_change (f := fun s => s.saveGroup
    { g with id := id, orgId := orgId, createdAt := time, updatedAt := time })
      fun _ _ => saveGroup_error).failing fun _ => hnothing h₂).bind
        fun group s₃ ⟨store, hsave, hs₃⟩ => ?_
  obtain ⟨hgroup, hchecked, hfree, hstore⟩ := saveGroup_ok hsave
  rw [← hgroup] at hchecked hfree hstore
  rw [h₂] at hfree hstore
  have h₃ : s₃.store = { s.store with groups := s.store.groups.insert group.id group } := by
    rw [hs₃, ← hstore]
  -- from here on the group is stored
  refine (hnow s₃).bind fun time' s₄ h => ?_
  have h₄ := h.trans h₃
  refine ((ensures_saveOwner hchecked time').mono_error ?_).bind
    fun _ s₅ ⟨hkey, m, hrole, hs₅⟩ => ?_
  · rintro e s' ⟨rfl, hrefused⟩
    rw [h₄] at hrefused ⊢
    exact .inr ⟨group.id, leftWithoutOwner_insert hfree (hrefused.mono fun hkey => hkey)⟩
  · rw [h₄] at hkey hs₅
    have hadded : OwnedAdded ownerId s.store s₅.store := hs₅ ▸ .of_insert hfree hkey hrole
    have hforget : (forgetMember ownerId).Ensures setting s₅
        (fun _ s' => OwnedAdded ownerId s.store s'.store)
        (fun _ s' => MadeFor setting ownerId s.store s'.store) :=
      ((leavesRecords_changeMemberCache _).ensures setting s₅).mono
        (fun _ s' h => h ▸ hadded) fun _ s' h => .inl (h ▸ hadded)
    exact hforget.bind fun _ s₆ h₆ => ensures_pure h₆

/-- Groups are made for the caller, once the caller is known; before that nothing is made. -/
lemma ensures_createGroups_owners (setting : Setting) (s : State) (token orgId : String)
    (input : List Group) :
    (createGroups token orgId input).Ensures setting s
      (fun _ s' => ∃ creator,
        Identifies setting (canAccessOrg token orgId .editor setting s).2 token creator ∧
          OwnedAdded creator.id s.store s'.store)
      (fun _ s' => s'.store = s.store ∨ ∃ creator,
        Identifies setting (canAccessOrg token orgId .editor setting s).2 token creator ∧
          MadeFor setting creator.id s.store s'.store) := by
  unfold createGroups
  refine ensures_check (fun _ => .inl rfl) fun _ => ?_
  have hasked : (canAccessOrg token orgId .editor).Ensures setting s
      (fun _ s' => s' = (canAccessOrg token orgId .editor setting s).2 ∧ s'.store = s.store)
      (fun _ s' => s'.store = s.store) :=
    (ensures_of_state (P := fun s' => s' = (canAccessOrg token orgId .editor setting s).2 ∧
      s'.store = s.store) ⟨rfl, (unchanged_canAccess setting s).store⟩).mono_error fun _ _ h => h.2
  refine (hasked.mono_error fun _ _ h => .inl h).bind fun _ s₁ ⟨hs₁, h₁⟩ => ?_
  refine ((ensures_identifyCaller token).mono_error
    fun _ s' h => .inl (h.1.store.trans h₁)).bind fun creator s₂ ⟨hunchanged, hidentity⟩ => ?_
  rw [hs₁] at hidentity
  have h₂ : s₂.store = s.store := hunchanged.store.trans h₁
  have hmade : (input.mapM (createGroup orgId creator.id)).Ensures setting s₂
      (fun _ s' => OwnedAdded creator.id s.store s'.store)
      (fun _ s' => MadeFor setting creator.id s.store s'.store) := by
    refine ensures_mapM (I := fun _ s' => OwnedAdded creator.id s.store s'.store) (.of_eq h₂)
      fun done g s₃ _ h₃ => ?_
    refine (ensures_createGroup_owner s₃ g).mono (fun _ _ h => h₃.trans h) fun _ s' h => ?_
    rcases h with h | ⟨last, h⟩
    · exact .inl (h₃.trans h)
    · exact .inr ⟨last, h.after h₃⟩
  refine (hmade.mono_error fun _ _ h => .inr ⟨creator, hidentity, h⟩).bind fun created s₃ h₃ => ?_
  refine (ensures_report (R := fun _ s' => OwnedAdded creator.id s.store s'.store) h₃).bind
    fun _ s₄ h₄ => ensures_pure ⟨creator, hidentity, h₄⟩

/-- **The caller owns every new group, but for the last one if its owner is refused.**  In every
state and every setting, however the operation ends: either no group is new, or the caller, as
identified after permission was granted, is an owner of every new group, or else the operation
has failed, exactly one new group is not owned by the caller, and there is a reason: a membership
of the caller in a group with its identifier was stored before, the identifier of the caller is
blank, or the store is out of order. -/
theorem createGroups_owned (setting : Setting) (s : State) (token orgId : String)
    (input : List Group) :
    let r := (Operation.createGroups token orgId input).run setting s
    let asked := (canAccessOrg token orgId .editor setting s).2
    (∀ id, ¬ NewGroup s.store r.2.store id) ∨
      ∃ creator, Identifies setting asked token creator ∧
        ((∀ id, NewGroup s.store r.2.store id → r.2.store.IsOwner id creator.id) ∨
          (∃ e, r.1 = .error e) ∧ ∃ last, NewGroup s.store r.2.store last ∧
            ¬ r.2.store.IsOwner last creator.id ∧
            OwnerRefused setting s.store creator.id last ∧
            ∀ id, NewGroup s.store r.2.store id → id ≠ last →
              r.2.store.IsOwner id creator.id) := by
  intro r asked
  have hcreate := ensures_createGroups_owners setting s token orgId input
  have hr : r = ((createGroups token orgId input setting s).1.map .groups,
      (createGroups token orgId input setting s).2) := run_map _ _
  clear_value r
  subst hr
  unfold Ensures at hcreate
  rcases hrun : createGroups token orgId input setting s with ⟨⟨e⟩ | ⟨created⟩, s'⟩
  · rw [hrun] at hcreate
    rcases hcreate with hsame | ⟨creator, hidentity, hadded | ⟨last, hleft⟩⟩
    · exact .inl fun id hnew => hnew.2 (hsame ▸ hnew.1)
    · exact .inr ⟨creator, hidentity, .inl fun id hnew => hadded.owner hnew⟩
    · refine .inr ⟨creator, hidentity, ?_⟩
      by_cases howner : s'.store.IsOwner last creator.id
      · refine .inl fun id hnew => ?_
        by_cases hid : id = last
        · exact hid ▸ howner
        · exact hleft.others hnew hid
      · exact .inr ⟨⟨e, rfl⟩, last, hleft.isNew, howner, hleft.refused,
          fun id hnew hid => hleft.others hnew hid⟩
  · rw [hrun] at hcreate
    obtain ⟨creator, hidentity, hadded⟩ := hcreate
    exact .inr ⟨creator, hidentity, .inl fun id hnew => hadded.owner hnew⟩

/-- The membership of a guest in a group that is not stored. -/
def guestMembership : Membership :=
  ⟨"guest", "group", .viewer, none, .ofSeconds 0, .ofSeconds 0⟩

/-- The service after a restore has brought it in. -/
def guestFleet : State :=
  after permissive [.restore "root" ⟨[], [], [], [guestMembership]⟩]
    (.initial ∅ (Caches.inMemory true))

/-- The guest makes the group in which they are a viewer already: the group stays, and they are not
its owner. -/
theorem guest_group_without_owner :
    let op := Operation.createGroups "guest" "org"
      [⟨"group", "", "Group", "", ∅, .ofSeconds 0, .ofSeconds 0⟩]
    let r := op.run permissive guestFleet
    Reachable anyCall true guestFleet ∧
      (∀ n store, permissive.identify n store "guest" = ⟨0, .ok ⟨"guest", ""⟩⟩) ∧
      NewGroup guestFleet.store r.2.store "group" ∧ ¬ r.2.store.IsOwner "group" "guest" := by
  intro op r
  have hreach : Reachable anyCall true guestFleet := leads_after (fun _ _ _ => trivial) _
  have hnew : "group" ∈ r.2.store.groups ∧ "group" ∉ guestFleet.store.groups := by decide +kernel
  have hviewer : (r.2.store.memberships[(⟨"group", "guest"⟩ : Membership.Key)]?).map (·.role) =
      some .viewer := by decide +kernel
  refine ⟨hreach, fun _ _ => rfl, hnew, ?_⟩
  rintro ⟨m, hm, hrole⟩
  rw [hm, Option.map_some, hrole] at hviewer
  simp at hviewer

end Service

end DeviceFleet
