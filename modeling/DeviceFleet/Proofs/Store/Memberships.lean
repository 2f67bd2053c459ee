/-
# Changes of memberships

What each request that changes memberships does to a sound store, stated by look-ups, and which
groups a member is then found to have a role in.
-/
import DeviceFleet.Proofs.Store.Sound
import Mathlib.Data.List.Sort
import Mathlib.Data.String.Basic

namespace DeviceFleet.Store

variable {s s' : Store} {m : Membership} {key : Membership.Key}

/-! ## Saving -/

lemma insertMembership_ok (h : insertMembership m s = (.ok (), s')) :
    m.key ∉ s.memberships ∧
      s' = { s with memberships := s.memberships.insert m.key { m with email := none } } := by
  unfold insertMembership at h
  split at h
  · simp at h
  · rename_i hkey
    exact ⟨hkey, (congrArg Prod.snd h).symm⟩

lemma insertMembership_error {e : StoreError} (h : insertMembership m s = (.error e, s')) :
    s' = s := by
  unfold insertMembership at h
  split at h
  · exact (congrArg Prod.snd h).symm
  · simp at h

lemma undoes_memberships :
    Undoes insertMembership (fun m => eraseMembership m.key) Membership.key
      (fun s key => key ∈ s.memberships) where
  refused := insertMembership_error
  back {m s s'} h := by
    obtain ⟨hkey, rfl⟩ := insertMembership_ok h
    have hmemberships : (s.memberships.insert m.key { m with email := none }).erase m.key =
        s.memberships := by
      apply Std.ExtTreeMap.ext_getElem?
      grind
    simp [eraseMembership, hmemberships]
  swap {m n s s'} hne h := by
    obtain ⟨hkey, rfl⟩ := insertMembership_ok h
    have hmemberships : (s.memberships.insert m.key { m with email := none }).erase n.key =
        (s.memberships.erase n.key).insert m.key { m with email := none } := by
      apply Std.ExtTreeMap.ext_getElem?
      grind
    have hkey' : m.key ∉ s.memberships.erase n.key := by grind
    simp [insertMembership, eraseMembership, hkey', hmemberships]
  free h := (insertMembership_ok h).1
  taken_iff {m s s' key} h := by
    obtain ⟨-, rfl⟩ := insertMembership_ok h
    simp only [Std.ExtTreeMap.mem_insert, Std.compare_eq_iff_eq]
    tauto

/-- The store `s'` is `s` with some memberships added, without the addresses of the members. -/
structure MembershipsAdded (s : Store) (memberships : List Membership) (s' : Store) : Prop where
  /-- The memberships are added. -/
  stored : Added s.memberships (memberships.map fun m => (m.key, { m with email := none }))
    s'.memberships
  /-- Nothing else changes. -/
  rest : s' = { s with memberships := s'.memberships }

/-- A refused batch of memberships leaves the store as it was. -/
lemma saveMemberships_error {memberships : List Membership} {e : StoreError}
    (h : s.saveMemberships memberships = (.error e, s')) : s' = s := by
  unfold saveMemberships at h
  split at h
  · exact (congrArg Prod.snd h).symm
  · exact undoes_memberships.insertEach_error h

/-- An accepted batch of memberships adds exactly these, and every one of them has passed its
check. -/
lemma saveMemberships_ok {memberships : List Membership}
    (h : s.saveMemberships memberships = (.ok (), s')) :
    MembershipsAdded s memberships s' ∧ ∀ m ∈ memberships, checkMembership m = .ok () := by
  unfold saveMemberships at h
  split at h
  · simp at h
  · rename_i hcheck
    have hadded := insertEach_ok (motive := MembershipsAdded s)
      (fun _ m _ _ hadded hm => by
        obtain ⟨hkey, rfl⟩ := insertMembership_ok hm
        refine ⟨hadded.stored.cons hkey, ?_⟩
        rw [hadded.rest]) ⟨.refl _, rfl⟩ h
    rw [List.append_nil] at hadded
    exact ⟨⟨hadded.stored.congr (by simp), hadded.rest⟩, forM_ok hcheck⟩

/-- A membership is accepted when it passes its check and there is none of the member in the
group. -/
lemma saveMembership_eq_ok (hchecked : checkMembership m = .ok ()) (hkey : m.key ∉ s.memberships) :
    s.saveMemberships [m] =
      (.ok (), { s with memberships := s.memberships.insert m.key { m with email := none } }) := by
  rw [saveMemberships, forM_eq_ok (List.forall_mem_singleton.2 hchecked)]
  simp only [insertEach, insertMembership, if_neg hkey]

lemma Sound.saveMemberships (h : s.Sound) (memberships : List Membership) :
    (s.saveMemberships memberships).2.Sound := by
  rcases hs : s.saveMemberships memberships with ⟨⟨e⟩ | ⟨⟩, s'⟩
  · rw [saveMemberships_error hs]
    exact h
  · obtain ⟨hadded, -⟩ := saveMemberships_ok hs
    rw [hadded.rest]
    refine { h with membership_key := ?_ }
    intro key m hm
    rcases hadded.stored.getElem?_iff.1 hm with hm | hm
    · exact h.membership_key hm
    · simp only [List.mem_map, Prod.mk.injEq] at hm
      obtain ⟨n, -, rfl, rfl⟩ := hm
      rfl

/-! ## Changing -/

lemma memberships_changeRole (m : Membership) (s : Store) (key : Membership.Key) :
    (s.changeRole m).memberships[key]? =
      if m.key = key then
        s.memberships[key]?.map fun stored =>
          { stored with role := m.role, updatedAt := m.updatedAt }
      else s.memberships[key]? := by
  simp only [changeRole, Std.ExtTreeMap.getElem?_modify, Std.compare_eq_iff_eq]
  by_cases hk : m.key = key
  · simp [hk]
  · simp [hk]

/-- Changing roles keeps who has a role where, and leaves the other memberships alone. -/
lemma memberships_foldl_changeRole (memberships : List Membership) (s : Store)
    (key : Membership.Key) :
    (∀ stored, s.memberships[key]? = some stored →
      ∃ role time, (memberships.foldl changeRole s).memberships[key]? =
        some { stored with role := role, updatedAt := time }) ∧
    (s.memberships[key]? = none → (memberships.foldl changeRole s).memberships[key]? = none) ∧
    ((∀ m ∈ memberships, m.key ≠ key) →
      (memberships.foldl changeRole s).memberships[key]? = s.memberships[key]?) := by
  induction memberships generalizing s with
  | nil =>
    exact ⟨fun stored hs => ⟨stored.role, stored.updatedAt, hs⟩, fun hs => hs, fun _ => rfl⟩
  | cons m memberships ih =>
    obtain ⟨hsome, hnone, hsame⟩ := ih (s.changeRole m)
    have hm := memberships_changeRole m s key
    simp only [List.foldl_cons]
    refine ⟨?_, ?_, ?_⟩
    · intro stored hs
      by_cases hk : m.key = key
      · rw [if_pos hk, hs] at hm
        exact hsome { stored with role := m.role, updatedAt := m.updatedAt } hm
      · rw [if_neg hk, hs] at hm
        exact hsome _ hm
    · intro hs
      refine hnone ?_
      rw [hm, hs]
      simp
    · intro hne
      rw [hsame fun n hn => hne n (List.mem_cons_of_mem _ hn), hm,
        if_neg (hne m List.mem_cons_self)]

lemma mem_foldl_changeRole_iff (memberships : List Membership) (s : Store)
    (key : Membership.Key) :
    key ∈ (memberships.foldl changeRole s).memberships ↔ key ∈ s.memberships := by
  obtain ⟨hsome, hnone, -⟩ := memberships_foldl_changeRole memberships s key
  simp only [Std.ExtTreeMap.mem_iff_isSome_getElem?]
  rcases hstored : s.memberships[key]? with _ | stored
  · simp [hnone hstored]
  · obtain ⟨role, time, hnew⟩ := hsome stored hstored
    simp [hnew]

lemma foldl_changeRole_rest (memberships : List Membership) (s : Store) :
    memberships.foldl changeRole s =
      { s with memberships := (memberships.foldl changeRole s).memberships } := by
  induction memberships generalizing s with
  | nil => rfl
  | cons m memberships ih => exact ih (s.changeRole m)

/-- A batch of roles with a membership that is not stored leaves the store as it was. -/
lemma updateMemberships_error {memberships : List Membership} {e : StoreError}
    (h : s.updateMemberships memberships = (.error e, s')) : s' = s := by
  unfold updateMemberships at h
  split at h
  · exact (congrArg Prod.snd h).symm
  · simp at h

lemma updateMemberships_ok {memberships : List Membership}
    (h : s.updateMemberships memberships = (.ok (), s')) :
    s' = memberships.foldl changeRole s := by
  unfold updateMemberships at h
  split at h
  · simp at h
  · exact (congrArg Prod.snd h).symm

lemma Sound.updateMemberships (h : s.Sound) (memberships : List Membership) :
    (s.updateMemberships memberships).2.Sound := by
  rcases hs : s.updateMemberships memberships with ⟨⟨e⟩ | ⟨⟩, s'⟩
  · rw [updateMemberships_error hs]
    exact h
  · obtain rfl := updateMemberships_ok hs
    rw [foldl_changeRole_rest]
    refine { h with membership_key := ?_ }
    intro key m hm
    obtain ⟨hsome, hnone, -⟩ := memberships_foldl_changeRole memberships s key
    rcases hstored : s.memberships[key]? with _ | stored
    · simp [hnone hstored] at hm
    · obtain ⟨role, time, hm'⟩ := hsome stored hstored
      obtain rfl := Option.some.inj (hm'.symm.trans hm)
      have hkey : stored.key = key := h.membership_key hstored
      exact hkey

/-! ## Taking out -/

lemma removeMemberships_eq (groupId : String) (memberIds : List String) (s : Store) :
    s.removeMemberships groupId memberIds =
      { s with
        memberships := (memberIds.map fun memberId => (⟨groupId, memberId⟩ : Membership.Key)).foldl
          (fun m key => m.erase key) s.memberships } := by
  induction memberIds generalizing s with
  | nil => rfl
  | cons i memberIds ih => exact ih (s.eraseMembership ⟨groupId, i⟩)

lemma removeMemberships_rest (groupId : String) (memberIds : List String) (s : Store) :
    s.removeMemberships groupId memberIds =
      { s with memberships := (s.removeMemberships groupId memberIds).memberships } := by
  rw [removeMemberships_eq]

lemma memberships_removeMemberships (groupId : String) (memberIds : List String) (s : Store)
    (key : Membership.Key) :
    (s.removeMemberships groupId memberIds).memberships[key]? =
      if key.groupId = groupId ∧ key.memberId ∈ memberIds then none
      else s.memberships[key]? := by
  rw [removeMemberships_eq]
  simp only [getElem?_foldl_erase]
  obtain ⟨g, m⟩ := key
  have hiff : (⟨g, m⟩ : Membership.Key) ∈
      memberIds.map (fun memberId => (⟨groupId, memberId⟩ : Membership.Key)) ↔
        g = groupId ∧ m ∈ memberIds := by
    simp only [List.mem_map, Membership.Key.mk.injEq]
    grind
  simp only [hiff]

lemma Sound.removeMemberships (h : s.Sound) (groupId : String) (memberIds : List String) :
    (s.removeMemberships groupId memberIds).Sound := by
  have hmem := memberships_removeMemberships groupId memberIds s
  rw [removeMemberships_eq] at *
  refine { h with membership_key := ?_ }
  intro key m hm
  have := @h.membership_key key m
  grind

/-! ## The groups of a member -/

/-- The groups of a member are exactly those with a stored membership. -/
lemma mem_groupIdsOfMember_iff (h : s.Sound) {groupId memberId : String} :
    groupId ∈ s.groupIdsOfMember memberId ↔
      (⟨groupId, memberId⟩ : Membership.Key) ∈ s.memberships := by
  simp only [groupIdsOfMember, membershipsWhere, recordsOf, List.mem_map, List.mem_filter,
    Prod.exists, Std.ExtTreeMap.mem_toList_iff_getElem?_eq_some, beq_iff_eq]
  constructor
  · rintro ⟨m, ⟨⟨key, m', hm, rfl⟩, rfl⟩, rfl⟩
    have hkey := h.membership_key hm
    rw [show (⟨m'.groupId, m'.memberId⟩ : Membership.Key) = key from hkey]
    exact Std.ExtTreeMap.mem_iff_isSome_getElem?.2 (by simp [hm])
  · intro hmem
    have hm := Std.ExtTreeMap.getElem?_eq_some_getElem hmem
    have hkey := h.membership_key hm
    obtain ⟨hgroup, hmember⟩ := Membership.Key.mk.inj hkey
    exact ⟨_, ⟨⟨_, _, hm, rfl⟩, hmember⟩, hgroup⟩

lemma Membership.Key.compare_lt_iff_of_memberId {a b : Membership.Key}
    (h : a.memberId = b.memberId) : compare a b = .lt ↔ a.groupId < b.groupId := by
  change (compare a.groupId b.groupId).then (compare a.memberId b.memberId) = .lt ↔ _
  rw [h, Std.compare_self, Ordering.then_eq_lt]
  simp only [compare_lt_iff_lt, reduceCtorEq, and_false, or_false]

/-- The groups of a member are listed in strictly ascending order. -/
lemma groupIdsOfMember_pairwise (h : s.Sound) (memberId : String) :
    (s.groupIdsOfMember memberId).Pairwise (· < ·) := by
  have hordered := s.memberships.ordered_keys_toList
  simp only [groupIdsOfMember, membershipsWhere, recordsOf, List.pairwise_map,
    List.pairwise_filter, beq_iff_eq]
  -- memberships are kept in the order of their groups and then of their members
  refine hordered.imp_of_mem ?_
  rintro ⟨key, m⟩ ⟨key', m'⟩ hm hm' hlt hmember hmember'
  rw [Std.ExtTreeMap.mem_toList_iff_getElem?_eq_some] at hm hm'
  have hkey := h.membership_key hm
  have hkey' := h.membership_key hm'
  subst hkey hkey'
  exact (Membership.Key.compare_lt_iff_of_memberId (hmember.trans hmember'.symm)).1 hlt

/-- Which groups a member has a role in depends only on which memberships are stored. -/
lemma groupIdsOfMember_congr (h : s.Sound) (h' : s'.Sound) {memberId : String}
    (hiff : ∀ groupId : String, (⟨groupId, memberId⟩ : Membership.Key) ∈ s.memberships ↔
      (⟨groupId, memberId⟩ : Membership.Key) ∈ s'.memberships) :
    s.groupIdsOfMember memberId = s'.groupIdsOfMember memberId := by
  have hsorted := groupIdsOfMember_pairwise h memberId
  have hsorted' := groupIdsOfMember_pairwise h' memberId
  -- two ascending lists with the same elements are equal
  refine List.Pairwise.eq_of_mem_iff hsorted hsorted' fun groupId => ?_
  rw [mem_groupIdsOfMember_iff h, mem_groupIdsOfMember_iff h', hiff]

end DeviceFleet.Store
