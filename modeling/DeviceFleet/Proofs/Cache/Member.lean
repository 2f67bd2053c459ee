/-
# What the cache of members remembers

The cache of members mirrors a function from members to their groups when every list that it
remembers is the one that the function gives.  Its index is exact: it has a member in the set of
a group exactly when a list with the group is remembered for the member, and no set is empty.
-/
import DeviceFleet.Cache.Member
import DeviceFleet.Proofs.Cache.Index
import DeviceFleet.Proofs.Maps

namespace DeviceFleet.MemberCache

variable {c : MemberCache} {memberId groupId : String} {groupIds : List String}

/-! ## What the changes do -/

lemma getElem?_members_save (henabled : c.enabled = true) (m : String) :
    (c.save memberId groupIds).members[m]? =
      if memberId = m then some groupIds else c.members[m]? := by
  simp [save, henabled, Std.ExtTreeMap.getElem?_insert]

lemma getElem?_members_remove (m : String) :
    (c.remove memberId).members[m]? = if memberId = m then none else c.members[m]? := by
  unfold remove
  split
  · rename_i hnone
    by_cases hm : memberId = m
    · simp [← hm, hnone]
    · simp [hm]
  · simp [Std.ExtTreeMap.getElem?_erase]

lemma mem_membersOf_remove {m g : String} :
    m ∈ (c.remove memberId).membersByGroup.namesOf g ↔
      m ∈ c.membersByGroup.namesOf g ∧
        ¬ (m = memberId ∧ ∃ gs, c.members[m]? = some gs ∧ g ∈ gs) := by
  unfold remove
  split
  · rename_i hnone
    constructor
    · refine fun hmem => ⟨hmem, ?_⟩
      rintro ⟨rfl, gs, hgs, -⟩
      simp [hnone] at hgs
    · exact fun h => h.1
  · rename_i gs hgs
    simp only [ReverseIndex.mem_namesOf_foldl_remove]
    constructor
    · rintro ⟨hmem, hne⟩
      refine ⟨hmem, ?_⟩
      rintro ⟨rfl, gs', hgs', hg⟩
      obtain rfl := Option.some.inj (hgs.symm.trans hgs')
      exact hne ⟨hg, rfl⟩
    · rintro ⟨hmem, hne⟩
      refine ⟨hmem, ?_⟩
      rintro ⟨hg, rfl⟩
      exact hne ⟨rfl, gs, hgs, hg⟩

/-- Forgetting members one after the other. -/
lemma getElem?_members_foldl_remove (ms : List String) (c : MemberCache) (m : String) :
    (ms.foldl (fun c m => c.remove m) c).members[m]? =
      if m ∈ ms then none else c.members[m]? := by
  induction ms generalizing c with
  | nil => simp
  | cons m' ms ih =>
    rw [List.foldl_cons, ih, getElem?_members_remove]
    by_cases hm : m' = m
    · simp [hm]
    · simp [hm, Ne.symm hm]

lemma mem_membersOf_foldl_remove (ms : List String) (c : MemberCache) {m g : String} :
    m ∈ (ms.foldl (fun c m => c.remove m) c).membersByGroup.namesOf g ↔
      m ∈ c.membersByGroup.namesOf g ∧
        ¬ (m ∈ ms ∧ ∃ gs, c.members[m]? = some gs ∧ g ∈ gs) := by
  induction ms generalizing c with
  | nil => simp
  | cons m' ms ih =>
    rw [List.foldl_cons, ih, mem_membersOf_remove, getElem?_members_remove, List.mem_cons]
    by_cases hm : m' = m
    · subst hm
      simp
    · simp [hm, Ne.symm hm]

@[simp] lemma remove_empty (memberId : String) (enabled : Bool) :
    (empty enabled).remove memberId = empty enabled := by
  simp [remove, empty]

@[simp] lemma removeGroup_empty (groupId : String) (enabled : Bool) :
    (empty enabled).removeGroup groupId = empty enabled := by
  simp [removeGroup, empty]

/-! ## The index -/

/-- The index is that of the lists that are remembered. -/
structure Indexed (c : MemberCache) : Prop where
  /-- A member is in the set of a group exactly when a list with the group is remembered for the
  member. -/
  mem_iff : ∀ m g : String, m ∈ c.membersByGroup.namesOf g ↔ ∃ gs, c.members[m]? = some gs ∧ g ∈ gs
  /-- No set is empty. -/
  trim : c.membersByGroup.Trim

lemma indexed_empty (enabled : Bool) : (empty enabled).Indexed :=
  ⟨fun m g => by simp [empty], ReverseIndex.trim_empty⟩

lemma trim_remove (h : c.membersByGroup.Trim) (memberId : String) :
    (c.remove memberId).membersByGroup.Trim := by
  unfold remove
  split
  · exact h
  · exact h.foldl_remove _ memberId

/-- A group is forgotten by dropping its set and forgetting members, so no empty set is left. -/
lemma trim_removeGroup (h : c.membersByGroup.Trim) (groupId : String) :
    (c.removeGroup groupId).membersByGroup.Trim :=
  List.foldlRecOn (motive := fun c : MemberCache => c.membersByGroup.Trim) _ _ (h.erase groupId)
    fun _ hc m _ => trim_remove hc m

namespace Indexed

/-- A member who is not remembered yet may be remembered. -/
lemma save (h : c.Indexed) (hmiss : c.groups? memberId = none) :
    (c.save memberId groupIds).Indexed := by
  by_cases henabled : c.enabled = true
  · refine ⟨fun m g => ?_, ?_⟩
    · have hfree : c.members[memberId]? = none := by simpa [groups?, henabled] using hmiss
      rw [getElem?_members_save henabled]
      simp only [MemberCache.save, if_pos henabled, ReverseIndex.mem_namesOf_foldl_add,
        h.mem_iff m g]
      by_cases hm : memberId = m
      · subst hm
        simp [hfree]
      · simp [hm, Ne.symm hm]
    · rw [MemberCache.save, if_pos henabled]
      exact h.trim.foldl_add groupIds memberId
  · rwa [MemberCache.save, if_neg henabled]

lemma remove (h : c.Indexed) (memberId : String) : (c.remove memberId).Indexed := by
  refine ⟨fun m g => ?_, trim_remove h.trim memberId⟩
  rw [mem_membersOf_remove, getElem?_members_remove, h.mem_iff m g]
  by_cases hm : memberId = m
  · subst hm
    simp
  · simp [hm, Ne.symm hm]

/-- Forgetting the set of a group forgets every list with the group and no other. -/
lemma getElem?_members_removeGroup_iff (h : c.Indexed) {m : String} {gs : List String} :
    (c.removeGroup groupId).members[m]? = some gs ↔ c.members[m]? = some gs ∧ groupId ∉ gs := by
  simp only [removeGroup, getElem?_members_foldl_remove, Std.ExtTreeSet.mem_toList,
    h.mem_iff m groupId]
  by_cases hm : ∃ gs, c.members[m]? = some gs ∧ groupId ∈ gs
  · obtain ⟨gs', hgs', hg⟩ := hm
    simp only [hgs', Option.some.injEq, exists_eq_left', hg, if_true, reduceCtorEq, false_iff,
      not_and, not_not]
    rintro rfl
    exact hg
  · rw [if_neg hm]
    constructor
    · exact fun hgs => ⟨hgs, fun hg => hm ⟨gs, hgs, hg⟩⟩
    · exact fun hgs => hgs.1

/-- The set of the group is dropped first, so that the index is not exact while the members are
forgotten; it is when all of them are. -/
lemma removeGroup (h : c.Indexed) (groupId : String) : (c.removeGroup groupId).Indexed := by
  refine ⟨fun m g => ?_, trim_removeGroup h.trim groupId⟩
  -- a member leaves the set of `g` with the set, or when a list with `groupId` is forgotten
  have hindex : m ∈ (c.removeGroup groupId).membersByGroup.namesOf g ↔
      (g ≠ groupId ∧ m ∈ c.membersByGroup.namesOf g) ∧
        ¬ (m ∈ c.membersByGroup.namesOf groupId ∧ ∃ gs, c.members[m]? = some gs ∧ g ∈ gs) := by
    simp only [MemberCache.removeGroup, mem_membersOf_foldl_remove, Std.ExtTreeSet.mem_toList,
      ReverseIndex.mem_namesOf_erase]
  rw [hindex, h.mem_iff m g, h.mem_iff m groupId]
  simp only [h.getElem?_members_removeGroup_iff]
  constructor
  · rintro ⟨⟨hne, gs, hgs, hg⟩, hnot⟩
    exact ⟨gs, ⟨hgs, fun hgroup => hnot ⟨⟨gs, hgs, hgroup⟩, gs, hgs, hg⟩⟩, hg⟩
  · rintro ⟨gs, ⟨hgs, hgroup⟩, hg⟩
    refine ⟨⟨?_, gs, hgs, hg⟩, ?_⟩
    · rintro rfl
      exact hgroup hg
    · rintro ⟨⟨gs', hgs', hgroup'⟩, -⟩
      obtain rfl := Option.some.inj (hgs.symm.trans hgs')
      exact hgroup hgroup'

/-- Where no list is remembered the index is empty. -/
lemma membersByGroup_eq_empty (h : c.Indexed) (hmembers : c.members = ∅) :
    c.membersByGroup = ∅ :=
  h.trim.eq_empty fun g m hmem => by simpa [hmembers] using (h.mem_iff m g).1 hmem

end Indexed

/-! ## What is remembered -/

/-- The index is exact, and every list that is remembered is the one that `groupsOf` gives. -/
structure Mirrors (c : MemberCache) (groupsOf : String → List String) : Prop where
  /-- The index is exact. -/
  indexed : c.Indexed
  /-- What is remembered about a member. -/
  groups_of : ∀ {m : String} {gs : List String}, c.members[m]? = some gs → gs = groupsOf m

namespace Mirrors

variable {groupsOf groupsOf' : String → List String}

lemma empty (enabled : Bool) : (empty enabled).Mirrors groupsOf :=
  ⟨indexed_empty enabled, by simp [MemberCache.empty]⟩

lemma of_groups? (h : c.Mirrors groupsOf) (hgs : c.groups? memberId = some groupIds) :
    groupIds = groupsOf memberId := by
  unfold groups? at hgs
  split at hgs
  · exact h.groups_of hgs
  · simp at hgs

lemma mono (h : c.Mirrors groupsOf)
    (hgroups : ∀ m gs, c.members[m]? = some gs → gs = groupsOf m → gs = groupsOf' m) :
    c.Mirrors groupsOf' :=
  ⟨h.indexed, fun hgs => hgroups _ _ hgs (h.groups_of hgs)⟩

lemma save (h : c.Mirrors groupsOf) (hmiss : c.groups? memberId = none) :
    (c.save memberId (groupsOf memberId)).Mirrors groupsOf := by
  refine ⟨h.indexed.save hmiss, ?_⟩
  intro m gs hgs
  by_cases henabled : c.enabled = true
  · rw [getElem?_members_save henabled] at hgs
    split at hgs
    · rename_i heq
      obtain rfl := Option.some.inj hgs
      rw [heq]
    · exact h.groups_of hgs
  · rw [MemberCache.save, if_neg henabled] at hgs
    exact h.groups_of hgs

lemma remove (h : c.Mirrors groupsOf) (memberId : String) :
    (c.remove memberId).Mirrors groupsOf := by
  refine ⟨h.indexed.remove memberId, ?_⟩
  intro m gs hgs
  rw [getElem?_members_remove] at hgs
  split at hgs
  · simp at hgs
  · exact h.groups_of hgs

lemma removeGroup (h : c.Mirrors groupsOf) (groupId : String) :
    (c.removeGroup groupId).Mirrors groupsOf :=
  ⟨h.indexed.removeGroup groupId,
    fun hgs => h.groups_of (h.indexed.getElem?_members_removeGroup_iff.1 hgs).1⟩

/-- When the groups of some members have changed, it is enough to forget these members. -/
lemma foldl_remove (h : c.Mirrors groupsOf) {ms : List String}
    (hsame : ∀ m, m ∉ ms → groupsOf m = groupsOf' m) :
    (ms.foldl (fun c m => c.remove m) c).Mirrors groupsOf' := by
  have hindexed : (ms.foldl (fun c m => c.remove m) c).Indexed :=
    List.foldlRecOn ms _ h.indexed fun _ hc m _ => Indexed.remove hc m
  refine ⟨hindexed, ?_⟩
  intro m gs hgs
  rw [getElem?_members_foldl_remove] at hgs
  split at hgs
  · simp at hgs
  · rename_i hm
    rw [h.groups_of hgs, hsame m hm]

end Mirrors

/-- No list with a group that is `gone` is remembered. -/
def Avoids (c : MemberCache) (gone : String → Prop) : Prop :=
  ∀ (m : String) (gs : List String), c.members[m]? = some gs → ∀ g ∈ gs, ¬ gone g

namespace Avoids

variable {gone : String → Prop}

lemma remove (h : c.Avoids gone) (memberId : String) : (c.remove memberId).Avoids gone := by
  intro m gs hgs
  rw [getElem?_members_remove] at hgs
  split at hgs
  · simp at hgs
  · exact h m gs hgs

lemma removeGroup (h : c.Avoids gone) (hindexed : c.Indexed) (groupId : String) :
    (c.removeGroup groupId).Avoids fun g => gone g ∨ g = groupId := by
  intro m gs hgs g hg hgone
  obtain ⟨hgs, hnot⟩ := hindexed.getElem?_members_removeGroup_iff.1 hgs
  rcases hgone with hgone | rfl
  · exact h m gs hgs g hg hgone
  · exact hnot hg

end Avoids

end DeviceFleet.MemberCache
