/-
# Changes of groups

What each request that changes groups does to a sound store, stated by look-ups.  Taking out a
group takes out whatever it owns, of every kind.
-/
import DeviceFleet.Proofs.Store.Things

namespace DeviceFleet.Store

variable {s s' : Store} {g : Group} {id : String}

/-! ## Saving -/

/-- A group that is refused leaves the store as it was. -/
lemma saveGroup_error {e : StoreError} (h : s.saveGroup g = (.error e, s')) : s' = s := by
  unfold saveGroup at h
  split at h
  · exact (congrArg Prod.snd h).symm
  · split at h
    · exact (congrArg Prod.snd h).symm
    · simp at h

lemma saveGroup_ok {saved : Group} (h : s.saveGroup g = (.ok saved, s')) :
    saved = g ∧ checkGroup g = .ok () ∧ g.id ∉ s.groups ∧
      s' = { s with groups := s.groups.insert g.id g } := by
  unfold saveGroup at h
  split at h
  · simp at h
  · rename_i hcheck
    split at h
    · simp at h
    · rename_i hid
      obtain ⟨hsaved, rfl⟩ := Prod.mk.inj h
      exact ⟨(Except.ok.inj hsaved).symm, hcheck, hid, rfl⟩

/-- A group is accepted when it passes its check and its identifier is free. -/
lemma saveGroup_eq_ok (hchecked : checkGroup g = .ok ()) (hid : g.id ∉ s.groups) :
    s.saveGroup g = (.ok g, { s with groups := s.groups.insert g.id g }) := by
  rw [saveGroup, hchecked]
  exact if_neg hid

lemma Sound.insertGroup (h : s.Sound) (g : Group) :
    { s with groups := s.groups.insert g.id g }.Sound := by
  refine { h with group_id := ?_ }
  intro id g' hg
  have := @h.group_id id g'
  grind

lemma Sound.saveGroup (h : s.Sound) (g : Group) : (s.saveGroup g).2.Sound := by
  rcases hs : s.saveGroup g with ⟨⟨e⟩ | ⟨saved⟩, s'⟩
  · rw [saveGroup_error hs]
    exact h
  · obtain ⟨-, -, -, rfl⟩ := saveGroup_ok hs
    exact h.insertGroup g

/-! ## Changing -/

/-- A change that is refused leaves the store as it was. -/
lemma updateGroup_error {e : StoreError} (h : s.updateGroup g = (.error e, s')) : s' = s := by
  unfold updateGroup at h
  split at h
  · exact (congrArg Prod.snd h).symm
  · simp at h

/-- A change keeps the identifier, the organization and the time of creation of the stored
group. -/
lemma updateGroup_ok {changed : Group} (h : s.updateGroup g = (.ok changed, s')) :
    ∃ stored, s.groups[g.id]? = some stored ∧
      changed = { stored with
        name := g.name, description := g.description, metadata := g.metadata
        updatedAt := g.updatedAt } ∧
      s' = { s with groups := s.groups.insert g.id changed } := by
  unfold updateGroup at h
  split at h
  · simp at h
  · rename_i stored hstored
    obtain ⟨hchanged, rfl⟩ := Prod.mk.inj h
    obtain rfl := Except.ok.inj hchanged
    exact ⟨stored, hstored, rfl, rfl⟩

lemma Sound.updateGroup (h : s.Sound) (g : Group) : (s.updateGroup g).2.Sound := by
  rcases hs : s.updateGroup g with ⟨⟨e⟩ | ⟨changed⟩, s'⟩
  · rw [updateGroup_error hs]
    exact h
  · obtain ⟨stored, hstored, rfl, rfl⟩ := updateGroup_ok hs
    have hid : stored.id = g.id := h.group_id hstored
    have hinsert := h.insertGroup { stored with
      name := g.name, description := g.description, metadata := g.metadata
      updatedAt := g.updatedAt }
    simpa only [hid] using hinsert

/-! ## Taking out -/

/-- The store `s'` is `s` without the groups that are `gone` and whatever they own. -/
structure Without (s : Store) (gone : String → Prop) (s' : Store) : Prop where
  /-- The things of other groups are left. -/
  things_iff : ∀ {id : String} {t : Thing},
    s'.things[id]? = some t ↔ s.things[id]? = some t ∧ ¬ gone t.groupId
  /-- The profiles of other groups are left. -/
  profiles_iff : ∀ {id : String} {p : Profile},
    s'.profiles[id]? = some p ↔ s.profiles[id]? = some p ∧ ¬ gone p.groupId
  /-- The other groups are left. -/
  groups_iff : ∀ {id : String} {g : Group},
    s'.groups[id]? = some g ↔ s.groups[id]? = some g ∧ ¬ gone id
  /-- The memberships in other groups are left. -/
  memberships_iff : ∀ {key : Membership.Key} {m : Membership},
    s'.memberships[key]? = some m ↔ s.memberships[key]? = some m ∧ ¬ gone key.groupId

namespace Without

variable {gone gone' : String → Prop} {s'' : Store}

lemma refl (s : Store) : Without s (fun _ => False) s := by constructor <;> simp

lemma trans (h : Without s gone s') (h' : Without s' gone' s'') :
    Without s (fun g => gone g ∨ gone' g) s'' := by
  refine ⟨?_, ?_, ?_, ?_⟩
  · intro id t
    rw [h'.things_iff, h.things_iff, and_assoc, not_or]
  · intro id p
    rw [h'.profiles_iff, h.profiles_iff, and_assoc, not_or]
  · intro id g
    rw [h'.groups_iff, h.groups_iff, and_assoc, not_or]
  · intro key m
    rw [h'.memberships_iff, h.memberships_iff, and_assoc, not_or]

lemma congr (h : Without s gone s') (hgone : ∀ g, gone g ↔ gone' g) : Without s gone' s' := by
  obtain rfl : gone = gone' := funext fun g => propext (hgone g)
  exact h

lemma mem_groups_iff (h : Without s gone s') : id ∈ s'.groups ↔ id ∈ s.groups ∧ ¬ gone id := by
  simp only [Std.ExtTreeMap.mem_iff_isSome_getElem?, Option.isSome_iff_exists, h.groups_iff,
    exists_and_right]

end Without

/-- The identifiers of the things that a group owns. -/
lemma mem_owned_iff (h : s.Sound) {groupId : String} :
    id ∈ (s.thingsWhere fun t => t.groupId == groupId).map (·.id) ↔
      ∃ t : Thing, s.things[id]? = some t ∧ t.groupId = groupId := by
  simp only [thingsWhere, List.mem_map, List.mem_filter, h.mem_things_iff, beq_iff_eq]
  constructor
  · rintro ⟨t, ⟨ht, hg⟩, rfl⟩
    exact ⟨t, ht, hg⟩
  · rintro ⟨t, ht, hg⟩
    obtain rfl := h.thing_id ht
    exact ⟨t, ⟨ht, hg⟩, rfl⟩

lemma Sound.eraseGroup (h : s.Sound) (id : String) : (s.eraseGroup id).Sound := by
  unfold Store.eraseGroup
  split
  · have hgroups : { s with groups := s.groups.erase id }.Sound := by
      refine { h with group_id := ?_ }
      intro id' g hg
      have := @h.group_id id' g
      grind
    have hthings := hgroups.removeThings ((s.thingsWhere fun t => t.groupId == id).map (·.id))
    refine { hthings with profile_id := ?_, membership_key := ?_ }
    · intro id' p hp
      have := @hthings.profile_id id' p
      simp only [Std.ExtTreeMap.getElem?_filter', Option.filter_eq_some_iff] at hp
      exact this hp.1
    · intro key m hm
      have := @hthings.membership_key key m
      simp only [Std.ExtTreeMap.getElem?_filter] at hm
      simp only [Option.pfilter_eq_some_iff] at hm
      obtain ⟨hm, -⟩ := hm
      exact this hm
  · exact h

/-- Taking out a group that is not stored takes out nothing. -/
lemma without_eraseGroup (h : s.Sound) (id : String) :
    Without s (fun g => g = id ∧ g ∈ s.groups) (s.eraseGroup id) := by
  by_cases hid : id ∈ s.groups
  · have howned : ∀ {id' : String}, id' ∈ (s.thingsWhere fun t => t.groupId == id).map (·.id) ↔
        ∃ t : Thing, s.things[id']? = some t ∧ t.groupId = id := mem_owned_iff h
    refine ⟨?_, ?_, ?_, ?_⟩
    · intro id' t
      simp only [eraseGroup, if_pos hid, things_removeThings]
      grind
    · intro id' p
      simp only [eraseGroup, if_pos hid, profiles_removeThings]
      grind
    · intro id' g
      simp only [eraseGroup, if_pos hid, groups_removeThings]
      grind
    · intro key m
      simp only [eraseGroup, if_pos hid, memberships_removeThings]
      grind
  · rw [eraseGroup, if_neg hid]
    refine (Without.refl s).congr fun g => ?_
    simp only [false_iff, not_and]
    rintro rfl
    exact hid

lemma Sound.removeGroups (h : s.Sound) (ids : List String) : (s.removeGroups ids).Sound := by
  induction ids generalizing s with
  | nil => exact h
  | cons i ids ih => exact ih (h.eraseGroup i)

/-- Taking out groups takes out those that are stored, with whatever they own, and nothing
else. -/
lemma without_removeGroups (h : s.Sound) (ids : List String) :
    Without s (fun g => g ∈ ids ∧ g ∈ s.groups) (s.removeGroups ids) := by
  induction ids generalizing s with
  | nil => exact (Without.refl s).congr (by simp)
  | cons i ids ih =>
    have hone := without_eraseGroup h i
    refine (hone.trans (ih (h.eraseGroup i))).congr fun g => ?_
    rw [hone.mem_groups_iff, List.mem_cons]
    tauto

end DeviceFleet.Store
