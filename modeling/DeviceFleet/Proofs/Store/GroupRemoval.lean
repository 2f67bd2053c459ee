/-
# Taking out groups

Groups are taken out one after the other, and with each of them its things with their keys, its
profiles and its memberships.  This file shows what is left in the end: every record of the other
groups, unchanged, and nothing else.

A sound store is determined by its records, since these determine the index of the keys.  So two
ways of taking out the same stored groups end in the same store, and neither the order of the
identifiers nor how often one is given plays a role.
-/
import DeviceFleet.Proofs.Store.History

namespace DeviceFleet.Store

variable {s s₁ s₂ : Store} {gone : String → Prop} {ids ids' : List String}

/-! ## Stores with the same records -/

/-- Sound stores without the same groups are equal: the records that are left are the same, and
they determine the index of the keys. -/
lemma Without.unique (hs₁ : Without s gone s₁) (hs₂ : Without s gone s₂) (h₁ : s₁.Sound)
    (h₂ : s₂.Sound) : s₁ = s₂ := by
  have hthings : ∀ {id : String} {t : Thing},
      s₁.things[id]? = some t ↔ s₂.things[id]? = some t := by
    intro id t
    rw [hs₁.things_iff, hs₂.things_iff]
  have hkeys : s₁.thingKeys = s₂.thingKeys := by
    apply eq_of_getElem?_iff
    intro key id
    simp only [h₁.key_iff, h₂.key_iff, hthings]
  have hprofiles : s₁.profiles = s₂.profiles := by
    apply eq_of_getElem?_iff
    intro id p
    rw [hs₁.profiles_iff, hs₂.profiles_iff]
  have hgroups : s₁.groups = s₂.groups := by
    apply eq_of_getElem?_iff
    intro id g
    rw [hs₁.groups_iff, hs₂.groups_iff]
  have hmemberships : s₁.memberships = s₂.memberships := by
    apply eq_of_getElem?_iff
    intro key m
    rw [hs₁.memberships_iff, hs₂.memberships_iff]
  have hthings : s₁.things = s₂.things := eq_of_getElem?_iff hthings
  cases s₁
  cases s₂
  simp_all only

/-! ## Which groups are named -/

/-- Lists that name the same stored groups take out the same. -/
lemma removeGroups_congr (h : s.Sound) (hids : ∀ g ∈ s.groups, g ∈ ids ↔ g ∈ ids') :
    s.removeGroups ids = s.removeGroups ids' := by
  have hsame : ∀ g : String, g ∈ ids ∧ g ∈ s.groups ↔ g ∈ ids' ∧ g ∈ s.groups :=
    fun g => and_congr_left (hids g)
  exact ((without_removeGroups h ids).congr hsame).unique (without_removeGroups h ids')
    (h.removeGroups ids) (h.removeGroups ids')

/-- Once the groups are taken out, no stored group is named any more. -/
lemma removeGroups_again (h : s.Sound) (ids : List String) :
    (s.removeGroups ids).removeGroups ids = s.removeGroups ids := by
  have hnone : ∀ g ∈ (s.removeGroups ids).groups, g ∈ ids ↔ g ∈ [] := by
    intro g hg
    obtain ⟨hmem, hleft⟩ := (without_removeGroups h ids).mem_groups_iff.1 hg
    simpa using fun hids => hleft ⟨hids, hmem⟩
  exact removeGroups_congr (h.removeGroups ids) hnone

/-- **Taking out groups takes out exactly what they own.**  After any history, the groups that are
left are those that the list does not name; the things, the profiles and the memberships that are
left are those of the groups that are left or were never stored; and the index has exactly the keys
of the things that are left.  Whatever is left is as it was.  Only which stored groups the list
names counts, not in which order or how often, and to take out the same groups again changes
nothing. -/
theorem removeGroups_cascades (history : List Command) (ids : List String) :
    let s := (∅ : Store).after history
    let s' := s.removeGroups ids
    let Gone : String → Prop := fun groupId => groupId ∈ ids ∧ groupId ∈ s.groups
    (∀ {id : String} {g : Group},
      s'.groups[id]? = some g ↔ s.groups[id]? = some g ∧ ¬ Gone id) ∧
    (∀ {id : String} {t : Thing},
      s'.things[id]? = some t ↔ s.things[id]? = some t ∧ ¬ Gone t.groupId) ∧
    (∀ {id : String} {p : Profile},
      s'.profiles[id]? = some p ↔ s.profiles[id]? = some p ∧ ¬ Gone p.groupId) ∧
    (∀ {key : Membership.Key} {m : Membership},
      s'.memberships[key]? = some m ↔ s.memberships[key]? = some m ∧ ¬ Gone m.groupId) ∧
    (∀ {key id : String},
      s'.thingKeys[key]? = some id ↔ ∃ t : Thing, s'.things[id]? = some t ∧ t.key = key) ∧
    (∀ ids' : List String, (∀ g ∈ s.groups, g ∈ ids' ↔ g ∈ ids) → s.removeGroups ids' = s') ∧
    s'.removeGroups ids = s' := by
  intro s s' Gone
  have hsound : s.Sound := sound_empty.after history
  have hwithout : Without s Gone s' := without_removeGroups hsound ids
  refine ⟨hwithout.groups_iff, hwithout.things_iff, hwithout.profiles_iff, ?_,
    (hsound.removeGroups ids).key_iff, fun ids' hids => removeGroups_congr hsound hids,
    removeGroups_again hsound ids⟩
  intro key m
  rw [hwithout.memberships_iff]
  refine and_congr_right fun hm => ?_
  -- a membership is stored under its group and member
  obtain rfl := hsound.membership_key hm
  rfl

end DeviceFleet.Store
