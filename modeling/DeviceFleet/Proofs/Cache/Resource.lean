/-
# What the caches of resources remember

A cache of a kind of resource mirrors a relation between keys and resources, and one between
resources and groups, when everything that it remembers stands in these relations.  Besides, its
index is exact: it has a key in the set of a resource exactly when the key is remembered for it.
That is what makes it enough to forget the set of a resource.  No set is kept that is empty.
-/
import DeviceFleet.Cache.Resource
import DeviceFleet.Proofs.Cache.Index
import DeviceFleet.Proofs.Maps

namespace DeviceFleet.ResourceCache

variable {c : ResourceCache} {id key groupId : String}

/-! ## What the changes do -/

lemma getElem?_keys_save (henabled : c.enabled = true) (key' : String) :
    (c.save key id).keys[key']? = if key = key' then some id else c.keys[key']? := by
  simp [save, henabled, Std.ExtTreeMap.getElem?_insert]

lemma getElem?_groups_saveGroup (henabled : c.enabled = true) (id' : String) :
    (c.saveGroup id groupId).groups[id']? = if id = id' then some groupId else c.groups[id']? := by
  simp [saveGroup, henabled, Std.ExtTreeMap.getElem?_insert]

lemma getElem?_groups_removeGroup (id' : String) :
    (c.removeGroup id).groups[id']? = if id = id' then none else c.groups[id']? := by
  simp [removeGroup, Std.ExtTreeMap.getElem?_erase]

lemma getElem?_keys_remove (key : String) :
    (c.remove id).keys[key]? = if key ∈ c.keysById.namesOf id then none else c.keys[key]? := by
  simp only [remove, getElem?_foldl_erase, Std.ExtTreeSet.mem_toList]

@[simp] lemma remove_empty (id : String) (enabled : Bool) :
    (empty enabled).remove id = empty enabled := by
  simp [remove, empty]

@[simp] lemma removeGroup_empty (id : String) (enabled : Bool) :
    (empty enabled).removeGroup id = empty enabled := by
  simp [removeGroup, empty]

/-! ## The index -/

/-- The index is that of the keys that are remembered. -/
structure Indexed (c : ResourceCache) : Prop where
  /-- A key is in the set of a resource exactly when the key is remembered for it. -/
  mem_iff : ∀ key id : String, key ∈ c.keysById.namesOf id ↔ c.keys[key]? = some id
  /-- No set is empty. -/
  trim : c.keysById.Trim

lemma indexed_empty (enabled : Bool) : (empty enabled).Indexed :=
  ⟨fun key id => by simp [empty], ReverseIndex.trim_empty⟩

namespace Indexed

/-- A key that is not remembered yet may be remembered. -/
lemma save (h : c.Indexed) (hmiss : c.id? key = none) : (c.save key id).Indexed := by
  by_cases henabled : c.enabled = true
  · refine ⟨fun key' id' => ?_, ?_⟩
    · -- the key is free, so it is in no set either, and is put in only one
      have hfree : c.keys[key]? = none := by simpa [id?, henabled] using hmiss
      rw [getElem?_keys_save henabled]
      simp only [ResourceCache.save, if_pos henabled, ReverseIndex.mem_namesOf_add,
        h.mem_iff key' id']
      by_cases hk : key = key'
      · subst hk
        simp [hfree, eq_comm]
      · simp [hk, Ne.symm hk]
    · rw [ResourceCache.save, if_pos henabled]
      exact h.trim.add id key
  · rwa [ResourceCache.save, if_neg henabled]

/-- Forgetting the set of a resource forgets all its keys and no other. -/
lemma getElem?_keys_remove_iff (h : c.Indexed) {id' : String} :
    (c.remove id).keys[key]? = some id' ↔ c.keys[key]? = some id' ∧ id' ≠ id := by
  rw [getElem?_keys_remove]
  by_cases hmem : key ∈ c.keysById.namesOf id
  · have hkey := (h.mem_iff key id).1 hmem
    simp only [if_pos hmem, hkey, Option.some.injEq, reduceCtorEq, false_iff, not_and]
    rintro rfl hne
    exact hne rfl
  · rw [if_neg hmem]
    constructor
    · intro hkey
      refine ⟨hkey, ?_⟩
      rintro rfl
      exact hmem ((h.mem_iff key id').2 hkey)
    · exact fun hkey => hkey.1

lemma remove (h : c.Indexed) (id : String) : (c.remove id).Indexed := by
  refine ⟨fun key id' => ?_, h.trim.erase id⟩
  rw [h.getElem?_keys_remove_iff, ← h.mem_iff key id']
  simp only [ResourceCache.remove, ReverseIndex.mem_namesOf_erase]
  rw [and_comm]

lemma saveGroup (h : c.Indexed) (id groupId : String) : (c.saveGroup id groupId).Indexed := by
  unfold ResourceCache.saveGroup
  split
  · exact ⟨h.mem_iff, h.trim⟩
  · exact h

lemma removeGroup (h : c.Indexed) (id : String) : (c.removeGroup id).Indexed :=
  ⟨h.mem_iff, h.trim⟩

/-- Where no key is remembered the index is empty. -/
lemma keysById_eq_empty (h : c.Indexed) (hkeys : c.keys = ∅) : c.keysById = ∅ :=
  h.trim.eq_empty fun id key hmem => by simpa [hkeys] using (h.mem_iff key id).1 hmem

end Indexed

/-! ## What is remembered -/

/-- The index is exact, every remembered key stands in the relation `names` to its resource, and
every remembered group in the relation `owners`. -/
structure Mirrors (c : ResourceCache) (names owners : String → String → Prop) : Prop where
  /-- The index is exact. -/
  indexed : c.Indexed
  /-- What is remembered about a key. -/
  names_of : ∀ {key id : String}, c.keys[key]? = some id → names key id
  /-- What is remembered about the group of a resource. -/
  owners_of : ∀ {id groupId : String}, c.groups[id]? = some groupId → owners id groupId

namespace Mirrors

variable {names owners names' owners' : String → String → Prop}

lemma empty (enabled : Bool) : (empty enabled).Mirrors names owners :=
  ⟨indexed_empty enabled, by simp [ResourceCache.empty], by simp [ResourceCache.empty]⟩

lemma of_id? (h : c.Mirrors names owners) (hid : c.id? key = some id) : names key id := by
  unfold id? at hid
  split at hid
  · exact h.names_of hid
  · simp at hid

lemma of_group? (h : c.Mirrors names owners) (hg : c.group? id = some groupId) :
    owners id groupId := by
  unfold group? at hg
  split at hg
  · exact h.owners_of hg
  · simp at hg

lemma mono (h : c.Mirrors names owners)
    (hnames : ∀ key id, c.keys[key]? = some id → names key id → names' key id)
    (howners : ∀ id g, c.groups[id]? = some g → owners id g → owners' id g) :
    c.Mirrors names' owners' :=
  ⟨h.indexed, fun hk => hnames _ _ hk (h.names_of hk), fun hg => howners _ _ hg (h.owners_of hg)⟩

lemma save (h : c.Mirrors names owners) (hmiss : c.id? key = none) (hkey : names key id) :
    (c.save key id).Mirrors names owners := by
  refine ⟨h.indexed.save hmiss, ?_, ?_⟩
  · intro key' id' hk
    by_cases henabled : c.enabled = true
    · rw [getElem?_keys_save henabled] at hk
      split at hk
      · rename_i heq
        obtain rfl := Option.some.inj hk
        exact heq ▸ hkey
      · exact h.names_of hk
    · rw [ResourceCache.save, if_neg henabled] at hk
      exact h.names_of hk
  · intro id' g hg
    unfold ResourceCache.save at hg
    split at hg <;> exact h.owners_of hg

lemma saveGroup (h : c.Mirrors names owners) (hg : owners id groupId) :
    (c.saveGroup id groupId).Mirrors names owners := by
  refine ⟨h.indexed.saveGroup id groupId, ?_, ?_⟩
  · intro key id' hk
    unfold ResourceCache.saveGroup at hk
    split at hk <;> exact h.names_of hk
  · intro id' g hg'
    by_cases henabled : c.enabled = true
    · rw [getElem?_groups_saveGroup henabled] at hg'
      split at hg'
      · rename_i heq
        obtain rfl := Option.some.inj hg'
        exact heq ▸ hg
      · exact h.owners_of hg'
    · rw [ResourceCache.saveGroup, if_neg henabled] at hg'
      exact h.owners_of hg'

lemma remove (h : c.Mirrors names owners) (id : String) : (c.remove id).Mirrors names owners :=
  ⟨h.indexed.remove id, fun hk => h.names_of (h.indexed.getElem?_keys_remove_iff.1 hk).1,
    h.owners_of⟩

lemma removeGroup (h : c.Mirrors names owners) (id : String) :
    (c.removeGroup id).Mirrors names owners := by
  refine ⟨h.indexed.removeGroup id, h.names_of, ?_⟩
  intro id' g hg
  rw [getElem?_groups_removeGroup] at hg
  split at hg
  · simp at hg
  · exact h.owners_of hg

end Mirrors

/-! ## What is not remembered -/

/-- Nothing is remembered about resources that are `gone`. -/
structure Avoids (c : ResourceCache) (gone : String → Prop) : Prop where
  /-- No key of a resource that is gone is remembered. -/
  keys : ∀ {key id : String}, c.keys[key]? = some id → ¬ gone id
  /-- No group of a resource that is gone is remembered. -/
  groups : ∀ {id groupId : String}, c.groups[id]? = some groupId → ¬ gone id

namespace Avoids

variable {gone gone' : String → Prop}

lemma of_forall_not (h : ∀ id, ¬ gone id) : c.Avoids gone := ⟨fun _ => h _, fun _ => h _⟩

lemma anti (h : c.Avoids gone) (hgone : ∀ id, gone' id → gone id) : c.Avoids gone' :=
  ⟨fun hk hid => h.keys hk (hgone _ hid), fun hg hid => h.groups hg (hgone _ hid)⟩

/-- After a look-up of a group only what was looked up may be remembered anew. -/
lemma saveGroup (h : c.Avoids gone) (id groupId : String) :
    (c.saveGroup id groupId).Avoids fun id' => gone id' ∧ id' ≠ id := by
  refine ⟨?_, ?_⟩
  · intro key id' hk hgone
    unfold ResourceCache.saveGroup at hk
    split at hk <;> exact h.keys hk hgone.1
  · intro id' g hg hgone
    by_cases henabled : c.enabled = true
    · rw [getElem?_groups_saveGroup henabled, if_neg (Ne.symm hgone.2)] at hg
      exact h.groups hg hgone.1
    · rw [ResourceCache.saveGroup, if_neg henabled] at hg
      exact h.groups hg hgone.1

lemma remove (h : c.Avoids gone) (hindexed : c.Indexed) (id : String) : (c.remove id).Avoids gone :=
  ⟨fun hk => h.keys (hindexed.getElem?_keys_remove_iff.1 hk).1, h.groups⟩

/-- Forgetting the group of a resource without keys forgets all about it. -/
lemma forgetGroup (h : c.Avoids fun id' => gone id' ∧ id' ≠ id)
    (hkeys : ∀ key : String, c.keys[key]? ≠ some id) :
    (c.removeGroup id).Avoids fun id' => gone id' ∨ id' = id := by
  refine ⟨?_, ?_⟩
  · intro key id' hk hgone
    have hne : id' ≠ id := fun heq => hkeys key (heq ▸ hk)
    exact h.keys hk ⟨hgone.resolve_right hne, hne⟩
  · intro id' g hg hgone
    rw [getElem?_groups_removeGroup] at hg
    split at hg
    · simp at hg
    · rename_i hne
      exact h.groups hg ⟨hgone.resolve_right (Ne.symm hne), Ne.symm hne⟩

/-- Forgetting the keys and the group of a resource forgets all about it. -/
lemma forget (h : c.Avoids fun id' => gone id' ∧ id' ≠ id) (hindexed : c.Indexed) :
    ((c.remove id).removeGroup id).Avoids fun id' => gone id' ∨ id' = id :=
  (h.remove hindexed id).forgetGroup fun _ hk => (hindexed.getElem?_keys_remove_iff.1 hk).2 rfl

end Avoids

end DeviceFleet.ResourceCache
