/-
# Other keys in the caches

The cache of things remembers keys, and the index by which the keys of a thing are forgotten has
sets of keys.  Two caches that are the same but for the keys answer look-ups in the same way and
stay the same but for the keys, whichever of their keys are asked for, remembered or forgotten.
-/
import DeviceFleet.Proofs.Cache.Index
import DeviceFleet.Proofs.Store.KeyRenaming
import DeviceFleet.Service.Action

namespace DeviceFleet

/-- Two caches in memory that are related, or two that are out of order in the same way. -/
inductive Lookaside.Related {α : Type} (r : α → α → Prop) : Lookaside α → Lookaside α → Prop where
  /-- Both are in memory. -/
  | memory {c d : α} (h : r c d) : Related r (.memory c) (.memory d)
  /-- Both fail to change. -/
  | failing : Related r .failing .failing
  /-- Both fail to answer. -/
  | unreadable : Related r .unreadable .unreadable

namespace Lookaside.Related

variable {α β : Type} {r : α → α → Prop} {a b : Lookaside α}

lemma refl (hrefl : ∀ c, r c c) (a : Lookaside α) : Related r a a := by
  cases a with
  | memory c => exact .memory (hrefl c)
  | failing => exact .failing
  | unreadable => exact .unreadable

/-- A look-up that does not tell related caches apart has one outcome. -/
lemma read_eq (h : Related r a b) {find find' : α → Option β}
    (hfind : ∀ {c d}, r c d → find' d = find c) : b.read find' = a.read find := by
  cases h with
  | memory hr => exact congrArg Except.ok (hfind hr)
  | failing => rfl
  | unreadable => rfl

lemma counted_eq (h : Related r a b) (kind : CacheKind) (found : Except CacheError (Option β)) :
    b.counted kind found = a.counted kind found := by
  cases h <;> rfl

/-- A change that keeps caches related. -/
lemma change (h : Related r a b) {f f' : α → α} (hf : ∀ {c d}, r c d → r (f c) (f' d)) :
    (b.change f').1 = (a.change f).1 ∧ Related r (a.change f).2 (b.change f').2 := by
  cases h with
  | memory hr => exact ⟨rfl, .memory (hf hr)⟩
  | failing => exact ⟨rfl, .failing⟩
  | unreadable => exact ⟨rfl, .unreadable⟩

end Lookaside.Related

namespace ResourceCache

variable {ρ : KeyRenaming} {c d : ResourceCache}

/-- The cache `d` is `c` with other keys. -/
structure Renamed (ρ : KeyRenaming) (c d : ResourceCache) : Prop where
  /-- Both are enabled, or neither is. -/
  enabled : d.enabled = c.enabled
  /-- The other keys belong to the same resources. -/
  keys : ρ.Reindexes c.keys d.keys
  /-- There are sets of keys for the same resources. -/
  mem_keysById_iff : ∀ {id : String}, id ∈ d.keysById ↔ id ∈ c.keysById
  /-- The sets have other keys. -/
  mem_namesOf_iff : ∀ {id key : String},
    ρ key ∈ d.keysById.namesOf id ↔ key ∈ c.keysById.namesOf id
  /-- The groups are the same. -/
  groups : d.groups = c.groups

namespace Renamed

protected lemma id (c : ResourceCache) : c.Renamed KeyRenaming.id c :=
  ⟨rfl, fun _ => rfl, Iff.rfl, Iff.rfl, rfl⟩

/-- No cache but itself is the cache with its own keys. -/
lemma eq_of_id (h : c.Renamed KeyRenaming.id d) : d = c := by
  have hindex : d.keysById = c.keysById := by
    apply Std.ExtTreeMap.ext_getElem?
    intro id
    by_cases hid : id ∈ c.keysById
    · have hnames : d.keysById.namesOf id = c.keysById.namesOf id :=
        Std.ExtTreeSet.ext_mem fun key => h.mem_namesOf_iff
      rw [Std.ExtTreeMap.getElem?_eq_some_getD hid,
        Std.ExtTreeMap.getElem?_eq_some_getD (h.mem_keysById_iff.2 hid)]
      exact congrArg some hnames
    · have hid' : id ∉ d.keysById := mt h.mem_keysById_iff.1 hid
      simp [hid, hid']
  have hkeys : d.keys = c.keys := h.keys.eq_of_id
  obtain ⟨enabled, keys, keysById, groups⟩ := d
  obtain ⟨rfl, -, -, -, rfl⟩ := h
  simp only at hindex hkeys
  rw [hindex, hkeys]

lemma empty (ρ : KeyRenaming) (enabled : Bool) :
    (ResourceCache.empty enabled).Renamed ρ (.empty enabled) := by
  constructor <;> simp [ResourceCache.empty, KeyRenaming.Reindexes]

lemma id?_eq (h : c.Renamed ρ d) (key : String) : d.id? (ρ key) = c.id? key := by
  rw [id?, id?, h.enabled, h.keys key]

lemma group?_eq (h : c.Renamed ρ d) (id : String) : d.group? id = c.group? id := by
  rw [group?, group?, h.enabled, h.groups]

lemma save (h : c.Renamed ρ d) (key id : String) :
    (ResourceCache.save key id c).Renamed ρ (ResourceCache.save (ρ key) id d) := by
  rw [ResourceCache.save, ResourceCache.save, h.enabled]
  split
  · refine ⟨rfl, h.keys.insert key id, ?_, ?_, h.groups⟩
    · intro id'
      simp [ReverseIndex.add, h.mem_keysById_iff]
    · intro id' key'
      simp only [ReverseIndex.mem_namesOf_add, h.mem_namesOf_iff, KeyRenaming.rename_inj]
  · exact h

lemma remove (h : c.Renamed ρ d) (id : String) :
    (ResourceCache.remove id c).Renamed ρ (ResourceCache.remove id d) := by
  refine ⟨h.enabled, fun key => ?_, ?_, ?_, h.groups⟩
  · simp only [ResourceCache.remove, getElem?_foldl_erase, Std.ExtTreeSet.mem_toList,
      h.mem_namesOf_iff, h.keys key]
  · intro id'
    simp [ResourceCache.remove, h.mem_keysById_iff]
  · intro id' key
    simp only [ResourceCache.remove, ReverseIndex.mem_namesOf_erase, h.mem_namesOf_iff]

lemma saveGroup (h : c.Renamed ρ d) (id groupId : String) :
    (ResourceCache.saveGroup id groupId c).Renamed ρ (ResourceCache.saveGroup id groupId d) := by
  rw [ResourceCache.saveGroup, ResourceCache.saveGroup, h.enabled, h.groups]
  split
  · exact { h with groups := rfl, enabled := rfl }
  · exact h

lemma removeGroup (h : c.Renamed ρ d) (id : String) :
    (ResourceCache.removeGroup id c).Renamed ρ (ResourceCache.removeGroup id d) := by
  rw [ResourceCache.removeGroup, ResourceCache.removeGroup, h.groups]
  exact { h with groups := rfl }

end Renamed

end ResourceCache

namespace Caches

variable {ρ : KeyRenaming} {c d : Caches}

/-- The caches `d` are `c` with other keys of things. -/
structure Renamed (ρ : KeyRenaming) (c d : Caches) : Prop where
  /-- The things have other keys. -/
  things : Lookaside.Related (ResourceCache.Renamed ρ) c.things d.things
  /-- Nothing is different about profiles. -/
  profiles : d.profiles = c.profiles
  /-- Nothing is different about members. -/
  groups : d.groups = c.groups

namespace Renamed

protected lemma id (c : Caches) : c.Renamed KeyRenaming.id c := ⟨.refl .id c.things, rfl, rfl⟩

lemma eq_of_id (h : c.Renamed KeyRenaming.id d) : d = c := by
  obtain ⟨things, profiles, groups⟩ := c
  obtain ⟨things', profiles', groups'⟩ := d
  obtain ⟨hthings, rfl, rfl⟩ := h
  cases hthings with
  | memory hr => rw [hr.eq_of_id]
  | failing => rfl
  | unreadable => rfl

lemma inMemory (ρ : KeyRenaming) (enabled : Bool) :
    (Caches.inMemory enabled).Renamed ρ (.inMemory enabled) :=
  ⟨.memory (.empty ρ enabled), rfl, rfl⟩

end Renamed

end Caches

end DeviceFleet
