/-
# Histories of a cache of resources

A cache of resources takes requests one after the other, in any order; keys may be saved again for
other resources.  What it then finds for a key was saved last and has not been dropped since, and
what was saved last is found as long as nothing is dropped that the key was ever saved for.

The reverse index is not exact here, since saving a key again leaves it in the set that it was in
before.  But it has every key that is remembered, which is why dropping a set drops enough, and
only keys that were saved for the resource at some time, which is why it does not drop too much.
-/
import DeviceFleet.Cache.Command
import DeviceFleet.Proofs.Cache.Resource
import DeviceFleet.Proofs.Cache.Standing

namespace DeviceFleet.ResourceCache

variable {c : ResourceCache} {requests : List Command} {key id groupId : String}

/-! ## Requests -/

namespace Command

/-- The requests that drop or replace what a key was saved for. -/
inductive Drops (key id : String) : Command → Prop where
  /-- The key is saved again. -/
  | save (id' : String) : Drops key id (.save key id')
  /-- The keys of the resource are forgotten. -/
  | remove : Drops key id (.remove id)

/-- The requests that drop or replace the group of a resource. -/
inductive DropsGroup (id : String) : Command → Prop where
  /-- A group is saved again. -/
  | saveGroup (groupId : String) : DropsGroup id (.saveGroup id groupId)
  /-- The group is forgotten. -/
  | removeGroup : DropsGroup id (.removeGroup id)

/-- The requests that drop or replace what a key was saved for at any time. -/
def DropsAny (requests : List Command) (key : String) (c : Command) : Prop :=
  ∃ id, .save key id ∈ requests ∧ Drops key id c

/-- What a request makes of a cache in memory. -/
def effect : Command → ResourceCache → ResourceCache
  | .find _, c => c
  | .save key id, c => c.save key id
  | .remove id, c => c.remove id
  | .findGroup _, c => c
  | .saveGroup id groupId, c => c.saveGroup id groupId
  | .removeGroup id, c => c.removeGroup id

lemma drops_save_iff {key' id' : String} : Drops key id (.save key' id') ↔ key' = key :=
  ⟨fun h => by cases h; rfl, fun h => h ▸ .save id'⟩

lemma drops_remove_iff {id' : String} : Drops key id (.remove id') ↔ id' = id :=
  ⟨fun h => by cases h; rfl, fun h => h ▸ .remove⟩

lemma dropsGroup_saveGroup_iff {id' : String} :
    DropsGroup id (.saveGroup id' groupId) ↔ id' = id :=
  ⟨fun h => by cases h; rfl, fun h => h ▸ .saveGroup groupId⟩

lemma dropsGroup_removeGroup_iff {id' : String} : DropsGroup id (.removeGroup id') ↔ id' = id :=
  ⟨fun h => by cases h; rfl, fun h => h ▸ .removeGroup⟩

lemma DropsAny.concat {y r : Command} (h : DropsAny requests key y) :
    DropsAny (requests ++ [r]) key y := by
  obtain ⟨id, hmem, hdrops⟩ := h
  exact ⟨id, List.mem_append_left _ hmem, hdrops⟩

end Command

open Command

/-- What a cache that is turned on remembers is what the requests have left. -/
structure Traces (c : ResourceCache) (requests : List Command) : Prop where
  /-- The cache is turned on. -/
  enabled : c.enabled = true
  /-- What is remembered for a key was saved last and not dropped since. -/
  keys : ∀ {key id : String}, c.keys[key]? = some id → Standing (.save key id) (Drops key id) requests
  /-- What was saved last for a key is remembered, if nothing was dropped that it was saved for. -/
  kept : ∀ {key id : String}, Standing (.save key id) (DropsAny requests key) requests →
    c.keys[key]? = some id
  /-- A key that is remembered for a resource is in its set. -/
  indexed : ∀ {key id : String}, c.keys[key]? = some id → key ∈ c.keysById.namesOf id
  /-- A key in the set of a resource was saved for it. -/
  saved : ∀ {key id : String}, key ∈ c.keysById.namesOf id → .save key id ∈ requests
  /-- The group that was saved last and not dropped since is remembered. -/
  groups : ∀ {id groupId : String},
    c.groups[id]? = some groupId ↔ Standing (.saveGroup id groupId) (DropsGroup id) requests

namespace Traces

lemma empty : (empty true).Traces [] where
  enabled := rfl
  keys h := by simp [ResourceCache.empty] at h
  kept h := absurd h not_standing_nil
  indexed h := by simp [ResourceCache.empty] at h
  saved h := absurd h ReverseIndex.not_mem_namesOf_empty
  groups := by simp [ResourceCache.empty, not_standing_nil]

/-- A request that neither saves nor drops the keys. -/
lemma keys_concat (h : c.Traces requests) {r : Command} (hr : ∀ key id, ¬ Drops key id r)
    (hkey : c.keys[key]? = some id) : Standing (.save key id) (Drops key id) (requests ++ [r]) :=
  standing_concat_iff.2 (.inr ⟨h.keys hkey, hr key id⟩)

lemma kept_concat (h : c.Traces requests) {r : Command} (hr : ∀ key id, ¬ Drops key id r)
    (hstands : Standing (.save key id) (DropsAny (requests ++ [r]) key) (requests ++ [r])) :
    c.keys[key]? = some id := by
  rcases standing_concat_iff.1 hstands with rfl | ⟨hstands, -⟩
  · exact absurd (.save id) (hr key id)
  · exact h.kept (hstands.mono fun _ => .concat)

lemma groups_concat (h : c.Traces requests) {r : Command} (hr : ∀ id, ¬ DropsGroup id r) :
    c.groups[id]? = some groupId ↔
      Standing (.saveGroup id groupId) (DropsGroup id) (requests ++ [r]) := by
  rw [standing_concat_iff, h.groups]
  constructor
  · exact fun hstands => .inr ⟨hstands, hr id⟩
  · rintro (rfl | ⟨hstands, -⟩)
    · exact absurd (.saveGroup groupId) (hr id)
    · exact hstands

/-- A look-up drops nothing. -/
lemma look (h : c.Traces requests) {r : Command} (hkeys : ∀ key id, ¬ Drops key id r)
    (hgroups : ∀ id, ¬ DropsGroup id r) : c.Traces (requests ++ [r]) where
  enabled := h.enabled
  keys := h.keys_concat hkeys
  kept := h.kept_concat hkeys
  indexed := h.indexed
  saved hmem := List.mem_append_left _ (h.saved hmem)
  groups := h.groups_concat hgroups

lemma save (h : c.Traces requests) (key id : String) :
    (c.save key id).Traces (requests ++ [.save key id]) := by
  have hkeys : ∀ key' : String, (c.save key id).keys[key']? =
      if key = key' then some id else c.keys[key']? := getElem?_keys_save h.enabled
  have hindex : ∀ {key' id' : String}, key' ∈ (c.save key id).keysById.namesOf id' ↔
      id' = id ∧ key' = key ∨ key' ∈ c.keysById.namesOf id' := by
    simp [ResourceCache.save, h.enabled, ReverseIndex.mem_namesOf_add]
  refine ⟨by simp [ResourceCache.save, h.enabled], ?_, ?_, ?_, ?_, ?_⟩
  · intro key' id' hkey
    rw [hkeys] at hkey
    rw [standing_concat_iff, drops_save_iff]
    split at hkey
    · rename_i heq
      obtain rfl := Option.some.inj hkey
      exact .inl (by rw [heq])
    · rename_i hne
      exact .inr ⟨h.keys hkey, hne⟩
  · intro key' id' hstands
    rw [hkeys]
    rcases standing_concat_iff.1 hstands with heq | ⟨hstands, hnot⟩
    · obtain ⟨rfl, rfl⟩ := Command.save.inj heq
      rw [if_pos rfl]
    · -- the key saved last is another one, since it was saved for something before
      have hne : key ≠ key' := by
        rintro rfl
        exact hnot ⟨id, by simp, .save id⟩
      rw [if_neg hne]
      exact h.kept (hstands.mono fun _ => .concat)
  · intro key' id' hkey
    rw [hkeys] at hkey
    rw [hindex]
    split at hkey
    · rename_i heq
      exact .inl ⟨(Option.some.inj hkey).symm, heq.symm⟩
    · exact .inr (h.indexed hkey)
  · intro key' id' hmem
    rcases hindex.1 hmem with ⟨rfl, rfl⟩ | hmem
    · simp
    · exact List.mem_append_left _ (h.saved hmem)
  · have hgroups : (c.save key id).groups = c.groups := by simp [ResourceCache.save, h.enabled]
    intro id' groupId
    rw [hgroups]
    exact h.groups_concat (fun _ hdrops => by cases hdrops)

lemma remove (h : c.Traces requests) (id : String) :
    (c.remove id).Traces (requests ++ [.remove id]) := by
  refine ⟨h.enabled, ?_, ?_, ?_, ?_, ?_⟩
  · intro key id' hkey
    rw [getElem?_keys_remove, Option.ite_none_left_eq_some] at hkey
    obtain ⟨hnot, hkey⟩ := hkey
    refine standing_concat_iff.2 (.inr ⟨h.keys hkey, ?_⟩)
    -- a key that is remembered for the resource is in its set, and so it is dropped
    rw [drops_remove_iff]
    rintro rfl
    exact hnot (h.indexed hkey)
  · intro key id' hstands
    rcases standing_concat_iff.1 hstands with heq | ⟨hstands, hnot⟩
    · cases heq
    · rw [getElem?_keys_remove, Option.ite_none_left_eq_some]
      exact ⟨fun hmem => hnot ⟨id, by simp [h.saved hmem], .remove⟩,
        h.kept (hstands.mono fun _ => .concat)⟩
  · intro key id' hkey
    rw [getElem?_keys_remove, Option.ite_none_left_eq_some] at hkey
    obtain ⟨hnot, hkey⟩ := hkey
    refine ReverseIndex.mem_namesOf_erase.2 ⟨?_, h.indexed hkey⟩
    rintro rfl
    exact hnot (h.indexed hkey)
  · intro key id' hmem
    exact List.mem_append_left _ (h.saved (ReverseIndex.mem_namesOf_erase.1 hmem).2)
  · exact h.groups_concat fun _ hdrops => by cases hdrops

lemma saveGroup (h : c.Traces requests) (id groupId : String) :
    (c.saveGroup id groupId).Traces (requests ++ [.saveGroup id groupId]) := by
  have hnot : ∀ key id', ¬ Drops key id' (.saveGroup id groupId) := fun _ _ hdrops => by cases hdrops
  have hrest : (c.saveGroup id groupId).keys = c.keys ∧
      (c.saveGroup id groupId).keysById = c.keysById := by
    simp [ResourceCache.saveGroup, h.enabled]
  refine ⟨by simp [ResourceCache.saveGroup, h.enabled], ?_, ?_, ?_, ?_, ?_⟩
  · rw [hrest.1]
    exact h.keys_concat hnot
  · rw [hrest.1]
    exact h.kept_concat hnot
  · rw [hrest.1, hrest.2]
    exact h.indexed
  · rw [hrest.2]
    exact fun hmem => List.mem_append_left _ (h.saved hmem)
  · intro id' groupId'
    rw [getElem?_groups_saveGroup h.enabled, standing_concat_iff, dropsGroup_saveGroup_iff,
      ← h.groups]
    by_cases hid : id = id'
    · simp [hid]
    · simp [hid]

lemma removeGroup (h : c.Traces requests) (id : String) :
    (c.removeGroup id).Traces (requests ++ [.removeGroup id]) := by
  have hnot : ∀ key id', ¬ Drops key id' (.removeGroup id) := fun _ _ hdrops => by cases hdrops
  refine ⟨h.enabled, h.keys_concat hnot, h.kept_concat hnot, h.indexed,
    fun hmem => List.mem_append_left _ (h.saved hmem), ?_⟩
  intro id' groupId
  rw [getElem?_groups_removeGroup, standing_concat_iff, dropsGroup_removeGroup_iff, ← h.groups,
    Option.ite_none_left_eq_some, and_comm]
  simp

/-- One more request, whichever it is. -/
lemma effect (h : c.Traces requests) (r : Command) : (r.effect c).Traces (requests ++ [r]) := by
  cases r with
  | save key id => exact h.save key id
  | remove id => exact h.remove id
  | saveGroup id groupId => exact h.saveGroup id groupId
  | removeGroup id => exact h.removeGroup id
  | find key | findGroup id =>
    exact h.look (fun _ _ hdrops => by cases hdrops) fun _ hdrops => by cases hdrops

end Traces

/-! ## What a cache of resources answers -/

/-- What a cache in memory that was empty remembers after requests. -/
def recalled (enabled : Bool) (requests : List Command) : ResourceCache :=
  requests.foldl (fun c r => r.effect c) (empty enabled)

/-- What a cache in memory that was empty answers to a request after others. -/
def reply (kind : CacheKind) (enabled : Bool) (requests : List Command) (r : Command) :
    Except CacheError (Option String) :=
  (r.run kind (requests.foldl (fun cache r => (r.run kind cache).cache)
    (.memory (empty enabled)))).answer

lemma foldl_run (kind : CacheKind) (c : ResourceCache) (requests : List Command) :
    requests.foldl (fun cache r => (r.run kind cache).cache) (.memory c) =
      .memory (requests.foldl (fun c r => r.effect c) c) := by
  induction requests generalizing c with
  | nil => rfl
  | cons r requests ih =>
    have hrun : (r.run kind (.memory c)).cache = .memory (r.effect c) := by cases r <;> rfl
    rw [List.foldl_cons, List.foldl_cons, hrun, ih]

lemma reply_find (kind : CacheKind) (enabled : Bool) (requests : List Command) (key : String) :
    reply kind enabled requests (.find key) = .ok ((recalled enabled requests).id? key) := by
  rw [reply, foldl_run]
  rfl

lemma reply_findGroup (kind : CacheKind) (enabled : Bool) (requests : List Command) (id : String) :
    reply kind enabled requests (.findGroup id) = .ok ((recalled enabled requests).group? id) := by
  rw [reply, foldl_run]
  rfl

lemma recalled_concat (enabled : Bool) (requests : List Command) (r : Command) :
    recalled enabled (requests ++ [r]) = r.effect (recalled enabled requests) := by
  rw [recalled, List.foldl_append]
  rfl

/-- What is remembered after any history is what the history has left. -/
lemma traces_recalled (requests : List Command) : (recalled true requests).Traces requests := by
  induction requests using List.reverseRecOn with
  | nil => exact .empty
  | append_singleton requests r ih =>
    rw [recalled_concat]
    exact ih.effect r

lemma reply_find_on (kind : CacheKind) (requests : List Command) (key : String) :
    reply kind true requests (.find key) = .ok (recalled true requests).keys[key]? := by
  rw [reply_find, id?, if_pos (traces_recalled requests).enabled]

lemma reply_findGroup_on (kind : CacheKind) (requests : List Command) (id : String) :
    reply kind true requests (.findGroup id) = .ok (recalled true requests).groups[id]? := by
  rw [reply_findGroup, group?, if_pos (traces_recalled requests).enabled]

/-- To forget a resource makes no difference to a key that was never saved for it. -/
lemma reply_find_remove (kind : CacheKind) (h : .save key id ∉ requests) :
    reply kind true (requests ++ [.remove id]) (.find key) =
      reply kind true requests (.find key) := by
  have hnot : key ∉ (recalled true requests).keysById.namesOf id :=
    fun hmem => h ((traces_recalled requests).saved hmem)
  rw [reply_find_on, reply_find_on, recalled_concat, Command.effect, getElem?_keys_remove,
    if_neg hnot]

/-- A cache that is turned off stays as it is. -/
lemma recalled_off (requests : List Command) : recalled false requests = empty false := by
  induction requests using List.reverseRecOn with
  | nil => rfl
  | append_singleton requests r ih =>
    rw [recalled_concat, ih]
    cases r with
    | remove id => exact remove_empty id false
    | removeGroup id => exact removeGroup_empty id false
    | _ => rfl

end DeviceFleet.ResourceCache
