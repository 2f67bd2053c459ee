/-
# Histories of the cache of members

The cache of members takes requests one after the other, in any order; members may be saved again
with other lists.  As for resources, what it finds was saved last and has not been dropped since,
and forgetting a group touches only members that were saved with it at some time.  The members of
a group are forgotten one by one, and each takes itself out of the sets of its other groups; what
this does to the index is known of the whole loop.
-/
import DeviceFleet.Cache.Command
import DeviceFleet.Proofs.Cache.Member
import DeviceFleet.Proofs.Cache.Standing

namespace DeviceFleet.MemberCache

variable {c : MemberCache} {requests : List Command} {memberId : String} {groupIds : List String}

/-! ## Requests -/

namespace Command

/-- The requests that drop or replace the list that a member was saved with. -/
inductive Drops (memberId : String) (groupIds : List String) : Command → Prop where
  /-- The member is saved again. -/
  | save (groupIds' : List String) : Drops memberId groupIds (.save memberId groupIds')
  /-- The member is forgotten. -/
  | remove : Drops memberId groupIds (.remove memberId)
  /-- The members of a group of the list are forgotten. -/
  | removeGroup {groupId : String} (mem : groupId ∈ groupIds) :
      Drops memberId groupIds (.removeGroup groupId)

/-- The requests that drop or replace a list that a member was saved with at any time. -/
def DropsAny (requests : List Command) (memberId : String) (c : Command) : Prop :=
  ∃ groupIds, .save memberId groupIds ∈ requests ∧ Drops memberId groupIds c

/-- What a request makes of a cache in memory. -/
def effect : Command → MemberCache → MemberCache
  | .find _, c => c
  | .save memberId groupIds, c => c.save memberId groupIds
  | .remove memberId, c => c.remove memberId
  | .removeGroup groupId, c => c.removeGroup groupId

lemma drops_save_iff {m : String} {gs : List String} :
    Drops memberId groupIds (.save m gs) ↔ m = memberId :=
  ⟨fun h => by cases h; rfl, fun h => h ▸ .save gs⟩

lemma drops_remove_iff {m : String} : Drops memberId groupIds (.remove m) ↔ m = memberId :=
  ⟨fun h => by cases h; rfl, fun h => h ▸ .remove⟩

lemma drops_removeGroup_iff {g : String} :
    Drops memberId groupIds (.removeGroup g) ↔ g ∈ groupIds :=
  ⟨fun h => by cases h; assumption, .removeGroup⟩

lemma DropsAny.concat {y r : Command} (h : DropsAny requests memberId y) :
    DropsAny (requests ++ [r]) memberId y := by
  obtain ⟨gs, hmem, hdrops⟩ := h
  exact ⟨gs, List.mem_append_left _ hmem, hdrops⟩

end Command

open Command

/-- What a cache that is turned on remembers is what the requests have left. -/
structure Traces (c : MemberCache) (requests : List Command) : Prop where
  /-- The cache is turned on. -/
  enabled : c.enabled = true
  /-- What is remembered for a member was saved last and not dropped since. -/
  members : ∀ {m : String} {gs : List String}, c.members[m]? = some gs →
    Standing (.save m gs) (Drops m gs) requests
  /-- What was saved last for a member is remembered, if nothing was dropped that it was saved
  with. -/
  kept : ∀ {m : String} {gs : List String}, Standing (.save m gs) (DropsAny requests m) requests →
    c.members[m]? = some gs
  /-- A member is in the sets of the groups that it is remembered with. -/
  indexed : ∀ {m : String} {gs : List String}, c.members[m]? = some gs →
    ∀ g ∈ gs, m ∈ c.membersByGroup.namesOf g
  /-- A member in the set of a group was saved with it. -/
  saved : ∀ {m g : String}, m ∈ c.membersByGroup.namesOf g →
    ∃ gs, .save m gs ∈ requests ∧ g ∈ gs

namespace Traces

lemma empty : (empty true).Traces [] where
  enabled := rfl
  members h := by simp [MemberCache.empty] at h
  kept h := absurd h not_standing_nil
  indexed h := by simp [MemberCache.empty] at h
  saved h := absurd h ReverseIndex.not_mem_namesOf_empty

/-- What was saved before still was after one more request. -/
lemma saved_concat (h : c.Traces requests) (r : Command) {m g : String}
    (hmem : m ∈ c.membersByGroup.namesOf g) : ∃ gs, .save m gs ∈ requests ++ [r] ∧ g ∈ gs := by
  obtain ⟨gs, hgs, hg⟩ := h.saved hmem
  exact ⟨gs, List.mem_append_left _ hgs, hg⟩

/-- A look-up drops nothing. -/
lemma look (h : c.Traces requests) (memberId : String) : c.Traces (requests ++ [.find memberId]) where
  enabled := h.enabled
  members hgs := standing_concat_iff.2 (.inr ⟨h.members hgs, fun hdrops => by cases hdrops⟩)
  kept hstands := by
    rcases standing_concat_iff.1 hstands with heq | ⟨hstands, -⟩
    · cases heq
    · exact h.kept (hstands.mono fun _ => .concat)
  indexed := h.indexed
  saved hmem := h.saved_concat _ hmem

lemma save (h : c.Traces requests) (memberId : String) (groupIds : List String) :
    (c.save memberId groupIds).Traces (requests ++ [.save memberId groupIds]) := by
  have hmembers : ∀ m : String, (c.save memberId groupIds).members[m]? =
      if memberId = m then some groupIds else c.members[m]? := getElem?_members_save h.enabled
  have hindex : ∀ {m g : String}, m ∈ (c.save memberId groupIds).membersByGroup.namesOf g ↔
      g ∈ groupIds ∧ m = memberId ∨ m ∈ c.membersByGroup.namesOf g := by
    intro m g
    rw [MemberCache.save, if_pos h.enabled]
    exact ReverseIndex.mem_namesOf_foldl_add groupIds
  refine ⟨by simp [MemberCache.save, h.enabled], ?_, ?_, ?_, ?_⟩
  · intro m gs hgs
    rw [hmembers] at hgs
    rw [standing_concat_iff, drops_save_iff]
    split at hgs
    · rename_i heq
      obtain rfl := Option.some.inj hgs
      exact .inl (by rw [heq])
    · rename_i hne
      exact .inr ⟨h.members hgs, hne⟩
  · intro m gs hstands
    rw [hmembers]
    rcases standing_concat_iff.1 hstands with heq | ⟨hstands, hnot⟩
    · obtain ⟨rfl, rfl⟩ := Command.save.inj heq
      rw [if_pos rfl]
    · -- another member was saved, since this one was saved with something before
      have hne : memberId ≠ m := by
        rintro rfl
        exact hnot ⟨groupIds, by simp, .save groupIds⟩
      rw [if_neg hne]
      exact h.kept (hstands.mono fun _ => .concat)
  · intro m gs hgs g hg
    rw [hmembers] at hgs
    rw [hindex]
    split at hgs
    · rename_i heq
      obtain rfl := Option.some.inj hgs
      exact .inl ⟨hg, heq.symm⟩
    · exact .inr (h.indexed hgs g hg)
  · intro m g hmem
    rcases hindex.1 hmem with ⟨hg, rfl⟩ | hmem
    · exact ⟨groupIds, by simp, hg⟩
    · exact h.saved_concat _ hmem

lemma remove (h : c.Traces requests) (memberId : String) :
    (c.remove memberId).Traces (requests ++ [.remove memberId]) := by
  have hmembers : ∀ {m : String} {gs : List String},
      (c.remove memberId).members[m]? = some gs ↔ memberId ≠ m ∧ c.members[m]? = some gs := by
    simp [getElem?_members_remove]
  refine ⟨?_, ?_, ?_, ?_, ?_⟩
  · rw [← h.enabled, MemberCache.remove]
    split <;> rfl
  · intro m gs hgs
    obtain ⟨hne, hgs⟩ := hmembers.1 hgs
    exact standing_concat_iff.2 (.inr ⟨h.members hgs, by rwa [drops_remove_iff]⟩)
  · intro m gs hstands
    rcases standing_concat_iff.1 hstands with heq | ⟨hstands, hnot⟩
    · cases heq
    · have hgs := h.kept (hstands.mono fun _ => .concat)
      refine hmembers.2 ⟨?_, hgs⟩
      rintro rfl
      obtain ⟨before, later, rfl, -⟩ := h.members hgs
      exact hnot ⟨gs, by simp, .remove⟩
  · intro m gs hgs g hg
    obtain ⟨hne, hgs⟩ := hmembers.1 hgs
    exact mem_membersOf_remove.2 ⟨h.indexed hgs g hg, fun heq => hne heq.1.symm⟩
  · intro m g hmem
    exact h.saved_concat _ (mem_membersOf_remove.1 hmem).1

/-- The members in the set of the group are forgotten.  These are all that are remembered with it,
and only such as were saved with it once. -/
lemma removeGroup (h : c.Traces requests) (groupId : String) :
    (c.removeGroup groupId).Traces (requests ++ [.removeGroup groupId]) := by
  have hmembers : ∀ {m : String} {gs : List String}, (c.removeGroup groupId).members[m]? = some gs ↔
      m ∉ c.membersByGroup.namesOf groupId ∧ c.members[m]? = some gs := by
    simp [MemberCache.removeGroup, getElem?_members_foldl_remove, Std.ExtTreeSet.mem_toList]
  have hindex : ∀ {m g : String}, m ∈ (c.removeGroup groupId).membersByGroup.namesOf g ↔
      (g ≠ groupId ∧ m ∈ c.membersByGroup.namesOf g) ∧
        ¬ (m ∈ c.membersByGroup.namesOf groupId ∧ ∃ gs, c.members[m]? = some gs ∧ g ∈ gs) := by
    simp only [MemberCache.removeGroup, mem_membersOf_foldl_remove, Std.ExtTreeSet.mem_toList,
      ReverseIndex.mem_namesOf_erase, implies_true]
  refine ⟨?_, ?_, ?_, ?_, ?_⟩
  · rw [MemberCache.removeGroup]
    refine List.foldlRecOn (motive := fun c : MemberCache => c.enabled = true) _ _ h.enabled ?_
    intro c hc m _
    rw [← hc, MemberCache.remove]
    split <;> rfl
  · intro m gs hgs
    obtain ⟨hnot, hgs⟩ := hmembers.1 hgs
    refine standing_concat_iff.2 (.inr ⟨h.members hgs, ?_⟩)
    rw [drops_removeGroup_iff]
    exact fun hg => hnot (h.indexed hgs groupId hg)
  · intro m gs hstands
    rcases standing_concat_iff.1 hstands with heq | ⟨hstands, hnot⟩
    · cases heq
    · refine hmembers.2 ⟨fun hmem => ?_, h.kept (hstands.mono fun _ => .concat)⟩
      obtain ⟨gs', hsaved, hg⟩ := h.saved hmem
      exact hnot ⟨gs', List.mem_append_left _ hsaved, .removeGroup hg⟩
  · intro m gs hgs g hg
    obtain ⟨hnot, hgs⟩ := hmembers.1 hgs
    have hmem := h.indexed hgs g hg
    exact hindex.2 ⟨⟨fun heq => hnot (heq ▸ hmem), hmem⟩, fun hforgotten => hnot hforgotten.1⟩
  · intro m g hmem
    exact h.saved_concat _ (hindex.1 hmem).1.2

/-- One more request, whichever it is. -/
lemma effect (h : c.Traces requests) (r : Command) : (r.effect c).Traces (requests ++ [r]) := by
  cases r with
  | find memberId => exact h.look memberId
  | save memberId groupIds => exact h.save memberId groupIds
  | remove memberId => exact h.remove memberId
  | removeGroup groupId => exact h.removeGroup groupId

end Traces

/-! ## What the cache of members answers -/

/-- What a cache in memory that was empty remembers after requests. -/
def recalled (enabled : Bool) (requests : List Command) : MemberCache :=
  requests.foldl (fun c r => r.effect c) (empty enabled)

/-- What a cache in memory that was empty answers to a request after others. -/
def reply (enabled : Bool) (requests : List Command) (r : Command) :
    Except CacheError (Option (List String)) :=
  (r.run (requests.foldl (fun cache r => (r.run cache).cache) (.memory (empty enabled)))).answer

lemma foldl_run (c : MemberCache) (requests : List Command) :
    requests.foldl (fun cache r => (r.run cache).cache) (.memory c) =
      .memory (requests.foldl (fun c r => r.effect c) c) := by
  induction requests generalizing c with
  | nil => rfl
  | cons r requests ih =>
    have hrun : (r.run (.memory c)).cache = .memory (r.effect c) := by cases r <;> rfl
    rw [List.foldl_cons, List.foldl_cons, hrun, ih]

lemma reply_find (enabled : Bool) (requests : List Command) (memberId : String) :
    reply enabled requests (.find memberId) =
      .ok ((recalled enabled requests).groups? memberId) := by
  rw [reply, foldl_run]
  rfl

lemma recalled_concat (enabled : Bool) (requests : List Command) (r : Command) :
    recalled enabled (requests ++ [r]) = r.effect (recalled enabled requests) := by
  rw [recalled, List.foldl_append]
  rfl

/-- What is remembered after any history is what the history has left. -/
lemma traces_recalled (requests : List Command) : (recalled true requests).Traces requests := by
  induction requests using List.reverseRecOn with
  | nil => exact .empty
  | append_singleton requests r ih =>
    rw [recalled_concat]
    exact ih.effect r

lemma reply_find_on (requests : List Command) (memberId : String) :
    reply true requests (.find memberId) = .ok (recalled true requests).members[memberId]? := by
  rw [reply_find, groups?, if_pos (traces_recalled requests).enabled]

/-- To forget a group makes no difference to a member that was never saved with it. -/
lemma reply_find_removeGroup {groupId : String}
    (h : ∀ gs, .save memberId gs ∈ requests → groupId ∉ gs) :
    reply true (requests ++ [.removeGroup groupId]) (.find memberId) =
      reply true requests (.find memberId) := by
  have hnot : memberId ∉ (recalled true requests).membersByGroup.namesOf groupId := by
    intro hmem
    obtain ⟨gs, hsaved, hg⟩ := (traces_recalled requests).saved hmem
    exact h gs hsaved hg
  rw [reply_find_on, reply_find_on, recalled_concat, Command.effect, removeGroup,
    getElem?_members_foldl_remove, if_neg (by rwa [Std.ExtTreeSet.mem_toList])]

/-- A cache that is turned off stays as it is. -/
lemma recalled_off (requests : List Command) : recalled false requests = empty false := by
  induction requests using List.reverseRecOn with
  | nil => rfl
  | append_singleton requests r ih =>
    rw [recalled_concat, ih]
    cases r with
    | remove memberId => exact remove_empty memberId false
    | removeGroup groupId => exact removeGroup_empty groupId false
    | _ => rfl

end DeviceFleet.MemberCache
