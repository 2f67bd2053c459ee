/-
# Histories of the caches

What the caches in memory answer after any requests, in any order and with any names: never
anything that has been dropped or replaced.
-/
import DeviceFleet.Proofs.Cache.MemberHistory
import DeviceFleet.Proofs.Cache.ResourceHistory

namespace DeviceFleet

/-- **The caches never serve what was dropped.**  After any requests to a cache in memory that is
turned on, whatever is found was saved last and nothing that drops it was asked for since; for the
group of a resource that is all there is to it.  What was saved last is found if nothing was
dropped that the name was ever saved for, and to forget a resource or a group makes no difference
to names that were never saved for it.  A cache that is turned off finds nothing. -/
theorem found_stands (kind : CacheKind) :
    (∀ requests : List ResourceCache.Command,
      (∀ key id, ResourceCache.reply kind true requests (.find key) = .ok (some id) →
        Standing (.save key id) (ResourceCache.Command.Drops key id) requests) ∧
      (∀ key id, Standing (.save key id) (ResourceCache.Command.DropsAny requests key) requests →
        ResourceCache.reply kind true requests (.find key) = .ok (some id)) ∧
      (∀ key id, .save key id ∉ requests →
        ResourceCache.reply kind true (requests ++ [.remove id]) (.find key) =
          ResourceCache.reply kind true requests (.find key)) ∧
      (∀ id groupId, ResourceCache.reply kind true requests (.findGroup id) = .ok (some groupId) ↔
        Standing (.saveGroup id groupId) (ResourceCache.Command.DropsGroup id) requests) ∧
      (∀ key, ResourceCache.reply kind false requests (.find key) = .ok none) ∧
      ∀ id, ResourceCache.reply kind false requests (.findGroup id) = .ok none) ∧
    ∀ requests : List MemberCache.Command,
      (∀ m gs, MemberCache.reply true requests (.find m) = .ok (some gs) →
        Standing (.save m gs) (MemberCache.Command.Drops m gs) requests) ∧
      (∀ m gs, Standing (.save m gs) (MemberCache.Command.DropsAny requests m) requests →
        MemberCache.reply true requests (.find m) = .ok (some gs)) ∧
      (∀ m g, (∀ gs, .save m gs ∈ requests → g ∉ gs) →
        MemberCache.reply true (requests ++ [.removeGroup g]) (.find m) =
          MemberCache.reply true requests (.find m)) ∧
      ∀ m, MemberCache.reply false requests (.find m) = .ok none := by
  constructor
  · intro requests
    have htraces := ResourceCache.traces_recalled requests
    refine ⟨?_, ?_, ?_, ?_, ?_, ?_⟩
    · intro key id hfound
      rw [ResourceCache.reply_find_on] at hfound
      exact htraces.keys (Except.ok.inj hfound)
    · intro key id hstands
      rw [ResourceCache.reply_find_on, htraces.kept hstands]
    · exact fun _ _ hnot => ResourceCache.reply_find_remove kind hnot
    · intro id groupId
      rw [ResourceCache.reply_findGroup_on, Except.ok.injEq]
      exact htraces.groups
    · intro key
      rw [ResourceCache.reply_find, ResourceCache.recalled_off]
      rfl
    · intro id
      rw [ResourceCache.reply_findGroup, ResourceCache.recalled_off]
      rfl
  · intro requests
    have htraces := MemberCache.traces_recalled requests
    refine ⟨?_, ?_, ?_, ?_⟩
    · intro m gs hfound
      rw [MemberCache.reply_find_on] at hfound
      exact htraces.members (Except.ok.inj hfound)
    · intro m gs hstands
      rw [MemberCache.reply_find_on, htraces.kept hstands]
    · exact fun _ _ hnot => MemberCache.reply_find_removeGroup hnot
    · intro m
      rw [MemberCache.reply_find, MemberCache.recalled_off]
      rfl

/-- A key that was saved again goes with the resource that it was saved for before. -/
example : ResourceCache.reply .thing true
    [.save "key" "old", .save "key" "new", .remove "old"] (.find "key") = .ok none := by
  decide +kernel

end DeviceFleet
