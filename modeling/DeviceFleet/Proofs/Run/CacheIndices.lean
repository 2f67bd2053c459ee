/-
# The indices of the caches in use

A cache that is used in any order may keep names in its reverse index that it no longer holds.
The service looks something up before it remembers it, and it forgets by the index; so in every
reachable state the indices say exactly what the caches hold, and nothing of them is left over.
-/
import DeviceFleet.Proofs.Run.Step

namespace DeviceFleet.Service

variable {s : State}

/-- **The indices do not leak.**  In every reachable state a key is in the set of a thing exactly
when the cache holds the key for it, and a member is in the set of a group exactly when the cache
holds a list with the group for the member; no set is empty; and where a cache holds nothing that
its index is about, the index is empty.  Of profiles there are no keys at all. -/
theorem Reachable.indices_exact {enabled : Bool} (h : Reachable anyCall enabled s) :
    ∃ things profiles groups, s.caches = ⟨.memory things, .memory profiles, .memory groups⟩ ∧
      ((∀ key id : String, key ∈ things.keysById.namesOf id ↔ things.keys[key]? = some id) ∧
        things.keysById.Trim ∧ (things.keys = ∅ → things.keysById = ∅)) ∧
      ((∀ m g : String, m ∈ groups.membersByGroup.namesOf g ↔
          ∃ gs, groups.members[m]? = some gs ∧ g ∈ gs) ∧
        groups.membersByGroup.Trim ∧ (groups.members = ∅ → groups.membersByGroup = ∅)) ∧
      profiles.keys = ∅ ∧ profiles.keysById = ∅ := by
  obtain ⟨things, hthings, ht⟩ := h.coherent.mirrors.things
  obtain ⟨profiles, hprofiles, hp⟩ := h.coherent.mirrors.profiles
  obtain ⟨groups, hgroups, hg⟩ := h.coherent.mirrors.groups
  have hcaches : s.caches = ⟨.memory things, .memory profiles, .memory groups⟩ := by
    rw [← hthings, ← hprofiles, ← hgroups]
  -- a key of a profile would name what nothing names
  have hkeys : profiles.keys = ∅ :=
    eq_of_getElem?_iff fun {key id} => by
      simpa using fun hkey : profiles.keys[key]? = some id => hp.names_of hkey
  refine ⟨things, profiles, groups, hcaches, ?_, ?_, hkeys, hp.indexed.keysById_eq_empty hkeys⟩
  · exact ⟨ht.indexed.mem_iff, ht.indexed.trim, ht.indexed.keysById_eq_empty⟩
  · exact ⟨hg.indexed.mem_iff, hg.indexed.trim, hg.indexed.membersByGroup_eq_empty⟩

/-- The key of the sensor, which has made itself known, is in the set of the sensor. -/
theorem secret_indexed :
    ∃ things profiles groups,
      smallFleet.caches = ⟨.memory things, .memory profiles, .memory groups⟩ ∧
        "secret" ∈ things.keysById.namesOf "sensor" := by
  have hreach : Reachable anyCall true smallFleet := reachable_smallFleet fun _ _ _ => trivial
  obtain ⟨things, profiles, groups, hcaches, ⟨hexact, -, -⟩, -⟩ := Reachable.indices_exact hreach
  refine ⟨things, profiles, groups, hcaches, (hexact "secret" "sensor").2 ?_⟩
  have hread : smallFleet.caches.things.read (fun c => c.keys["secret"]?) =
      .ok (some "sensor") := by
    decide +kernel
  rw [hcaches] at hread
  exact Except.ok.inj hread

end DeviceFleet.Service
