/-
# The name filter

A list can be asked for with a fragment of a name, and shows the records whose lower-cased names
contain the lower-cased fragment.  The fragment is lower-cased by itself and the name as a whole,
and the two differ in the capital sigmas that come last in a word of the one and not of the other.
Where they do not differ, every record is found by every fragment of its name.  A fragment that
cuts a word off after a sigma does not find it.
-/
import DeviceFleet.Proofs.Store.Listings
import DeviceFleet.Proofs.Text.LowerCase

namespace DeviceFleet

open Text

variable {before piece after : String}

/-! ## A name and a fragment of it -/

namespace Text

/-- A text contains a fragment, after both are lower-cased, if the fragment keeps its sigmas. -/
lemma contains_lower_append
    (h : KeepsSigmas before.toList.reverse after.toList piece.toList) :
    contains (lower (before ++ piece ++ after)) (lower piece) = true := by
  have hplace : lowerFrom [] (before.toList ++ (piece.toList ++ after.toList)) =
      lowerBetween [] (piece.toList ++ after.toList) before.toList ++
        (lowerFrom [] piece.toList ++
          lowerFrom (piece.toList.reverse ++ before.toList.reverse) after.toList) := by
    rw [lowerFrom_append, List.append_nil, lowerFrom_append, lowerBetween_eq_iff.2 h]
  rw [contains_iff, toList_lower, toList_lower, String.toList_append, String.toList_append,
    List.append_assoc, hplace]
  exact ⟨_, _, List.append_assoc _ _ _⟩

end Text

namespace PageRequest

/-- A name passes a fragment of it that keeps its sigmas. -/
lemma admits_append (h : KeepsSigmas before.toList.reverse after.toList piece.toList)
    (offset limit : Nat) :
    admits ⟨offset, limit, some piece⟩ (before ++ piece ++ after) = true :=
  contains_lower_append h

end PageRequest

/-! ## A record and a fragment of its name -/

namespace Listing

variable {kind : EntityKind} {q : Listing kind} {s : Store} {a : kind.Record}

/-- What is in the whole list is on one of the pages. -/
lemma exists_page_of_mem {filter : Option String} (h : a ∈ q.whole s filter) {limit : Nat}
    (hlimit : 0 < limit) :
    ∃ offset page, limit ∣ offset ∧ offset < page.total ∧
      ((q.command ⟨offset, limit, filter⟩).run s).1 = .ok (kind.pageAnswer page) ∧
      a ∈ page.items := by
  have hpages := flatMap_multiplesBelow hlimit (le_refl (q.whole s filter).length)
  rw [← hpages, List.mem_flatMap] at h
  obtain ⟨offset, hoffset, hmem⟩ := h
  rw [mem_multiplesBelow_iff] at hoffset
  exact ⟨offset, _, hoffset.1, hoffset.2, run_command_eq_ok_iff.2 rfl, hmem⟩

/-- **A fragment of a name finds it, unless a sigma changes its form.**  A name passes every
fragment of it whose capital sigmas have the same form in the fragment by itself as in the name.
So every record that such a fragment is taken from the name of is shown by every listing that it
is in the scope of, on one of the pages of any length. -/
theorem fragment_finds
    (h : KeepsSigmas before.toList.reverse after.toList piece.toList) :
    (∀ offset limit,
      PageRequest.admits ⟨offset, limit, some piece⟩ (before ++ piece ++ after) = true) ∧
    ∀ (kind : EntityKind) (q : Listing kind) (s : Store) (a : kind.Record),
      a ∈ kind.records s → q.scope a = true → kind.name? a = some (before ++ piece ++ after) →
      ∀ limit, 0 < limit → ∃ offset page, limit ∣ offset ∧ offset < page.total ∧
        ((q.command ⟨offset, limit, some piece⟩).run s).1 = .ok (kind.pageAnswer page) ∧
        a ∈ page.items := by
  refine ⟨PageRequest.admits_append h, ?_⟩
  intro kind q s a hstored hscope hname limit hlimit
  have hpasses : kind.passes (some piece) a = true := by
    rw [EntityKind.passes, hname, Option.all_some]
    exact PageRequest.admits_append h 0 0
  exact exists_page_of_mem (mem_whole_iff.2 ⟨hstored, hscope, hpasses⟩) hlimit

/-- A thing whose name is one word with sigmas inside and at the end. -/
def odysseus : Thing := ⟨"t1", "g1", "p1", "ΟΔΥΣΣΕΥΣ", "k1", ∅⟩

/-- It is found by a fragment that has its sigmas inside. -/
theorem inner_fragment_finds :
    let s := (∅ : Store).after [.saveThings [odysseus]]
    KeepsSigmas "Ο".toList.reverse "ΥΣ".toList "ΔΥΣΣΕ".toList ∧
      PageRequest.admits ⟨0, 10, some "ΔΥΣΣΕ"⟩ odysseus.name = true ∧
      ∃ offset page, 10 ∣ offset ∧ offset < page.total ∧
        ((Listing.things.command ⟨offset, 10, some "ΔΥΣΣΕ"⟩).run s).1 = .ok (.thingPage page) ∧
        odysseus ∈ page.items := by
  intro s
  have hkeeps : KeepsSigmas "Ο".toList.reverse "ΥΣ".toList "ΔΥΣΣΕ".toList :=
    lowerBetween_eq_iff.1 (by decide +kernel)
  have hname : odysseus.name = "Ο" ++ "ΔΥΣΣΕ" ++ "ΥΣ" := by decide +kernel
  have hstored : odysseus ∈ EntityKind.thing.records s := by decide +kernel
  obtain ⟨hadmits, hlists⟩ := fragment_finds hkeeps
  rw [hname]
  exact ⟨hkeeps, hadmits 0 10,
    hlists .thing .things s odysseus hstored rfl (congrArg some hname) 10 (by decide)⟩

/-- It is not found by a fragment that cuts the word off after a sigma. -/
theorem cut_fragment_misses :
    let s := (∅ : Store).after [.saveThings [odysseus]]
    "ΟΔΥΣ".toList <:+: odysseus.name.toList ∧
      PageRequest.admits ⟨0, 10, some "ΟΔΥΣ"⟩ odysseus.name = false ∧
      odysseus ∈ EntityKind.thing.records s ∧
      ((Listing.things.command ⟨0, 10, some "ΟΔΥΣ"⟩).run s).1 =
        .ok (.thingPage ⟨[], 0, 0, 10⟩) := by
  decide +kernel

end Listing

end DeviceFleet
