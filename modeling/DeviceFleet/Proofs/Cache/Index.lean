/-
# Reverse indices

Which names are in the set of which target after a name was added or taken out, or a target was
dropped.  An index is trim when it keeps no empty set; every change leaves a trim index trim.
-/
import DeviceFleet.Cache.Index
import DeviceFleet.Proofs.Maps

namespace DeviceFleet.ReverseIndex

variable {index : ReverseIndex} {target target' name name' : String}

lemma mem_namesOf_iff :
    name ∈ index.namesOf target ↔ ∃ names, index[target]? = some names ∧ name ∈ names := by
  rw [namesOf, Std.ExtTreeMap.getD_eq_getD_getElem?]
  rcases index[target]? with _ | names <;> simp

@[simp] lemma not_mem_namesOf_empty : name ∉ (∅ : ReverseIndex).namesOf target := by
  simp [mem_namesOf_iff]

@[simp] lemma toList_namesOf_empty : ((∅ : ReverseIndex).namesOf target).toList = [] := by
  simp [namesOf, Std.ExtTreeSet.toList_eq_nil_iff]

lemma mem_namesOf_add :
    name' ∈ (index.add target name).namesOf target' ↔
      target' = target ∧ name' = name ∨ name' ∈ index.namesOf target' := by
  simp only [add, mem_namesOf_iff, Std.ExtTreeMap.getElem?_insert, Std.compare_eq_iff_eq]
  by_cases ht : target = target'
  · subst ht
    simp only [if_true, Option.some.injEq, exists_eq_left', Std.ExtTreeSet.mem_insert,
      Std.compare_eq_iff_eq, true_and]
    rw [← mem_namesOf_iff, eq_comm]
  · simp [ht, Ne.symm ht]

lemma mem_namesOf_erase :
    name ∈ namesOf (index.erase target) target' ↔
      target' ≠ target ∧ name ∈ index.namesOf target' := by
  simp only [mem_namesOf_iff, Std.ExtTreeMap.getElem?_erase, Std.compare_eq_iff_eq]
  by_cases ht : target = target'
  · simp [ht]
  · simp [ht, Ne.symm ht]

/-- That the set is dropped when it becomes empty makes no difference to what is in it. -/
lemma mem_namesOf_remove :
    name' ∈ (index.remove target name).namesOf target' ↔
      name' ∈ index.namesOf target' ∧ ¬ (target' = target ∧ name' = name) := by
  unfold remove
  rcases hs : index[target]? with _ | names
  · simp only [mem_namesOf_iff]
    constructor
    · rintro ⟨names, hn, hmem⟩
      refine ⟨⟨names, hn, hmem⟩, ?_⟩
      rintro ⟨rfl, -⟩
      simp [hs] at hn
    · exact fun h => h.1
  · simp only
    split
    · rename_i hempty
      rw [mem_namesOf_erase]
      -- the set is dropped because `name` was the only one in it
      have hnone : ∀ n, n ∉ names.erase name := by
        intro n
        rw [Std.ExtTreeSet.isEmpty_iff.1 hempty]
        exact Std.ExtTreeSet.not_mem_empty
      have honly : ∀ n, n ∈ names → n = name := by
        intro n hn
        by_contra hne
        exact hnone n (Std.ExtTreeSet.mem_erase.2 ⟨by simpa using Ne.symm hne, hn⟩)
      constructor
      · rintro ⟨ht, hmem⟩
        exact ⟨hmem, fun h => ht h.1⟩
      · rintro ⟨hmem, hne⟩
        refine ⟨?_, hmem⟩
        rintro rfl
        obtain ⟨names', hn, hmem'⟩ := mem_namesOf_iff.1 hmem
        obtain rfl := Option.some.inj (hs.symm.trans hn)
        exact hne ⟨rfl, honly _ hmem'⟩
    · simp only [mem_namesOf_iff, Std.ExtTreeMap.getElem?_insert, Std.compare_eq_iff_eq]
      by_cases ht : target = target'
      · subst ht
        simp only [if_true, hs, Option.some.injEq, exists_eq_left', Std.ExtTreeSet.mem_erase, ne_eq,
          Std.compare_eq_iff_eq, true_and]
        rw [and_comm, eq_comm (a := name)]
      · simp [ht, Ne.symm ht]

/-- One name added to the sets of several targets. -/
lemma mem_namesOf_foldl_add (targets : List String) :
    name' ∈ namesOf (targets.foldl (fun index t => index.add t name) index) target' ↔
      target' ∈ targets ∧ name' = name ∨ name' ∈ index.namesOf target' := by
  induction targets generalizing index with
  | nil => simp
  | cons t targets ih =>
    rw [List.foldl_cons, ih, mem_namesOf_add, List.mem_cons]
    tauto

/-- One name taken out of the sets of several targets. -/
lemma mem_namesOf_foldl_remove (targets : List String) :
    name' ∈ namesOf (targets.foldl (fun index t => index.remove t name) index) target' ↔
      name' ∈ index.namesOf target' ∧ ¬ (target' ∈ targets ∧ name' = name) := by
  induction targets generalizing index with
  | nil => simp
  | cons t targets ih =>
    rw [List.foldl_cons, ih, mem_namesOf_remove, List.mem_cons]
    tauto

/-! ## Trim indices -/

/-- The index keeps no empty set. -/
def Trim (index : ReverseIndex) : Prop :=
  ∀ (target : String) (names : Std.ExtTreeSet String), index[target]? = some names → names ≠ ∅

lemma trim_empty : (∅ : ReverseIndex).Trim := by
  intro target names hnames
  simp at hnames

namespace Trim

/-- Only an index without sets has nothing in its sets. -/
lemma eq_empty (h : index.Trim) (hnone : ∀ target name, name ∉ index.namesOf target) :
    index = ∅ := by
  apply eq_of_getElem?_iff
  intro target names
  simp only [Std.ExtTreeMap.getElem?_empty, reduceCtorEq, iff_false]
  intro hnames
  refine h target names hnames (Std.ExtTreeSet.eq_empty_iff_forall_not_mem.2 fun name hmem => ?_)
  exact hnone target name (mem_namesOf_iff.2 ⟨names, hnames, hmem⟩)

lemma insert (h : index.Trim) {names : Std.ExtTreeSet String} (hne : names ≠ ∅) (target : String) :
    Trim (index.insert target names) := by
  intro target' names' hnames
  rcases eq_or_of_getElem?_insert hnames with rfl | hold
  · exact hne
  · exact h target' names' hold

lemma erase (h : index.Trim) (target : String) : Trim (index.erase target) := by
  intro target' names hnames
  rw [Std.ExtTreeMap.getElem?_erase] at hnames
  split at hnames
  · simp at hnames
  · exact h target' names hnames

lemma add (h : index.Trim) (target name : String) : (index.add target name).Trim :=
  h.insert (Std.ExtTreeSet.insert_ne_empty) target

lemma remove (h : index.Trim) (target name : String) : (index.remove target name).Trim := by
  unfold ReverseIndex.remove
  split
  · exact h
  · simp only
    split
    · exact h.erase target
    · rename_i hne
      refine h.insert (fun hempty => hne ?_) target
      exact Std.ExtTreeSet.isEmpty_iff.2 hempty

lemma foldl_add (h : index.Trim) (targets : List String) (name : String) :
    Trim (targets.foldl (fun index t => index.add t name) index) :=
  List.foldlRecOn targets _ h fun _ hi t _ => hi.add t name

lemma foldl_remove (h : index.Trim) (targets : List String) (name : String) :
    Trim (targets.foldl (fun index t => index.remove t name) index) :=
  List.foldlRecOn targets _ h fun _ hi t _ => hi.remove t name

end Trim

end DeviceFleet.ReverseIndex
