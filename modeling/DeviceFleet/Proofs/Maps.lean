/-
# Finite maps

What the records and the caches of the service need to know about finite maps beyond the library:
taking out several values, and maps that grow by new entries only.
-/
import Mathlib.Tactic.Common
import Std.Data.ExtTreeMap

namespace DeviceFleet

/-- Changing a stored value is storing the changed value. -/
lemma modify_eq_insert {κ α : Type} [Ord κ] [Std.TransOrd κ] [Std.LawfulEqOrd κ]
    {m : Std.ExtTreeMap κ α} {k : κ} {a : α} (h : m[k]? = some a) (f : α → α) :
    m.modify k f = m.insert k (f a) := by
  apply Std.ExtTreeMap.ext_getElem?
  intro k'
  simp only [Std.ExtTreeMap.getElem?_modify, Std.ExtTreeMap.getElem?_insert, h, Option.map_some]

/-- What is found under a key is stored there. -/
lemma mem_of_getElem? {κ α : Type} [Ord κ] [Std.TransOrd κ] {m : Std.ExtTreeMap κ α} {k : κ} {a : α}
    (h : m[k]? = some a) : k ∈ m := by
  rw [Std.ExtTreeMap.mem_iff_isSome_getElem?, h]
  rfl

/-- What is found after an insertion was inserted, or it was there before. -/
lemma eq_or_of_getElem?_insert {κ α : Type} [Ord κ] [Std.TransOrd κ] {m : Std.ExtTreeMap κ α}
    {k k' : κ} {a a' : α} (h : (m.insert k a)[k']? = some a') : a' = a ∨ m[k']? = some a' := by
  rw [Std.ExtTreeMap.getElem?_insert] at h
  split at h
  · exact .inl (Option.some.inj h).symm
  · exact .inr h

/-- Maps in which the same is found are equal. -/
lemma eq_of_getElem?_iff {κ α : Type} [Ord κ] [Std.TransOrd κ] [Std.LawfulEqOrd κ]
    {m m' : Std.ExtTreeMap κ α} (h : ∀ {k : κ} {a : α}, m[k]? = some a ↔ m'[k]? = some a) :
    m = m' :=
  Std.ExtTreeMap.ext_getElem? fun _ => Option.ext fun _ => h

/-- Taking out values one after the other. -/
lemma getElem?_foldl_erase {κ α : Type} [Ord κ] [Std.TransOrd κ] [Std.LawfulEqOrd κ]
    [DecidableEq κ] (ks : List κ) (m : Std.ExtTreeMap κ α) (k : κ) :
    (ks.foldl (fun m k => m.erase k) m)[k]? = if k ∈ ks then none else m[k]? := by
  induction ks generalizing m with
  | nil => simp
  | cons k' ks ih =>
    rw [List.foldl_cons, ih, Std.ExtTreeMap.getElem?_erase]
    by_cases hk : k' = k
    · simp [hk]
    · simp [hk, eq_comm (a := k)]

/-! ## Maps with entries added -/

/-- What is not there any more when some values are gone was one of them. -/
lemma exists_gone {α : Type} {before after : Option α} {gone : α → Prop}
    (h : ∀ a, after = some a ↔ before = some a ∧ ¬ gone a) (hne : before ≠ after) :
    ∃ a, before = some a ∧ gone a := by
  rcases before with _ | a
  · refine absurd (Eq.symm ?_) hne
    exact Option.eq_none_iff_forall_ne_some.2 fun a ha => by simpa using (h a).1 ha
  · refine ⟨a, rfl, ?_⟩
    by_contra hnot
    exact hne ((h a).2 ⟨rfl, hnot⟩).symm

section Added

variable {κ α : Type} [Ord κ] [Std.TransOrd κ]

/-- The map `m` is `m₀` with entries added, none of them in the place of another. -/
structure Added (m₀ : Std.ExtTreeMap κ α) (entries : List (κ × α)) (m : Std.ExtTreeMap κ α) :
    Prop where
  /-- An entry is an old or an added one. -/
  getElem?_iff : ∀ {k a}, m[k]? = some a ↔ m₀[k]? = some a ∨ (k, a) ∈ entries
  /-- The places of the added entries were free. -/
  fresh : ∀ {k a}, (k, a) ∈ entries → k ∉ m₀

namespace Added

variable {m₀ m : Std.ExtTreeMap κ α} {entries : List (κ × α)} {k : κ} {a : α}

lemma refl (m : Std.ExtTreeMap κ α) : Added m [] m := ⟨by simp, by simp⟩

lemma cons [Std.LawfulEqOrd κ] (h : Added m₀ entries m) (hk : k ∉ m) :
    Added m₀ ((k, a) :: entries) (m.insert k a) where
  getElem?_iff {k' a'} := by
    have hold := h.getElem?_iff (k := k') (a := a')
    have hnone : m[k]? = none := by simpa using hk
    by_cases hkk : k = k'
    · subst hkk
      simp_all [eq_comm]
    · have hne : k' ≠ k := fun h => hkk h.symm
      simp [Std.ExtTreeMap.getElem?_insert, hkk, hne, hold]
  fresh {k' a'} hmem := by
    rcases List.mem_cons.1 hmem with heq | hmem
    · obtain ⟨rfl, rfl⟩ := Prod.mk.inj heq
      intro hk₀
      have hold := Std.ExtTreeMap.getElem?_eq_some_getElem hk₀
      have hsome := (h.getElem?_iff (k := k')).2 (.inl hold)
      exact hk (Std.ExtTreeMap.mem_iff_isSome_getElem?.2 (by simp [hsome]))
    · exact h.fresh hmem

/-- What was there before is still there. -/
lemma old (h : Added m₀ entries m) (hk : m₀[k]? = some a) : m[k]? = some a :=
  h.getElem?_iff.2 (.inl hk)

/-- A place is taken if it was, or if an entry was added there. -/
lemma mem_iff (h : Added m₀ entries m) : k ∈ m ↔ k ∈ m₀ ∨ ∃ a, (k, a) ∈ entries := by
  simp only [Std.ExtTreeMap.mem_iff_isSome_getElem?, Option.isSome_iff_exists, h.getElem?_iff,
    exists_or]

lemma mem_of_mem (h : Added m₀ entries m) (hk : k ∈ m₀) : k ∈ m := h.mem_iff.2 (.inl hk)

/-- What was added is there. -/
lemma new (h : Added m₀ entries m) (hk : (k, a) ∈ entries) : m[k]? = some a :=
  h.getElem?_iff.2 (.inr hk)

/-- A place that changed was free and holds an added entry. -/
lemma of_ne (h : Added m₀ entries m) (hk : m₀[k]? ≠ m[k]?) :
    m₀[k]? = none ∧ ∃ a, (k, a) ∈ entries ∧ m[k]? = some a := by
  have hnone : m₀[k]? = none := by
    rcases h₀ : m₀[k]? with _ | a
    · rfl
    · exact absurd (h₀.trans (h.old h₀).symm) hk
  rcases hm : m[k]? with _ | a
  · exact absurd (hnone.trans hm.symm) hk
  · rcases h.getElem?_iff.1 hm with hold | hmem
    · exact absurd (hnone.symm.trans hold) (by simp)
    · exact ⟨hnone, a, hmem, rfl⟩

/-- Entries added after others. -/
lemma trans {m' : Std.ExtTreeMap κ α} {entries' : List (κ × α)} (h : Added m₀ entries m)
    (h' : Added m entries' m') : Added m₀ (entries ++ entries') m' where
  getElem?_iff := by
    intro k a
    rw [h'.getElem?_iff, h.getElem?_iff, List.mem_append, or_assoc]
  fresh {k a} hmem := by
    rcases List.mem_append.1 hmem with hmem | hmem
    · exact h.fresh hmem
    · exact fun hk => h'.fresh hmem (h.mem_of_mem hk)

/-- The entries determine the map they are added to. -/
lemma unique [Std.LawfulEqOrd κ] {m' : Std.ExtTreeMap κ α} (h : Added m₀ entries m)
    (h' : Added m₀ entries m') : m = m' := by
  apply eq_of_getElem?_iff
  intro k a
  rw [h.getElem?_iff, h'.getElem?_iff]

lemma congr {entries' : List (κ × α)} (h : Added m₀ entries m)
    (he : ∀ e, e ∈ entries ↔ e ∈ entries') : Added m₀ entries' m :=
  ⟨by simp [h.getElem?_iff, he], fun hk => h.fresh ((he _).2 hk)⟩

end Added

end Added

end DeviceFleet
