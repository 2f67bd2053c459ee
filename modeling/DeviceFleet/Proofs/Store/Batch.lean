/-
# Batches

Records are stored in batches, all or none: when one record of a batch is refused, those that
are in already are taken out again.  This file shows, for any kind of record, that a refused
batch leaves the store as it was, and that an accepted one adds exactly its records.

The records that are in are taken out oldest first, not in the reverse of the order in which they
were put in.  That this makes no difference is the content of `Undoes.foldr_undo`.
-/
import DeviceFleet.Proofs.Maps
import DeviceFleet.Store.Groups
import DeviceFleet.Store.Memberships
import DeviceFleet.Store.Profiles

namespace DeviceFleet.Store

/-! ## Inserting one after the other -/

/-- One check and then another pass when both do. -/
lemma seq_eq_ok_iff {x y : Except StoreError Unit} :
    (x >>= fun _ => y) = .ok () ↔ x = .ok () ∧ y = .ok () := by
  rcases x with e | ⟨⟩
  · simp [bind, Except.bind]
  · simp [bind, Except.bind]

/-- A check of a whole batch passes only if every element passes it. -/
lemma forM_ok {α : Type} {check : α → Except StoreError Unit} {xs : List α}
    (h : xs.forM check = .ok ()) : ∀ x ∈ xs, check x = .ok () := by
  induction xs with
  | nil => simp
  | cons x xs ih =>
    obtain ⟨hx, hxs⟩ := seq_eq_ok_iff.1 h
    exact List.forall_mem_cons.2 ⟨hx, ih hxs⟩

/-- It passes if every element does. -/
lemma forM_eq_ok {α : Type} {check : α → Except StoreError Unit} {xs : List α}
    (h : ∀ x ∈ xs, check x = .ok ()) : xs.forM check = .ok () := by
  induction xs with
  | nil => rfl
  | cons x xs ih =>
    obtain ⟨hx, hxs⟩ := List.forall_mem_cons.1 h
    exact seq_eq_ok_iff.2 ⟨hx, ih hxs⟩

/-- It stops at the first element that does not pass. -/
lemma forM_eq_error {α : Type} {check : α → Except StoreError Unit} {x : α} {xs ys : List α}
    {e : StoreError} (h : ∀ y ∈ xs, check y = .ok ()) (hx : check x = .error e) :
    (xs ++ x :: ys).forM check = .error e := by
  induction xs with
  | nil =>
    change (check x >>= fun _ => ys.forM check) = .error e
    rw [hx]
    rfl
  | cons y xs ih =>
    obtain ⟨hy, hxs⟩ := List.forall_mem_cons.1 h
    change (check y >>= fun _ => (xs ++ x :: ys).forM check) = .error e
    rw [hy]
    exact ih hxs

section InsertEach

variable {α κ : Type} {insert : α → Store → Outcome Unit} {undo : α → Store → Store}
  {slot : α → κ} {taken : Store → κ → Prop} {s s' : Store} {x : α} {xs saved : List α}

/-- Taking a record out undoes that it was put in, also when others came in between.  `slot x` is
the place that `x` takes. -/
structure Undoes (insert : α → Store → Outcome Unit) (undo : α → Store → Store) (slot : α → κ)
    (taken : Store → κ → Prop) : Prop where
  /-- A refused record leaves the store as it was. -/
  refused : ∀ {x s e s'}, insert x s = (.error e, s') → s' = s
  /-- Taking out is the inverse of putting in. -/
  back : ∀ {x s s'}, insert x s = (.ok (), s') → undo x s' = s
  /-- A record that is put in does not mind that another one is taken out. -/
  swap : ∀ {x y s s'}, slot x ≠ slot y → insert x s = (.ok (), s') →
    insert x (undo y s) = (.ok (), undo y s')
  /-- A record is only put in a free place. -/
  free : ∀ {x s s'}, insert x s = (.ok (), s') → ¬ taken s (slot x)
  /-- Putting a record in takes its place and no other. -/
  taken_iff : ∀ {x s s'} {k : κ}, insert x s = (.ok (), s') → (taken s' k ↔ taken s k ∨ k = slot x)

namespace Undoes

/-- Putting in the next record and then taking out earlier ones is the same as taking out the
earlier ones first. -/
lemma insert_foldr_undo (h : Undoes insert undo slot taken) (hx : insert x s = (.ok (), s'))
    (hne : ∀ y ∈ saved, slot x ≠ slot y) :
    insert x (saved.foldr undo s) = (.ok (), saved.foldr undo s') := by
  induction saved with
  | nil => exact hx
  | cons y saved ih =>
    have htail := ih fun z hz => hne z (List.mem_cons_of_mem _ hz)
    exact h.swap (hne y List.mem_cons_self) htail

lemma foldr_undo (h : Undoes insert undo slot taken) (hx : insert x s = (.ok (), s'))
    (hsaved : ∀ y ∈ saved, taken s (slot y)) :
    (x :: saved).foldr undo s' = saved.foldr undo s := by
  refine h.back (h.insert_foldr_undo hx fun y hy heq => ?_)
  exact h.free hx (heq ▸ hsaved y hy)

/-- A batch that is refused leaves the store as it was. -/
lemma insertEach_error (h : Undoes insert undo slot taken) {e : StoreError}
    (hxs : insertEach insert undo [] xs s = (.error e, s')) : s' = s := by
  -- when `xs` is left and `saved` is in, taking out `saved` would give `s` back
  suffices H : ∀ (xs saved : List α) (t : Store), (∀ y ∈ saved, taken t (slot y)) →
      saved.foldr undo t = s → insertEach insert undo saved xs t = (.error e, s') → s' = s from
    H xs [] s (by simp) rfl hxs
  intro xs
  induction xs with
  | nil => intro saved t _ _ ht; simp [insertEach] at ht
  | cons x xs ih =>
    intro saved t hsaved hback ht
    rcases hx : insert x t with ⟨⟨e'⟩ | ⟨⟩, t'⟩
    · rw [insertEach, hx] at ht
      obtain rfl := h.refused hx
      exact (congrArg Prod.snd ht).symm.trans hback
    · rw [insertEach, hx] at ht
      refine ih (x :: saved) t' ?_ ((h.foldr_undo hx hsaved).trans hback) ht
      intro y hy
      rcases List.mem_cons.1 hy with rfl | hy
      · exact (h.taken_iff hx).2 (.inr rfl)
      · exact (h.taken_iff hx).2 (.inl (hsaved y hy))

end Undoes

/-- What every accepted record of a batch keeps up, the accepted batch keeps up. -/
lemma insertEach_ok {motive : List α → Store → Prop}
    (hstep : ∀ saved x s s', motive saved s → insert x s = (.ok (), s') → motive (x :: saved) s')
    (h : motive saved s) (hxs : insertEach insert undo saved xs s = (.ok (), s')) :
    motive (xs.reverse ++ saved) s' := by
  induction xs generalizing saved s with
  | nil =>
    rw [insertEach] at hxs
    obtain rfl := congrArg Prod.snd hxs
    exact h
  | cons x xs ih =>
    rcases hx : insert x s with ⟨⟨e⟩ | ⟨⟩, t⟩
    · simp [insertEach, hx] at hxs
    · rw [insertEach, hx] at hxs
      simpa using ih (hstep saved x s t h hx) hxs

/-- A batch is accepted when each of its records is accepted after those before it.  Every record
satisfies `P`, and `R` holds between a record and each later one. -/
lemma insertEach_eq_ok {motive : List α → Store → Prop} {P : α → Prop} {R : α → α → Prop}
    (hstep : ∀ {saved x s}, motive saved s → P x → (∀ y ∈ saved, R y x) →
      ∃ s', insert x s = (.ok (), s') ∧ motive (x :: saved) s')
    (h : motive saved s) (hP : ∀ x ∈ xs, P x) (hR : xs.Pairwise R)
    (hsaved : ∀ x ∈ xs, ∀ y ∈ saved, R y x) :
    ∃ s', insertEach insert undo saved xs s = (.ok (), s') := by
  induction xs generalizing saved s with
  | nil => exact ⟨s, rfl⟩
  | cons x xs ih =>
    obtain ⟨hPx, hP⟩ := List.forall_mem_cons.1 hP
    obtain ⟨hRx, hR⟩ := List.pairwise_cons.1 hR
    obtain ⟨hsavedx, hsaved⟩ := List.forall_mem_cons.1 hsaved
    obtain ⟨t, hx, ht⟩ := hstep h hPx hsavedx
    rw [insertEach, hx]
    exact ih ht hP hR fun z hz => List.forall_mem_cons.2 ⟨hRx z hz, hsaved z hz⟩

/-- A batch is refused for the first record that is refused when those before it are in. -/
lemma insertEach_eq_error {ys : List α} {e : StoreError} {t t' : Store}
    (hxs : insertEach insert undo saved xs s = (.ok (), t)) (hx : insert x t = (.error e, t')) :
    (insertEach insert undo saved (xs ++ x :: ys) s).1 = .error e := by
  induction xs generalizing saved s with
  | nil =>
    rw [insertEach] at hxs
    obtain rfl := congrArg Prod.snd hxs
    rw [List.nil_append, insertEach, hx]
  | cons y xs ih =>
    rcases hy : insert y s with ⟨⟨e'⟩ | ⟨⟩, s₁⟩
    · simp [insertEach, hy] at hxs
    · rw [insertEach, hy] at hxs
      rw [List.cons_append, insertEach, hy]
      exact ih hxs

end InsertEach

end DeviceFleet.Store
