/-
# Pages of the store

What the store hands out as a page is a window of a list: of all records that are asked for, in
the order of their names, and of those with one name in the order of their identifiers.  That
order leaves no choice, so it is enough to say which records the list has; how the store finds
and sorts them does not matter.
-/
import DeviceFleet.Proofs.Store.Sound
import Mathlib.Data.String.Basic

namespace DeviceFleet

variable {α : Type} {name id : α → String}

/-! ## The order of a list -/

/-- A record comes before another one if its name does, or if they have one name and its identifier
does. -/
def ComesBefore (name id : α → String) (a b : α) : Prop :=
  name a < name b ∨ name a = name b ∧ id a < id b

lemma ComesBefore.ne {a b : α} (h : ComesBefore name id a b) : a ≠ b := by
  rintro rfl
  rcases h with hname | ⟨-, hid⟩
  · exact lt_irrefl _ hname
  · exact lt_irrefl _ hid

lemma ComesBefore.asymm {a b : α} (h : ComesBefore name id a b) : ¬ ComesBefore name id b a := by
  rcases h with hname | ⟨hname, hid⟩
  · rintro (hname' | ⟨hname', -⟩)
    · exact lt_asymm hname hname'
    · exact hname.ne' hname'
  · rintro (hname' | ⟨-, hid'⟩)
    · exact hname'.ne' hname
    · exact lt_asymm hid hid'

lemma pairLe_iff {a b : String × String} :
    pairLe a b = true ↔ a.1 < b.1 ∨ a.1 = b.1 ∧ a.2 ≤ b.2 := by
  have hle : (compare a.2 b.2).isLE = true ↔ a.2 ≤ b.2 :=
    Ordering.isLE_iff_ne_gt.trans compare_le_iff_le
  change ((compare a.1 b.1).then (compare a.2 b.2)).isLE = true ↔ _
  rw [Ordering.isLE_then_iff_or, compare_lt_iff_lt, Std.compare_eq_iff_eq, hle]

lemma pairLe_trans {a b c : String × String} (hab : pairLe a b = true) (hbc : pairLe b c = true) :
    pairLe a c = true := by
  rw [pairLe_iff] at hab hbc ⊢
  rcases hab with hab | ⟨hab, hab'⟩
  · rcases hbc with hbc | ⟨hbc, -⟩
    · exact .inl (hab.trans hbc)
    · exact .inl (hbc ▸ hab)
  · rcases hbc with hbc | ⟨hbc, hbc'⟩
    · exact .inl (hab ▸ hbc)
    · exact .inr ⟨hab.trans hbc, hab'.trans hbc'⟩

lemma pairLe_total (a b : String × String) : (pairLe a b || pairLe b a) = true := by
  rw [Bool.or_eq_true, pairLe_iff, pairLe_iff]
  rcases lt_trichotomy a.1 b.1 with hlt | heq | hgt
  · exact .inl (.inl hlt)
  · exact (le_total a.2 b.2).imp (fun hle => .inr ⟨heq, hle⟩) fun hle => .inr ⟨heq.symm, hle⟩
  · exact .inr (.inl hgt)

namespace Store

lemma mem_byName {items : List α} {a : α} : a ∈ byName name id items ↔ a ∈ items :=
  (List.mergeSort_perm items _).mem_iff

/-- Records with different identifiers are listed strictly in order. -/
lemma pairwise_byName {items : List α} (h : items.Pairwise fun a b => id a ≠ id b) :
    (byName name id items).Pairwise (ComesBefore name id) := by
  have hsorted : (byName name id items).Pairwise
      fun a b => pairLe (name a, id a) (name b, id b) = true :=
    @List.pairwise_mergeSort α (fun a b => pairLe (name a, id a) (name b, id b))
      (fun _ _ _ => pairLe_trans) (fun _ _ => pairLe_total _ _) items
  have hdistinct : (byName name id items).Pairwise fun a b => id a ≠ id b :=
    h.perm (List.mergeSort_perm items _).symm Ne.symm
  refine (hsorted.and hdistinct).imp fun {a b} ⟨hle, hne⟩ => ?_
  rcases pairLe_iff.1 hle with hname | ⟨hname, hid⟩
  · exact .inl hname
  · exact .inr ⟨hname, lt_of_le_of_ne hid hne⟩

end Store

/-! ## Windows -/

/-- The page is the window that is asked for of the list of the records that satisfy `p` and whose
names are asked for, in the order of their names and identifiers, with the length of that list. -/
def Page.ShowsExactly (page : Page α) (r : PageRequest) (name id : α → String) (p : α → Prop) :
    Prop :=
  ∃ all : List α, all.Pairwise (ComesBefore name id) ∧
    (∀ a, a ∈ all ↔ p a ∧ r.admits (name a) = true) ∧
    page = ⟨(all.drop r.offset).take r.limit, all.length, r.offset, r.limit⟩

namespace Page.ShowsExactly

variable {page : Page α} {r : PageRequest} {p q : α → Prop}

/-- Only which records are asked for matters. -/
lemma congr (h : page.ShowsExactly r name id p) (hpq : ∀ a, p a ↔ q a) :
    page.ShowsExactly r name id q := by
  obtain ⟨all, hall, hmem, hpage⟩ := h
  refine ⟨all, hall, fun a => ?_, hpage⟩
  rw [hmem, hpq]

/-- The order leaves no choice: which records are asked for determines the page. -/
theorem unique (h : page.ShowsExactly r name id p) {page' : Page α}
    (h' : page'.ShowsExactly r name id p) : page = page' := by
  obtain ⟨all, hall, hmem, rfl⟩ := h
  obtain ⟨all', hall', hmem', rfl⟩ := h'
  have hperm : all.Perm all' := by
    rw [List.perm_ext_iff_of_nodup (hall.imp ComesBefore.ne) (hall'.imp ComesBefore.ne)]
    intro a
    rw [hmem, hmem']
  have hall_eq : all = all' := by
    refine hperm.eq_of_pairwise ?_ hall hall'
    intro a b _ _ hab hba
    exact absurd hba hab.asymm
  rw [hall_eq]

/-- No record is shown twice. -/
lemma nodup (h : page.ShowsExactly r name id p) : page.items.Nodup := by
  obtain ⟨all, hall, -, rfl⟩ := h
  have hnodup : all.Nodup := hall.imp ComesBefore.ne
  exact hnodup.sublist ((List.take_sublist _ _).trans (List.drop_sublist _ _))

/-- Nothing else is shown. -/
lemma of_mem_items (h : page.ShowsExactly r name id p) {a : α} (ha : a ∈ page.items) : p a := by
  obtain ⟨all, -, hmem, rfl⟩ := h
  have hall : a ∈ all := List.mem_of_mem_drop (List.mem_of_mem_take ha)
  exact ((hmem a).1 hall).1

/-- A page from the beginning that has room for all, whatever their names, shows all. -/
lemma mem_items_iff (h : page.ShowsExactly r name id p) (hstart : r.offset = 0)
    (hname : r.name = none) (hroom : page.total ≤ r.limit) {a : α} : a ∈ page.items ↔ p a := by
  obtain ⟨all, -, hmem, rfl⟩ := h
  have hadmits : r.admits (name a) = true := by rw [PageRequest.admits, hname]
  have hwindow : (all.drop r.offset).take r.limit = all := by
    rw [hstart, List.drop_zero]
    exact List.take_of_length_le hroom
  change a ∈ (all.drop r.offset).take r.limit ↔ p a
  rw [hwindow, hmem, and_iff_left hadmits]

end Page.ShowsExactly

namespace Store

variable {s : Store} {r : PageRequest}

/-- A page of the records of a map. -/
lemma showsExactly_paginate {m : Std.ExtTreeMap String α}
    (h : ∀ {k : String} {a : α}, m[k]? = some a → id a = k) (p : α → Bool) (r : PageRequest) :
    (r.paginate
        (byName name id ((recordsOf m).filter fun a => p a && r.admits (name a)))).ShowsExactly
      r name id fun a => m[id a]? = some a ∧ p a = true := by
  refine ⟨_, pairwise_byName ((pairwise_recordsOf h).filter _), fun a => ?_, rfl⟩
  rw [mem_byName, List.mem_filter, mem_recordsOf_iff h, Bool.and_eq_true, and_assoc]

lemma Sound.showsExactly_pageOfThings (h : s.Sound) (p : Thing → Bool) :
    (s.pageOfThings p r).ShowsExactly r (·.name) (·.id) fun t =>
      s.things[t.id]? = some t ∧ p t = true :=
  showsExactly_paginate h.thing_id p r

lemma Sound.showsExactly_pageOfProfiles (h : s.Sound) (p : Profile → Bool) :
    (s.pageOfProfiles p r).ShowsExactly r (·.name) (·.id) fun x =>
      s.profiles[x.id]? = some x ∧ p x = true :=
  showsExactly_paginate h.profile_id p r

lemma Sound.showsExactly_pageOfGroups (h : s.Sound) (p : Group → Bool) :
    (s.pageOfGroups p r).ShowsExactly r (·.name) (·.id) fun g =>
      s.groups[g.id]? = some g ∧ p g = true :=
  showsExactly_paginate h.group_id p r

end Store

end DeviceFleet
