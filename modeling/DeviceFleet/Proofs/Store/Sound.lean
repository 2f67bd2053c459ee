/-
# Sound stores

The store keeps records under what identifies them, and next to the things an index of their
keys.  A store is sound when both are in order: every record is kept under its own identifier,
and the index has exactly the keys of the stored things.  This file has the definition and what
follows from it about look-ups; the files on the kinds of records show that no request to the
store breaks it.
-/
import DeviceFleet.Proofs.Store.Batch

namespace DeviceFleet.Store

/-- Every record is kept under what identifies it, the index of the keys is exact, and no key is
blank. -/
structure Sound (s : Store) : Prop where
  /-- A thing is kept under its identifier. -/
  thing_id : ∀ {id : String} {t : Thing}, s.things[id]? = some t → t.id = id
  /-- The index finds exactly the thing that has a key. -/
  key_iff : ∀ {key id : String},
    s.thingKeys[key]? = some id ↔ ∃ t : Thing, s.things[id]? = some t ∧ t.key = key
  /-- No thing has a blank key. -/
  key_ne_blank : ∀ {id : String} {t : Thing}, s.things[id]? = some t → Text.isBlank t.key = false
  /-- A profile is kept under its identifier. -/
  profile_id : ∀ {id : String} {p : Profile}, s.profiles[id]? = some p → p.id = id
  /-- A group is kept under its identifier. -/
  group_id : ∀ {id : String} {g : Group}, s.groups[id]? = some g → g.id = id
  /-- A membership is kept under its group and member. -/
  membership_key : ∀ {key : Membership.Key} {m : Membership},
    s.memberships[key]? = some m → m.key = key

/-- Does some stored thing have the key? -/
def HasKey (s : Store) (key : String) : Prop :=
  ∃ (id : String) (t : Thing), s.things[id]? = some t ∧ t.key = key

/-! ## The records of a map -/

section Records

variable {κ α : Type} [Ord κ] [Std.TransOrd κ] [Std.LawfulEqOrd κ] {m : Std.ExtTreeMap κ α}
  {slot : α → κ}

/-- A stored record is among the records of the map, in its place. -/
lemma mem_recordsOf_iff (h : ∀ {k : κ} {a : α}, m[k]? = some a → slot a = k) {a : α} :
    a ∈ recordsOf m ↔ m[slot a]? = some a := by
  simp only [recordsOf, List.mem_map, Prod.exists, Std.ExtTreeMap.mem_toList_iff_getElem?_eq_some]
  constructor
  · rintro ⟨k, a, ha, rfl⟩
    rwa [h ha]
  · intro ha
    exact ⟨slot a, a, ha, rfl⟩

/-- No two records of the map have the same place. -/
lemma pairwise_recordsOf (h : ∀ {k : κ} {a : α}, m[k]? = some a → slot a = k) :
    (recordsOf m).Pairwise fun a a' => slot a ≠ slot a' := by
  rw [recordsOf, List.pairwise_map]
  refine m.distinct_keys_toList.imp_of_mem ?_
  rintro ⟨k, a⟩ ⟨k', a'⟩ ha ha' hne
  rw [Std.ExtTreeMap.mem_toList_iff_getElem?_eq_some] at ha ha'
  rw [h ha, h ha']
  exact fun heq => hne (Std.compare_eq_iff_eq.2 heq)

/-- To add the records of a map to an empty one is to copy the map. -/
lemma eq_of_added_recordsOf (h : ∀ {k : κ} {a : α}, m[k]? = some a → slot a = k)
    {m' : Std.ExtTreeMap κ α} (hadded : Added ∅ ((recordsOf m).map fun a => (slot a, a)) m') :
    m' = m := by
  apply Std.ExtTreeMap.ext_getElem?
  intro k
  ext a
  rw [hadded.getElem?_iff]
  simp only [Std.ExtTreeMap.getElem?_empty, reduceCtorEq, false_or, List.mem_map, Prod.mk.injEq,
    mem_recordsOf_iff h]
  constructor
  · rintro ⟨a, ha, rfl, rfl⟩
    exact ha
  · intro ha
    obtain rfl := h ha
    exact ⟨a, ha, rfl, rfl⟩

end Records

section Empty

@[simp] lemma things_empty : (∅ : Store).things = ∅ := rfl

@[simp] lemma thingKeys_empty : (∅ : Store).thingKeys = ∅ := rfl

@[simp] lemma profiles_empty : (∅ : Store).profiles = ∅ := rfl

@[simp] lemma groups_empty : (∅ : Store).groups = ∅ := rfl

@[simp] lemma memberships_empty : (∅ : Store).memberships = ∅ := rfl

lemma sound_empty : (∅ : Store).Sound := by constructor <;> simp

end Empty

namespace Sound

variable {s : Store} {id key : String}

lemma of_outcome {α : Type} {o : Outcome α} {r : Except StoreError α} (h : o.2.Sound)
    (ho : o = (r, s)) : s.Sound := by
  rwa [ho] at h

/-- No two things have one key. -/
lemma key_inj (h : s.Sound) {id' : String} {t t' : Thing} (ht : s.things[id]? = some t)
    (ht' : s.things[id']? = some t') (hk : t.key = t'.key) : id = id' := by
  have h₁ : s.thingKeys[t.key]? = some id := h.key_iff.2 ⟨t, ht, rfl⟩
  have h₂ : s.thingKeys[t.key]? = some id' := h.key_iff.2 ⟨t', ht', hk.symm⟩
  exact Option.some.inj (h₁.symm.trans h₂)

lemma findThingId_eq_ok_iff (h : s.Sound) :
    s.findThingId key = .ok id ↔ ∃ t : Thing, s.things[id]? = some t ∧ t.key = key := by
  rw [← h.key_iff, findThingId]
  cases s.thingKeys[key]? <;> simp

/-- A key that no thing has is not found. -/
lemma findThingId_eq_error (h : s.Sound) (hk : ¬ s.HasKey key) :
    s.findThingId key = .error .keyNotFound := by
  rcases hf : s.thingKeys[key]? with _ | id
  · rw [findThingId, hf]
  · obtain ⟨t, ht, hkey⟩ := h.key_iff.1 hf
    exact absurd ⟨id, t, ht, hkey⟩ hk

lemma mem_things_iff (h : s.Sound) {t : Thing} :
    t ∈ recordsOf s.things ↔ s.things[t.id]? = some t := mem_recordsOf_iff h.thing_id

lemma mem_profiles_iff (h : s.Sound) {p : Profile} :
    p ∈ recordsOf s.profiles ↔ s.profiles[p.id]? = some p := mem_recordsOf_iff h.profile_id

lemma mem_groups_iff (h : s.Sound) {g : Group} :
    g ∈ recordsOf s.groups ↔ s.groups[g.id]? = some g := mem_recordsOf_iff h.group_id

lemma mem_memberships_iff (h : s.Sound) {m : Membership} :
    m ∈ recordsOf s.memberships ↔ s.memberships[m.key]? = some m :=
  mem_recordsOf_iff h.membership_key

end Sound

end DeviceFleet.Store
