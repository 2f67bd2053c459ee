/-
# Batches of things

A batch of new things is checked as a whole before the first of them is stored: it is refused for
the first blank field of the first thing that has one.  The things are then put in one after the
other, each in a store that has those before it, and the first one that is in the way of another
refuses the batch: for its key, if that is taken, and otherwise for its identifier.

This file describes the refusals by a relation, case by case, and shows that a batch is either
accepted, and then its things and no others come in, or refused for exactly one reason, and then
the store stays as it was.  That every batch falls under one of the cases comes from the longest
part of it, from its beginning on, for which there is room.
-/
import DeviceFleet.Proofs.Store.History
import Mathlib.Data.List.Induction

namespace DeviceFleet.Store

variable {s s₁ s' : Store} {t : Thing} {things before rest : List Thing}

/-! ## Blank fields -/

/-- The fields of a thing that must not be blank, with their names, in the order in which they are
checked. -/
def requiredFields (t : Thing) : List (String × String) :=
  [("thing id", t.id), ("thing key", t.key), ("thing group id", t.groupId),
    ("thing profile id", t.profileId)]

/-- The name of the first blank field of a thing, if it has one. -/
def firstBlank (t : Thing) : Option String :=
  ((requiredFields t).find? fun field => Text.isBlank field.2).map (·.1)

/-- The refusal of a blank field. -/
def blankRefusal (field : String) : StoreError := .invalidInput s!"{field} cannot be empty"

/-- Fields that are asked for one after the other are refused for the first blank one. -/
lemma forM_require (fields : List (String × String)) :
    (fields.forM fun field => require field.2 field.1) =
      match (fields.find? fun field => Text.isBlank field.2).map (·.1) with
      | none => .ok ()
      | some field => .error (blankRefusal field) := by
  induction fields with
  | nil => rfl
  | cons field fields ih =>
    change (require field.2 field.1 >>= fun _ =>
      fields.forM fun field => require field.2 field.1) = _
    cases hblank : Text.isBlank field.2
    · rw [require, hblank, List.find?_cons, hblank]
      exact ih
    · rw [require, hblank, List.find?_cons, hblank]
      rfl

lemma checkThing_eq (t : Thing) : checkThing t =
    match firstBlank t with
    | none => .ok ()
    | some field => .error (blankRefusal field) := by
  rw [firstBlank, ← forM_require]
  simp [checkThing, requiredFields]

lemma checkThing_eq_ok_iff_firstBlank : checkThing t = .ok () ↔ firstBlank t = none := by
  rw [checkThing_eq]
  cases firstBlank t <;> simp

/-! ## Room for things -/

/-- The key of a thing is taken, by a stored thing or by one before it in the batch. -/
def KeyTaken (s : Store) (before : List Thing) (t : Thing) : Prop :=
  s.HasKey t.key ∨ ∃ u ∈ before, u.key = t.key

/-- The identifier of a thing is taken, by a stored thing or by one before it in the batch. -/
def IdTaken (s : Store) (before : List Thing) (t : Thing) : Prop :=
  t.id ∈ s.things ∨ ∃ u ∈ before, u.id = t.id

/-- There is room for the things: they are in nobody's way. -/
structure RoomFor (s : Store) (things : List Thing) : Prop where
  /-- No stored thing has one of the keys. -/
  keys_free : ∀ t ∈ things, ¬ s.HasKey t.key
  /-- No stored thing has one of the identifiers. -/
  ids_free : ∀ t ∈ things, t.id ∉ s.things
  /-- No two of the things have one key. -/
  keys_distinct : (things.map (·.key)).Nodup
  /-- No two of the things have one identifier. -/
  ids_distinct : (things.map (·.id)).Nodup

lemma roomFor_nil (s : Store) : s.RoomFor [] := by constructor <;> simp

/-- One more element keeps the values distinct if none before has its value. -/
lemma nodup_map_concat_iff {α β : Type} {f : α → β} {xs : List α} {x : α} :
    ((xs ++ [x]).map f).Nodup ↔ (xs.map f).Nodup ∧ ¬ ∃ y ∈ xs, f y = f x := by
  rw [List.map_append, List.nodup_append]
  simp

/-- There is room for one more thing exactly if neither its key nor its identifier is taken. -/
lemma roomFor_concat_iff :
    s.RoomFor (before ++ [t]) ↔
      s.RoomFor before ∧ ¬ s.KeyTaken before t ∧ ¬ s.IdTaken before t := by
  constructor
  · rintro ⟨hkeys, hids, hkeys', hids'⟩
    rw [nodup_map_concat_iff] at hkeys' hids'
    obtain ⟨hkeys, hkey⟩ := List.forall_mem_append.1 hkeys
    obtain ⟨hids, hid⟩ := List.forall_mem_append.1 hids
    exact ⟨⟨hkeys, hids, hkeys'.1, hids'.1⟩,
      not_or.2 ⟨hkey t List.mem_cons_self, hkeys'.2⟩, not_or.2 ⟨hid t List.mem_cons_self, hids'.2⟩⟩
  · rintro ⟨⟨hkeys, hids, hkeys', hids'⟩, hkey, hid⟩
    obtain ⟨hkeyFree, hkeyNew⟩ := not_or.1 hkey
    obtain ⟨hidFree, hidNew⟩ := not_or.1 hid
    exact ⟨List.forall_mem_append.2 ⟨hkeys, List.forall_mem_singleton.2 hkeyFree⟩,
      List.forall_mem_append.2 ⟨hids, List.forall_mem_singleton.2 hidFree⟩,
      nodup_map_concat_iff.2 ⟨hkeys', hkeyNew⟩, nodup_map_concat_iff.2 ⟨hids', hidNew⟩⟩

/-- In a list that does not have a property there is a first element with which the property is
lost. -/
lemma exists_lost {α : Type} {P : List α → Prop} (hnil : P []) {xs : List α} (h : ¬ P xs) :
    ∃ before x rest, xs = before ++ x :: rest ∧ P before ∧ ¬ P (before ++ [x]) := by
  induction xs using List.reverseRecOn with
  | nil => exact absurd hnil h
  | append_singleton xs x ih =>
    by_cases hxs : P xs
    · exact ⟨xs, x, [], rfl, hxs, h⟩
    · obtain ⟨before, y, rest, rfl, hbefore, hy⟩ := ih hxs
      exact ⟨before, y, rest ++ [x], by simp, hbefore, hy⟩

/-! ## Refusals -/

/-- The batch is refused, and why. -/
inductive Refuses (s : Store) : List Thing → StoreError → Prop where
  /-- The field of `t` is blank; no field before it is, in `t` or in a thing before. -/
  | blank {before rest : List Thing} {t : Thing} {field : String}
      (hbefore : ∀ u ∈ before, firstBlank u = none) (hfield : firstBlank t = some field) :
      Refuses s (before ++ t :: rest) (blankRefusal field)
  /-- The key of `t` is taken; the things before are in nobody's way. -/
  | key {before rest : List Thing} {t : Thing}
      (hfilled : ∀ u ∈ before ++ t :: rest, firstBlank u = none) (hroom : s.RoomFor before)
      (hkey : s.KeyTaken before t) : Refuses s (before ++ t :: rest) .duplicateKey
  /-- The identifier of `t` is taken, but not its key; the things before are in nobody's way. -/
  | id {before rest : List Thing} {t : Thing}
      (hfilled : ∀ u ∈ before ++ t :: rest, firstBlank u = none) (hroom : s.RoomFor before)
      (hkey : ¬ s.KeyTaken before t) (hid : s.IdTaken before t) :
      Refuses s (before ++ t :: rest) (.alreadyExists .thing t.id)

/-- A batch without a reason for a refusal has its fields filled, and there is room for it. -/
lemma exists_refuses_or (s : Store) (things : List Thing) :
    (∃ e, s.Refuses things e) ∨ (∀ t ∈ things, firstBlank t = none) ∧ s.RoomFor things := by
  by_cases hfilled : ∀ t ∈ things, firstBlank t = none
  · by_cases hroom : s.RoomFor things
    · exact .inr ⟨hfilled, hroom⟩
    · obtain ⟨before, t, rest, rfl, hbefore, ht⟩ := exists_lost (roomFor_nil s) hroom
      rw [roomFor_concat_iff] at ht
      by_cases hkey : s.KeyTaken before t
      · exact .inl ⟨_, .key hfilled hbefore hkey⟩
      · have hid : s.IdTaken before t := by
          by_contra hid
          exact ht ⟨hbefore, hkey, hid⟩
        exact .inl ⟨_, .id hfilled hbefore hkey hid⟩
  · obtain ⟨before, t, rest, rfl, hbefore, ht⟩ :=
      exists_lost (P := fun xs => ∀ u ∈ xs, firstBlank u = none) (by simp) hfilled
    have hfield : firstBlank t ≠ none := by
      intro hnone
      exact ht (List.forall_mem_append.2 ⟨hbefore, List.forall_mem_singleton.2 hnone⟩)
    obtain ⟨field, hfield⟩ := Option.ne_none_iff_exists'.1 hfield
    exact .inl ⟨_, .blank hbefore hfield⟩

/-! ## What the store answers -/

lemma Sound.mem_thingKeys_iff (h : s.Sound) {key : String} : key ∈ s.thingKeys ↔ s.HasKey key := by
  simp only [Std.ExtTreeMap.mem_iff_isSome_getElem?, Option.isSome_iff_exists, h.key_iff, HasKey]

/-- Which keys are taken once some things are in. -/
lemma ThingsAdded.mem_thingKeys_iff (h : ThingsAdded s before s₁) (hs : s.Sound) :
    t.key ∈ s₁.thingKeys ↔ s.KeyTaken before t := by
  rw [h.indexed.mem_iff, hs.mem_thingKeys_iff]
  simp [KeyTaken]

/-- Which identifiers are taken once some things are in. -/
lemma ThingsAdded.mem_things_iff (h : ThingsAdded s before s₁) :
    t.id ∈ s₁.things ↔ s.IdTaken before t := by
  rw [h.stored.mem_iff]
  simp [IdTaken]

lemma ThingsAdded.unique {s₂ : Store} (h₁ : ThingsAdded s things s₁)
    (h₂ : ThingsAdded s things s₂) : s₁ = s₂ := by
  rw [h₁.rest, h₂.rest, h₁.stored.unique h₂.stored, h₁.indexed.unique h₂.indexed]

/-- The key of a thing is looked at before its identifier. -/
lemma insertThing_eq_duplicateKey (hkey : t.key ∈ s.thingKeys) :
    insertThing t s = (.error .duplicateKey, s) := by
  rw [insertThing, if_pos hkey]

lemma insertThing_eq_alreadyExists (hkey : t.key ∉ s.thingKeys) (hid : t.id ∈ s.things) :
    ∃ s', insertThing t s = (.error (.alreadyExists .thing t.id), s') := by
  rw [insertThing, if_neg hkey]
  exact ⟨_, if_pos hid⟩

/-- A batch with its fields filled is accepted when there is room for it. -/
lemma RoomFor.saveThings (h : s.RoomFor things) (hs : s.Sound)
    (hfilled : ∀ t ∈ things, firstBlank t = none) :
    ∃ s', s.saveThings things = (.ok things, s') ∧ ThingsAdded s things s' := by
  have hfree : ∀ t ∈ things, t.key ∉ s.thingKeys ∧ t.id ∉ s.things := by
    intro t ht
    rw [hs.mem_thingKeys_iff]
    exact ⟨h.keys_free t ht, h.ids_free t ht⟩
  have hdistinct : things.Pairwise fun t u => t.key ≠ u.key ∧ t.id ≠ u.id :=
    (List.pairwise_map.1 h.keys_distinct).and (List.pairwise_map.1 h.ids_distinct)
  obtain ⟨s', hsave⟩ :=
    saveThings_eq_ok (fun t ht => checkThing_eq_ok_iff_firstBlank.2 (hfilled t ht)) hfree hdistinct
  exact ⟨s', hsave, (saveThings_ok hsave).2.1⟩

/-- A batch with its fields filled is refused for the first thing that is refused when those before
it are in. -/
lemma saveThings_eq_error {e : StoreError}
    (hfilled : ∀ u ∈ before ++ t :: rest, firstBlank u = none)
    (hbefore : s.saveThings before = (.ok before, s₁)) (ht : insertThing t s₁ = (.error e, s')) :
    (s.saveThings (before ++ t :: rest)).1 = .error e := by
  have hchecked : ∀ {things : List Thing}, (∀ u ∈ things, firstBlank u = none) →
      things.forM checkThing = .ok () := fun h =>
    forM_eq_ok fun u hu => checkThing_eq_ok_iff_firstBlank.2 (h u hu)
  have hin : insertEach insertThing (fun t => eraseThing t.id) [] before s = (.ok (), s₁) := by
    rw [Store.saveThings, hchecked (List.forall_mem_append.1 hfilled).1] at hbefore
    rcases heach : insertEach insertThing (fun t => eraseThing t.id) [] before s with
      ⟨⟨e'⟩ | ⟨⟩, s₂⟩
    · simp [heach] at hbefore
    · simpa [heach] using hbefore
  have heach : (insertEach insertThing (fun t => eraseThing t.id) [] (before ++ t :: rest) s).1 =
      .error e := insertEach_eq_error hin ht
  rw [Store.saveThings, hchecked hfilled]
  rcases hall : insertEach insertThing (fun t => eraseThing t.id) [] (before ++ t :: rest) s with
    ⟨⟨e'⟩ | ⟨⟩, s₂⟩
  · simpa [hall] using heach
  · simp [hall] at heach

/-- A batch with a reason for a refusal is refused for it. -/
lemma Refuses.answer {e : StoreError} (h : s.Refuses things e) (hs : s.Sound) :
    (s.saveThings things).1 = .error e := by
  cases h with
  | blank hbefore hfield =>
    have hchecked := fun u hu => checkThing_eq_ok_iff_firstBlank.2 (hbefore u hu)
    rw [Store.saveThings, forM_eq_error hchecked (by rw [checkThing_eq, hfield])]
  | key hfilled hroom hkey =>
    obtain ⟨s₁, hbefore, hadded⟩ := hroom.saveThings hs (List.forall_mem_append.1 hfilled).1
    have ht := insertThing_eq_duplicateKey ((hadded.mem_thingKeys_iff hs).2 hkey)
    exact saveThings_eq_error hfilled hbefore ht
  | id hfilled hroom hkey hid =>
    obtain ⟨s₁, hbefore, hadded⟩ := hroom.saveThings hs (List.forall_mem_append.1 hfilled).1
    have hfree := mt (hadded.mem_thingKeys_iff hs).1 hkey
    obtain ⟨s₂, ht⟩ := insertThing_eq_alreadyExists hfree (hadded.mem_things_iff.2 hid)
    exact saveThings_eq_error hfilled hbefore ht

/-- It leaves nothing behind. -/
lemma Refuses.saveThings {e : StoreError} (h : s.Refuses things e) (hs : s.Sound) :
    s.saveThings things = (.error e, s) := by
  have hanswer := h.answer hs
  rcases hrun : s.saveThings things with ⟨⟨e'⟩ | ⟨saved⟩, s₁⟩
  · rw [hrun] at hanswer
    rw [← hanswer, saveThings_error hrun]
  · simp [hrun] at hanswer

/-- **A batch of things comes in as a whole or not at all.**  After any history, a batch is accepted
exactly if no field of its things is blank and there is room for all of them, and then the answer
is the batch, and the store gains exactly these things and their keys.  It is refused exactly for
the reasons that `Refuses` lists, blank fields before the rest and a key that is taken before an
identifier, and then the store stays as it was. -/
theorem saveThings_exact (history : List Command) (things : List Thing) :
    let s := (∅ : Store).after history
    (∀ saved s', s.saveThings things = (.ok saved, s') ↔
      (∀ t ∈ things, firstBlank t = none) ∧ s.RoomFor things ∧ saved = things ∧
        ThingsAdded s things s') ∧
    ∀ e s', s.saveThings things = (.error e, s') ↔ s.Refuses things e ∧ s' = s := by
  intro s
  have hsound : s.Sound := sound_empty.after history
  refine ⟨fun saved s' => ⟨fun h => ?_, ?_⟩, fun e s' => ⟨fun h => ?_, ?_⟩⟩
  · obtain ⟨hsaved, hadded, -⟩ := saveThings_ok h
    rcases exists_refuses_or s things with ⟨e, hrefused⟩ | ⟨hfilled, hroom⟩
    · simp [hrefused.saveThings hsound] at h
    · exact ⟨hfilled, hroom, hsaved, hadded⟩
  · rintro ⟨hfilled, hroom, rfl, hadded⟩
    obtain ⟨s₁, hsave, hadded₁⟩ := hroom.saveThings hsound hfilled
    rw [hsave, hadded.unique hadded₁]
  · refine ⟨?_, saveThings_error h⟩
    rcases exists_refuses_or s things with ⟨e', hrefused⟩ | ⟨hfilled, hroom⟩
    · rw [hrefused.saveThings hsound] at h
      obtain rfl := Except.error.inj (congrArg Prod.fst h)
      exact hrefused
    · obtain ⟨s₁, hsave, -⟩ := hroom.saveThings hsound hfilled
      simp [hsave] at h
  · rintro ⟨hrefused, rfl⟩
    exact hrefused.saveThings hsound

-- the second thing has the key and the identifier of the first
example : ((∅ : Store).saveThings
    [⟨"a", "g", "p", "A", "k", ∅⟩, ⟨"a", "g", "p", "B", "k", ∅⟩]).1 = .error .duplicateKey := by
  decide +kernel

end DeviceFleet.Store
