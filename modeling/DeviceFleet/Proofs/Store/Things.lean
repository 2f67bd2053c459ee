/-
# Changes of things

What each request that changes things does to a sound store, stated by look-ups: which thing is
found under which identifier afterwards.  The index of the keys needs no description of its own,
since a sound store determines it.
-/
import DeviceFleet.Proofs.Store.Sound

namespace DeviceFleet.Store

variable {s s' : Store} {t : Thing} {id key : String}

/-! ## Saving -/

lemma insertThing_ok (h : insertThing t s = (.ok (), s')) :
    t.key ∉ s.thingKeys ∧ t.id ∉ s.things ∧
      s' = { s with
        things := s.things.insert t.id t, thingKeys := s.thingKeys.insert t.key t.id } := by
  unfold insertThing at h
  split at h
  · simp at h
  · rename_i hkey
    simp only at h
    split at h
    · simp at h
    · rename_i hid
      exact ⟨hkey, hid, (congrArg Prod.snd h).symm⟩

lemma insertThing_eq_ok (hkey : t.key ∉ s.thingKeys) (hid : t.id ∉ s.things) :
    insertThing t s = (.ok (), { s with
      things := s.things.insert t.id t, thingKeys := s.thingKeys.insert t.key t.id }) := by
  rw [insertThing, if_neg hkey]
  exact if_neg hid

lemma insertThing_error {e : StoreError} (h : insertThing t s = (.error e, s')) : s' = s := by
  unfold insertThing at h
  split at h
  · exact (congrArg Prod.snd h).symm
  · rename_i hkey
    simp only at h
    split at h
    · -- the key went into the index before the identifier was found to be taken
      obtain rfl := congrArg Prod.snd h
      have hkeys : (s.thingKeys.insert t.key t.id).erase t.key = s.thingKeys := by
        apply Std.ExtTreeMap.ext_getElem?
        grind
      simp [hkeys]
    · simp at h

lemma undoes_things :
    Undoes insertThing (fun t => eraseThing t.id) Thing.id (fun s id => id ∈ s.things) where
  refused := insertThing_error
  back {t s s'} h := by
    obtain ⟨hkey, hid, rfl⟩ := insertThing_ok h
    have hthings : (s.things.insert t.id t).erase t.id = s.things := by
      apply Std.ExtTreeMap.ext_getElem?
      grind
    have hkeys : (s.thingKeys.insert t.key t.id).erase t.key = s.thingKeys := by
      apply Std.ExtTreeMap.ext_getElem?
      grind
    simp [eraseThing, hthings, hkeys]
  swap {t u s s'} hne h := by
    obtain ⟨hkey, hid, rfl⟩ := insertThing_ok h
    have hfound : (s.things.insert t.id t)[u.id]? = s.things[u.id]? := by
      simp [Std.ExtTreeMap.getElem?_insert, hne]
    rcases hu : s.things[u.id]? with _ | v
    · simp [eraseThing, insertThing, hfound, hu, hkey, hid]
    · have hthings : (s.things.insert t.id t).erase u.id = (s.things.erase u.id).insert t.id t := by
        apply Std.ExtTreeMap.ext_getElem?
        grind
      -- the index gives the new key to the new thing, so it is not given up with the old one
      have hkeys : (if (s.thingKeys.insert t.key t.id)[v.key]? = some u.id then
            (s.thingKeys.insert t.key t.id).erase v.key else s.thingKeys.insert t.key t.id) =
          (if s.thingKeys[v.key]? = some u.id then s.thingKeys.erase v.key
            else s.thingKeys).insert t.key t.id := by
        by_cases hvt : t.key = v.key
        · have hfree : s.thingKeys[v.key]? ≠ some u.id := by grind
          have hnew : (s.thingKeys.insert t.key t.id)[v.key]? ≠ some u.id := by
            simp [hvt, hne]
          rw [if_neg hfree, if_neg hnew]
        · have hsame : (s.thingKeys.insert t.key t.id)[v.key]? = s.thingKeys[v.key]? := by
            simp [Std.ExtTreeMap.getElem?_insert, hvt]
          rw [hsame]
          split
          · apply Std.ExtTreeMap.ext_getElem?
            grind
          · rfl
      have hkey' : t.key ∉ (if s.thingKeys[v.key]? = some u.id then s.thingKeys.erase v.key
          else s.thingKeys) := by grind
      have hid' : t.id ∉ s.things.erase u.id := by grind
      simp [eraseThing, insertThing, hfound, hu, hkey', hid', hthings, hkeys]
  free h := (insertThing_ok h).2.1
  taken_iff {t s s' id} h := by
    obtain ⟨-, -, rfl⟩ := insertThing_ok h
    simp only [Std.ExtTreeMap.mem_insert, Std.compare_eq_iff_eq]
    tauto

/-- The store `s'` is `s` with some things added, and with their keys in the index. -/
structure ThingsAdded (s : Store) (things : List Thing) (s' : Store) : Prop where
  /-- The things are added. -/
  stored : Added s.things (things.map fun t => (t.id, t)) s'.things
  /-- Their keys are added. -/
  indexed : Added s.thingKeys (things.map fun t => (t.key, t.id)) s'.thingKeys
  /-- Nothing else changes. -/
  rest : s' = { s with things := s'.things, thingKeys := s'.thingKeys }

lemma ThingsAdded.insertThing {s₀ : Store} {things : List Thing} (h : ThingsAdded s₀ things s)
    (ht : insertThing t s = (.ok (), s')) : ThingsAdded s₀ (t :: things) s' := by
  obtain ⟨hkey, hid, rfl⟩ := insertThing_ok ht
  refine ⟨h.stored.cons hid, h.indexed.cons hkey, ?_⟩
  rw [h.rest]

/-- A refused batch of things leaves the store as it was. -/
lemma saveThings_error {things : List Thing} {e : StoreError}
    (h : s.saveThings things = (.error e, s')) : s' = s := by
  unfold saveThings at h
  split at h
  · exact (congrArg Prod.snd h).symm
  · split at h
    · simp at h
    · rename_i heach
      obtain rfl := congrArg Prod.snd h
      exact undoes_things.insertEach_error heach

lemma checkThing_eq_ok_iff :
    checkThing t = .ok () ↔ Text.isBlank t.id = false ∧ Text.isBlank t.key = false ∧
      Text.isBlank t.groupId = false ∧ Text.isBlank t.profileId = false := by
  simp only [checkThing, seq_eq_ok_iff, require_eq_ok_iff]

/-- An accepted batch of things adds exactly these, and every one of them has passed its check. -/
lemma saveThings_ok {things saved : List Thing} (h : s.saveThings things = (.ok saved, s')) :
    saved = things ∧ ThingsAdded s things s' ∧ ∀ t ∈ things, checkThing t = .ok () := by
  unfold saveThings at h
  split at h
  · simp at h
  · rename_i hcheck
    split at h
    · rename_i heach
      obtain ⟨hsaved, rfl⟩ := Prod.mk.inj h
      have hadded := insertEach_ok (motive := ThingsAdded s)
        (fun _ _ _ _ hadded ht => hadded.insertThing ht) ⟨.refl _, .refl _, rfl⟩ heach
      rw [List.append_nil] at hadded
      refine ⟨(Except.ok.inj hsaved).symm, ⟨hadded.stored.congr (by simp),
        hadded.indexed.congr (by simp), hadded.rest⟩, forM_ok hcheck⟩
    · simp at h

/-- A batch of things is accepted when they pass their checks and no key and no identifier is used
twice, in the store or in the batch. -/
lemma saveThings_eq_ok {things : List Thing} (hchecked : ∀ t ∈ things, checkThing t = .ok ())
    (hfree : ∀ t ∈ things, t.key ∉ s.thingKeys ∧ t.id ∉ s.things)
    (hdistinct : things.Pairwise fun t u => t.key ≠ u.key ∧ t.id ≠ u.id) :
    ∃ s', s.saveThings things = (.ok things, s') := by
  have hstep : ∀ {saved : List Thing} {t : Thing} {s₁ : Store}, ThingsAdded s saved s₁ →
      t.key ∉ s.thingKeys ∧ t.id ∉ s.things → (∀ u ∈ saved, u.key ≠ t.key ∧ u.id ≠ t.id) →
      ∃ s', insertThing t s₁ = (.ok (), s') ∧ ThingsAdded s (t :: saved) s' := by
    intro saved t s₁ hadded ⟨hkey, hid⟩ hne
    have hkey₁ : t.key ∉ s₁.thingKeys := by
      simp only [hadded.indexed.mem_iff, List.mem_map, Prod.mk.injEq]
      grind
    have hid₁ : t.id ∉ s₁.things := by
      simp only [hadded.stored.mem_iff, List.mem_map, Prod.mk.injEq]
      grind
    have hinsert := insertThing_eq_ok hkey₁ hid₁
    exact ⟨_, hinsert, hadded.insertThing hinsert⟩
  have heach : ∃ s', insertEach insertThing (fun t => eraseThing t.id) [] things s = (.ok (), s') :=
    insertEach_eq_ok (motive := ThingsAdded s) hstep ⟨.refl _, .refl _, rfl⟩ hfree hdistinct
      fun _ _ => List.forall_mem_nil _
  obtain ⟨s', heach⟩ := heach
  exact ⟨s', by rw [saveThings, forM_eq_ok hchecked, heach]⟩

lemma Sound.saveThings (h : s.Sound) (things : List Thing) : (s.saveThings things).2.Sound := by
  rcases hs : s.saveThings things with ⟨⟨e⟩ | ⟨saved⟩, s'⟩
  · rw [saveThings_error hs]
    exact h
  · obtain ⟨-, hadded, hchecked⟩ := saveThings_ok hs
    have hmem : ∀ {id : String} {t : Thing}, s'.things[id]? = some t ↔
        s.things[id]? = some t ∨ t ∈ things ∧ t.id = id := by
      intro id t
      rw [hadded.stored.getElem?_iff]
      simp only [List.mem_map, Prod.mk.injEq]
      grind
    have hkeys : ∀ {key id : String}, s'.thingKeys[key]? = some id ↔
        s.thingKeys[key]? = some id ∨ ∃ t ∈ things, t.key = key ∧ t.id = id := by
      intro key id
      rw [hadded.indexed.getElem?_iff]
      simp only [List.mem_map, Prod.mk.injEq]
    rw [hadded.rest]
    refine { h with thing_id := ?_, key_iff := ?_, key_ne_blank := ?_ }
    · intro id t ht
      rcases hmem.1 ht with ht | ⟨-, ht⟩
      · exact h.thing_id ht
      · exact ht
    · intro key id
      rw [hkeys, h.key_iff]
      constructor
      · rintro (⟨t, ht, hk⟩ | ⟨t, ht, hk, hid⟩)
        · exact ⟨t, hmem.2 (.inl ht), hk⟩
        · exact ⟨t, hmem.2 (.inr ⟨ht, hid⟩), hk⟩
      · rintro ⟨t, ht, hk⟩
        rcases hmem.1 ht with ht | ⟨ht, hid⟩
        · exact .inl ⟨t, ht, hk⟩
        · exact .inr ⟨t, ht, hk, hid⟩
    · intro id t ht
      rcases hmem.1 ht with ht | ⟨ht, -⟩
      · exact h.key_ne_blank ht
      · exact (checkThing_eq_ok_iff.1 (hchecked t ht)).2.1

/-! ## Changing -/

/-- A change that is refused leaves the store as it was. -/
lemma updateThing_error {e : StoreError} (h : s.updateThing t = (.error e, s')) : s' = s := by
  unfold updateThing at h
  split at h
  · simp at h
  · exact (congrArg Prod.snd h).symm

/-- A change keeps the identifier, the group and the key of the stored thing. -/
lemma updateThing_ok (h : s.updateThing t = (.ok (), s')) :
    ∃ stored, s.things[t.id]? = some stored ∧
      s' = { s with
        things := s.things.insert t.id
          { stored with name := t.name, profileId := t.profileId, metadata := t.metadata } } := by
  unfold updateThing at h
  split at h
  · rename_i hid
    obtain rfl := congrArg Prod.snd h
    have hstored := Std.ExtTreeMap.getElem?_eq_some_getElem hid
    exact ⟨s.things[t.id], hstored, by simp only [modify_eq_insert hstored]⟩
  · simp at h

/-- A thing may be replaced by another one with its identifier and its key. -/
lemma Sound.replaceThing (h : s.Sound) {stored new : Thing} (hs : s.things[id]? = some stored)
    (hid : new.id = stored.id) (hkey : new.key = stored.key) :
    { s with things := s.things.insert id new }.Sound := by
  refine { h with thing_id := ?_, key_iff := ?_, key_ne_blank := ?_ }
  · intro id' t ht
    have := h.thing_id hs
    have := @h.thing_id id' t
    grind
  · intro key id'
    rw [h.key_iff]
    simp only [Std.ExtTreeMap.getElem?_insert, Std.compare_eq_iff_eq]
    by_cases hi : id = id'
    · subst hi
      simp [hs, hkey]
    · simp [hi]
  · intro id' t ht
    have := h.key_ne_blank hs
    have := @h.key_ne_blank id' t
    grind

lemma Sound.updateThing (h : s.Sound) (t : Thing) : (s.updateThing t).2.Sound := by
  rcases hs : s.updateThing t with ⟨⟨e⟩ | ⟨⟩, s'⟩
  · rw [updateThing_error hs]
    exact h
  · obtain ⟨stored, hstored, rfl⟩ := updateThing_ok hs
    exact h.replaceThing hstored rfl rfl

/-! ## Giving another key -/

/-- A new key that is refused leaves the store as it was. -/
lemma updateKey_error {e : StoreError} (h : s.updateKey id key = (.error e, s')) : s' = s := by
  unfold updateKey at h
  split at h
  · exact (congrArg Prod.snd h).symm
  · split at h
    · exact (congrArg Prod.snd h).symm
    · split at h
      · simp at h
      · split at h
        · exact (congrArg Prod.snd h).symm
        · simp at h

/-- A thing either has the key already, or the key was free, and the old one is given up. -/
lemma updateKey_ok (hsound : s.Sound) (h : s.updateKey id key = (.ok (), s')) :
    Text.isBlank key = false ∧ ∃ stored, s.things[id]? = some stored ∧
      (stored.key = key ∧ s' = s ∨
        stored.key ≠ key ∧ key ∉ s.thingKeys ∧
          s' = { s with
            things := s.things.insert id { stored with key := key }
            thingKeys := (s.thingKeys.insert key id).erase stored.key }) := by
  unfold updateKey at h
  split at h
  · simp at h
  · rename_i hblank
    refine ⟨require_eq_ok_iff.1 hblank, ?_⟩
    split at h
    · simp at h
    · rename_i stored hstored
      refine ⟨stored, hstored, ?_⟩
      split at h
      · rename_i hkey
        exact .inl ⟨hkey, (congrArg Prod.snd h).symm⟩
      · rename_i hkey
        split at h
        · simp at h
        · rename_i hfree
          refine .inr ⟨hkey, hfree, ?_⟩
          have howner : s.thingKeys[stored.key]? = some id :=
            hsound.key_iff.2 ⟨stored, hstored, rfl⟩
          have howner' : (s.thingKeys.insert key id)[stored.key]? = some id := by
            simp [Std.ExtTreeMap.getElem?_insert, Ne.symm hkey, howner]
          obtain rfl := congrArg Prod.snd h
          simp only [howner', if_true, modify_eq_insert hstored]

lemma Sound.updateKey (h : s.Sound) (id key : String) : (s.updateKey id key).2.Sound := by
  rcases hs : s.updateKey id key with ⟨⟨e⟩ | ⟨⟩, s'⟩
  · rw [updateKey_error hs]
    exact h
  · obtain ⟨hblank, stored, hstored, ⟨-, rfl⟩ | ⟨hkey, hfree, rfl⟩⟩ := updateKey_ok h hs
    · exact h
    · have hnone : ∀ id', s.thingKeys[key]? ≠ some id' := by grind
      refine { h with thing_id := ?_, key_iff := ?_, key_ne_blank := ?_ }
      · intro id' t ht
        have := h.thing_id hstored
        have := @h.thing_id id' t
        grind
      · intro key' id'
        simp only [Std.ExtTreeMap.getElem?_erase, Std.ExtTreeMap.getElem?_insert,
          Std.compare_eq_iff_eq]
        -- the key that is asked about is the one given up, the new one or another
        by_cases hold : stored.key = key'
        · -- only the thing itself had the old key
          subst hold
          simp only [if_true, reduceCtorEq, false_iff, not_exists, not_and]
          intro t ht hk
          by_cases hi : id = id'
          · rw [if_pos hi] at ht
            obtain rfl := Option.some.inj ht
            exact hkey hk.symm
          · rw [if_neg hi] at ht
            exact hi (h.key_inj hstored ht hk.symm)
        · rw [if_neg hold]
          by_cases hnew : key = key'
          · subst hnew
            simp only [if_true, Option.some.injEq]
            constructor
            · rintro rfl
              exact ⟨{ stored with key := key }, by simp, rfl⟩
            · rintro ⟨t, ht, hk⟩
              by_contra hi
              rw [if_neg hi] at ht
              exact hnone id' (h.key_iff.2 ⟨t, ht, hk⟩)
          · rw [if_neg hnew, h.key_iff]
            by_cases hi : id = id'
            · subst hi
              simp [hstored, hold, hnew]
            · simp [hi]
      · intro id' t ht
        have := @h.key_ne_blank id' t
        grind

/-! ## Taking out -/

lemma things_eraseThing (id id' : String) (s : Store) :
    (s.eraseThing id).things[id']? = if id = id' then none else s.things[id']? := by
  unfold eraseThing
  split <;> grind

@[simp] lemma profiles_eraseThing (id : String) (s : Store) :
    (s.eraseThing id).profiles = s.profiles := by
  unfold eraseThing
  split <;> rfl

@[simp] lemma groups_eraseThing (id : String) (s : Store) :
    (s.eraseThing id).groups = s.groups := by
  unfold eraseThing
  split <;> rfl

@[simp] lemma memberships_eraseThing (id : String) (s : Store) :
    (s.eraseThing id).memberships = s.memberships := by
  unfold eraseThing
  split <;> rfl

lemma Sound.eraseThing (h : s.Sound) (id : String) : (s.eraseThing id).Sound := by
  have hthings := things_eraseThing id
  refine ⟨?_, ?_, ?_, fun hp => h.profile_id (by simpa using hp),
    fun hg => h.group_id (by simpa using hg), fun hm => h.membership_key (by simpa using hm)⟩
  · intro id' t ht
    have := @h.thing_id id' t
    grind
  · intro key id'
    rw [hthings]
    rcases hs : s.things[id]? with _ | stored
    · have hkeys : (Store.eraseThing id s).thingKeys = s.thingKeys := by simp [Store.eraseThing, hs]
      rw [hkeys, h.key_iff]
      by_cases hi : id = id'
      · subst hi
        simp [hs]
      · simp [hi]
    · have howner : s.thingKeys[stored.key]? = some id := h.key_iff.2 ⟨stored, hs, rfl⟩
      have hkeys : (Store.eraseThing id s).thingKeys = s.thingKeys.erase stored.key := by
        simp [Store.eraseThing, hs, howner]
      rw [hkeys, Std.ExtTreeMap.getElem?_erase]
      simp only [Std.compare_eq_iff_eq]
      -- the key of the thing is given up, and no other thing had it
      by_cases hk : stored.key = key
      · subst hk
        simp only [if_true, reduceCtorEq, false_iff, not_exists, not_and]
        intro t ht hk
        by_cases hi : id = id'
        · simp [hi] at ht
        · rw [if_neg hi] at ht
          exact hi (h.key_inj hs ht hk.symm)
      · rw [if_neg hk, h.key_iff]
        by_cases hi : id = id'
        · subst hi
          simp [hs, hk]
        · simp [hi]
  · intro id' t ht
    have := @h.key_ne_blank id' t
    grind

lemma things_removeThings (ids : List String) (s : Store) (id : String) :
    (s.removeThings ids).things[id]? = if id ∈ ids then none else s.things[id]? := by
  induction ids generalizing s with
  | nil => simp [removeThings]
  | cons i ids ih =>
    change ((s.eraseThing i).removeThings ids).things[id]? = _
    rw [ih, things_eraseThing]
    by_cases hi : i = id
    · simp [hi]
    · simp [hi, eq_comm (a := id)]

@[simp] lemma profiles_removeThings (ids : List String) (s : Store) :
    (s.removeThings ids).profiles = s.profiles := by
  induction ids generalizing s with
  | nil => rfl
  | cons i ids ih => exact (ih _).trans (profiles_eraseThing i s)

@[simp] lemma groups_removeThings (ids : List String) (s : Store) :
    (s.removeThings ids).groups = s.groups := by
  induction ids generalizing s with
  | nil => rfl
  | cons i ids ih => exact (ih _).trans (groups_eraseThing i s)

@[simp] lemma memberships_removeThings (ids : List String) (s : Store) :
    (s.removeThings ids).memberships = s.memberships := by
  induction ids generalizing s with
  | nil => rfl
  | cons i ids ih => exact (ih _).trans (memberships_eraseThing i s)

lemma Sound.removeThings (h : s.Sound) (ids : List String) : (s.removeThings ids).Sound := by
  induction ids generalizing s with
  | nil => exact h
  | cons i ids ih => exact ih (h.eraseThing i)

end DeviceFleet.Store
