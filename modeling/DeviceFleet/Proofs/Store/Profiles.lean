/-
# Changes of profiles

What each request that changes profiles does to a sound store, stated by look-ups.
-/
import DeviceFleet.Proofs.Store.Sound

namespace DeviceFleet.Store

variable {s s' : Store} {p : Profile} {id : String}

/-! ## Saving -/

lemma checkProfile_eq_ok_iff :
    checkProfile p = .ok () ↔ Text.isBlank p.id = false ∧ Text.isBlank p.groupId = false := by
  simp only [checkProfile, seq_eq_ok_iff, require_eq_ok_iff]

lemma insertProfile_ok (h : insertProfile p s = (.ok (), s')) :
    p.id ∉ s.profiles ∧ s' = { s with profiles := s.profiles.insert p.id p } := by
  unfold insertProfile at h
  split at h
  · simp at h
  · rename_i hid
    exact ⟨hid, (congrArg Prod.snd h).symm⟩

lemma insertProfile_eq_ok (hid : p.id ∉ s.profiles) :
    insertProfile p s = (.ok (), { s with profiles := s.profiles.insert p.id p }) :=
  if_neg hid

lemma insertProfile_error {e : StoreError} (h : insertProfile p s = (.error e, s')) : s' = s := by
  unfold insertProfile at h
  split at h
  · exact (congrArg Prod.snd h).symm
  · simp at h

lemma undoes_profiles :
    Undoes insertProfile (fun p => eraseProfile p.id) Profile.id (fun s id => id ∈ s.profiles) where
  refused := insertProfile_error
  back {p s s'} h := by
    obtain ⟨hid, rfl⟩ := insertProfile_ok h
    have hprofiles : (s.profiles.insert p.id p).erase p.id = s.profiles := by
      apply Std.ExtTreeMap.ext_getElem?
      grind
    simp [eraseProfile, hprofiles]
  swap {p q s s'} hne h := by
    obtain ⟨hid, rfl⟩ := insertProfile_ok h
    have hprofiles :
        (s.profiles.insert p.id p).erase q.id = (s.profiles.erase q.id).insert p.id p := by
      apply Std.ExtTreeMap.ext_getElem?
      grind
    have hid' : p.id ∉ s.profiles.erase q.id := by grind
    simp [insertProfile, eraseProfile, hid', hprofiles]
  free h := (insertProfile_ok h).1
  taken_iff {p s s' id} h := by
    obtain ⟨-, rfl⟩ := insertProfile_ok h
    simp only [Std.ExtTreeMap.mem_insert, Std.compare_eq_iff_eq]
    tauto

/-- The store `s'` is `s` with some profiles added. -/
structure ProfilesAdded (s : Store) (profiles : List Profile) (s' : Store) : Prop where
  /-- The profiles are added. -/
  stored : Added s.profiles (profiles.map fun p => (p.id, p)) s'.profiles
  /-- Nothing else changes. -/
  rest : s' = { s with profiles := s'.profiles }

lemma ProfilesAdded.insertProfile {s₀ : Store} {profiles : List Profile}
    (h : ProfilesAdded s₀ profiles s) (hp : insertProfile p s = (.ok (), s')) :
    ProfilesAdded s₀ (p :: profiles) s' := by
  obtain ⟨hid, rfl⟩ := insertProfile_ok hp
  refine ⟨h.stored.cons hid, ?_⟩
  rw [h.rest]

/-- A refused batch of profiles leaves the store as it was. -/
lemma saveProfiles_error {profiles : List Profile} {e : StoreError}
    (h : s.saveProfiles profiles = (.error e, s')) : s' = s := by
  unfold saveProfiles at h
  split at h
  · exact (congrArg Prod.snd h).symm
  · split at h
    · simp at h
    · rename_i heach
      obtain rfl := congrArg Prod.snd h
      exact undoes_profiles.insertEach_error heach

/-- An accepted batch of profiles adds exactly these, and every one of them has passed its check. -/
lemma saveProfiles_ok {profiles saved : List Profile}
    (h : s.saveProfiles profiles = (.ok saved, s')) :
    saved = profiles ∧ ProfilesAdded s profiles s' ∧ ∀ p ∈ profiles, checkProfile p = .ok () := by
  unfold saveProfiles at h
  split at h
  · simp at h
  · rename_i hcheck
    split at h
    · rename_i heach
      obtain ⟨hsaved, rfl⟩ := Prod.mk.inj h
      have hadded := insertEach_ok (motive := ProfilesAdded s)
        (fun _ _ _ _ hadded hp => hadded.insertProfile hp) ⟨.refl _, rfl⟩ heach
      rw [List.append_nil] at hadded
      exact ⟨(Except.ok.inj hsaved).symm, ⟨hadded.stored.congr (by simp), hadded.rest⟩,
        forM_ok hcheck⟩
    · simp at h

/-- A batch of profiles is accepted when they pass their checks and no identifier is used twice,
in the store or in the batch. -/
lemma saveProfiles_eq_ok {profiles : List Profile}
    (hchecked : ∀ p ∈ profiles, checkProfile p = .ok ()) (hfree : ∀ p ∈ profiles, p.id ∉ s.profiles)
    (hdistinct : profiles.Pairwise fun p q => p.id ≠ q.id) :
    ∃ s', s.saveProfiles profiles = (.ok profiles, s') := by
  have hstep : ∀ {saved : List Profile} {p : Profile} {s₁ : Store}, ProfilesAdded s saved s₁ →
      p.id ∉ s.profiles → (∀ q ∈ saved, q.id ≠ p.id) →
      ∃ s', insertProfile p s₁ = (.ok (), s') ∧ ProfilesAdded s (p :: saved) s' := by
    intro saved p s₁ hadded hid hne
    have hid₁ : p.id ∉ s₁.profiles := by
      simp only [hadded.stored.mem_iff, List.mem_map, Prod.mk.injEq]
      grind
    have hinsert := insertProfile_eq_ok hid₁
    exact ⟨_, hinsert, hadded.insertProfile hinsert⟩
  have heach : ∃ s',
      insertEach insertProfile (fun p => eraseProfile p.id) [] profiles s = (.ok (), s') :=
    insertEach_eq_ok (motive := ProfilesAdded s) hstep ⟨.refl _, rfl⟩ hfree hdistinct
      fun _ _ => List.forall_mem_nil _
  obtain ⟨s', heach⟩ := heach
  exact ⟨s', by rw [saveProfiles, forM_eq_ok hchecked, heach]⟩

lemma Sound.saveProfiles (h : s.Sound) (profiles : List Profile) :
    (s.saveProfiles profiles).2.Sound := by
  rcases hs : s.saveProfiles profiles with ⟨⟨e⟩ | ⟨saved⟩, s'⟩
  · rw [saveProfiles_error hs]
    exact h
  · obtain ⟨-, hadded, -⟩ := saveProfiles_ok hs
    rw [hadded.rest]
    refine { h with profile_id := ?_ }
    intro id p hp
    rcases hadded.stored.getElem?_iff.1 hp with hp | hp
    · exact h.profile_id hp
    · simp only [List.mem_map, Prod.mk.injEq] at hp
      obtain ⟨q, -, rfl, rfl⟩ := hp
      rfl

/-! ## Changing -/

/-- A change that is refused leaves the store as it was. -/
lemma updateProfile_error {e : StoreError} (h : s.updateProfile p = (.error e, s')) : s' = s := by
  unfold updateProfile at h
  split at h
  · simp at h
  · exact (congrArg Prod.snd h).symm

/-- A change keeps the identifier and the group of the stored profile. -/
lemma updateProfile_ok (h : s.updateProfile p = (.ok (), s')) :
    ∃ stored, s.profiles[p.id]? = some stored ∧
      s' = { s with
        profiles := s.profiles.insert p.id
          { stored with name := p.name, config := p.config, metadata := p.metadata } } := by
  unfold updateProfile at h
  split at h
  · rename_i hid
    obtain rfl := congrArg Prod.snd h
    have hstored := Std.ExtTreeMap.getElem?_eq_some_getElem hid
    exact ⟨s.profiles[p.id], hstored, by simp only [modify_eq_insert hstored]⟩
  · simp at h

lemma Sound.updateProfile (h : s.Sound) (p : Profile) : (s.updateProfile p).2.Sound := by
  rcases hs : s.updateProfile p with ⟨⟨e⟩ | ⟨⟩, s'⟩
  · rw [updateProfile_error hs]
    exact h
  · obtain ⟨stored, hstored, rfl⟩ := updateProfile_ok hs
    refine { h with profile_id := ?_ }
    intro id q hq
    have := h.profile_id hstored
    have := @h.profile_id id q
    grind

/-! ## Taking out -/

lemma foldl_eraseProfile (ids : List String) (s : Store) :
    ids.foldl (fun s id => s.eraseProfile id) s =
      { s with profiles := ids.foldl (fun m id => m.erase id) s.profiles } := by
  induction ids generalizing s with
  | nil => rfl
  | cons i ids ih => exact ih (s.eraseProfile i)

/-- On every walk each thing comes. -/
lemma mem_thingsAlong_iff {walk : Walk} {t : Thing} :
    t ∈ s.thingsAlong walk ↔ ∃ id : String, s.things[id]? = some t := by
  rw [thingsAlong, List.mem_filterMap]
  refine exists_congr fun id => and_iff_right_of_imp fun ht => ?_
  rw [(walk.perm _).mem_iff, Std.ExtTreeMap.mem_keys, Std.ExtTreeMap.mem_iff_isSome_getElem?, ht]
  rfl

/-- A thing uses the profile. -/
def Uses (s : Store) (profileId : String) : Prop :=
  ∃ (id : String) (t : Thing), s.things[id]? = some t ∧ t.profileId = profileId

/-- Whether profiles are taken out does not depend on the walk.  But of several profiles that are
in use, the walk decides which one the refusal names. -/
lemma removeProfiles_cases (s : Store) (ids : List String) :
    (∀ walk, s.removeProfiles walk ids =
        (.ok (), ids.foldl (fun s id => s.eraseProfile id) s)) ∨
      ∀ walk, ∃ p ∈ ids, s.Uses p ∧
        s.removeProfiles walk ids = (.error (.profileAssigned p), s) := by
  by_cases hused : ∃ (id : String) (t : Thing), s.things[id]? = some t ∧ t.profileId ∈ ids
  · refine .inr fun walk => ?_
    obtain ⟨id, t, ht, hmem⟩ := hused
    have hfound : ((s.thingsAlong walk).find? fun t => ids.contains t.profileId).isSome := by
      rw [List.find?_isSome]
      exact ⟨t, mem_thingsAlong_iff.2 ⟨id, ht⟩, by simpa using hmem⟩
    obtain ⟨u, hu⟩ := Option.isSome_iff_exists.1 hfound
    obtain ⟨id', hu'⟩ := mem_thingsAlong_iff.1 (List.mem_of_find?_eq_some hu)
    refine ⟨u.profileId, by simpa using List.find?_some hu, ⟨id', u, hu', rfl⟩, ?_⟩
    rw [removeProfiles, hu]
  · refine .inl fun walk => ?_
    have hnone : (s.thingsAlong walk).find? (fun t => ids.contains t.profileId) = none := by
      rw [List.find?_eq_none]
      intro t ht hmem
      obtain ⟨id, ht⟩ := mem_thingsAlong_iff.1 ht
      exact hused ⟨id, t, ht, by simpa using hmem⟩
    rw [removeProfiles, hnone]

/-- Profiles that are in use are not taken out, and neither are the others with them. -/
lemma removeProfiles_error {walk : Walk} {ids : List String} {e : StoreError}
    (h : s.removeProfiles walk ids = (.error e, s')) : s' = s := by
  unfold removeProfiles at h
  split at h
  · exact (congrArg Prod.snd h).symm
  · simp at h

/-- Profiles are taken out only when no thing uses one of them. -/
lemma removeProfiles_ok {walk : Walk} {ids : List String}
    (h : s.removeProfiles walk ids = (.ok (), s')) :
    (∀ {id : String} {t : Thing}, s.things[id]? = some t → t.profileId ∉ ids) ∧
      s' = { s with profiles := s'.profiles } ∧
      ∀ id : String, s'.profiles[id]? = if id ∈ ids then none else s.profiles[id]? := by
  unfold removeProfiles at h
  split at h
  · simp at h
  · rename_i hunused
    obtain rfl := congrArg Prod.snd h
    rw [List.find?_eq_none] at hunused
    refine ⟨?_, ?_, ?_⟩
    · intro id t ht hmem
      exact hunused t (mem_thingsAlong_iff.2 ⟨id, ht⟩) (by simpa using hmem)
    · rw [foldl_eraseProfile]
    · intro id
      rw [foldl_eraseProfile]
      exact getElem?_foldl_erase ids s.profiles id

lemma Sound.removeProfiles (h : s.Sound) (walk : Walk) (ids : List String) :
    (s.removeProfiles walk ids).2.Sound := by
  rcases hs : s.removeProfiles walk ids with ⟨⟨e⟩ | ⟨⟩, s'⟩
  · rw [removeProfiles_error hs]
    exact h
  · obtain ⟨-, hrest, hprofiles⟩ := removeProfiles_ok hs
    rw [hrest]
    refine { h with profile_id := ?_ }
    intro id p hp
    have := @h.profile_id id p
    grind

end DeviceFleet.Store
