/-
# The operations on profiles

What the operations that write profiles do: a failure leaves the records as they were, and a
success has an effect that was permitted.
-/
import DeviceFleet.Proofs.Service.Things
import DeviceFleet.Service.Profiles

namespace DeviceFleet.Service

open DeviceFleet.Action DeviceFleet.Access

variable {setting : Setting} {s t : State} {token id : String}

/-! ## Making profiles -/

lemma readOnly_prepareProfile (token : String) (p : Profile) :
    ReadOnly (prepareProfile token p) := by
  unfold prepareProfile
  refine ReadOnly.check ?_
  exact (readOnly_canAccessGroup token p.groupId .editor).bind fun _ =>
    (readOnly_orNewId p.id).bind fun _ => readOnly_pure _

/-- A profile that is prepared is in its group, which the caller may edit. -/
lemma ensures_prepareProfile (hs : s.Coherent) (p : Profile) :
    (prepareProfile token p).Ensures setting s
      (fun p' s' => s.Keeps s' ∧ Permits (Granted setting s s') token .group p'.groupId .editor ∧
        p'.groupId = p.groupId)
      (fun _ s' => s.Keeps s') := by
  unfold prepareProfile
  refine ensures_check (fun _ => .refl hs) fun _ => ?_
  refine (ensures_canAccess.mono_error fun _ s' h => h.keeps hs).bind
    fun _ s₁ ⟨hunchanged, hpermits⟩ => ?_
  have hk₁ : s.Keeps s₁ := hunchanged.keeps hs
  refine (((readOnly_orNewId p.id).ensures hk₁.coherent).mono_error
    fun _ s' h => hk₁.trans h).bind fun id s₂ hk₂ => ?_
  exact ensures_pure ⟨hk₁.trans hk₂, hpermits.later hk₂.precedes, rfl⟩

/-- A batch of prepared profiles. -/
lemma ensures_prepareProfiles (hs : s.Coherent) (profiles : List Profile) :
    (profiles.mapM (prepareProfile token)).Ensures setting s
      (fun prepared s' => s.Keeps s' ∧ ∀ p ∈ prepared,
        Permits (Granted setting s s') token .group p.groupId .editor ∧
          ∃ q ∈ profiles, p.groupId = q.groupId)
      (fun _ s' => s.Keeps s') := by
  refine ensures_mapM ⟨.refl hs, by simp⟩ fun done p s₁ hp ⟨hk₁, hdone⟩ => ?_
  refine (ensures_prepareProfile hk₁.coherent p).mono ?_ fun _ s' h => hk₁.trans h
  rintro p' s₂ ⟨hk₂, hpermits, hgroup⟩
  refine ⟨hk₁.trans hk₂, List.forall_mem_append.2 ⟨fun q hq => ?_, List.forall_mem_singleton.2 ?_⟩⟩
  · exact (hdone q hq).imp_left fun h => h.later hk₂.precedes
  · exact ⟨.earlier hk₁.precedes hpermits, p, hp, hgroup⟩

lemma ensures_createProfiles (hs : s.Coherent) (profiles : List Profile) :
    (createProfiles token profiles).Ensures setting s
      (fun _ s' => Follows setting (.createProfiles token profiles) s s')
      (fun _ s' => s.Keeps s') := by
  unfold createProfiles
  split
  · exact ensures_pure (.of_keeps (.refl hs))
  · refine (ensures_prepareProfiles hs profiles).bind fun prepared s₁ ⟨hk₁, hprepared⟩ => ?_
    refine ((ensures_storeBatch (f := fun s => s.saveProfiles prepared)
      fun _ _ => Store.saveProfiles_error).failing fun _ => hk₁).bind fun saved s₂ h₂ => ?_
    refine ensures_check ?_ fun _ => ?_
    · rintro rfl
      rcases h₂ with ⟨-, rfl, -⟩ | ⟨store, hsave, rfl⟩
      · exact hk₁
      · obtain ⟨rfl, -, -⟩ := Store.saveProfiles_ok hsave
        obtain rfl := congrArg Prod.snd hsave
        exact hk₁
    · have hfollows : Follows setting (.createProfiles token profiles) s s₂ := by
        rcases h₂ with ⟨-, rfl, -⟩ | ⟨store, hsave, rfl⟩
        · exact .of_keeps hk₁
        · obtain ⟨-, hadded, hchecked⟩ := Store.saveProfiles_ok hsave
          have hgains := Store.Gains.of_profiles hadded hchecked
          have hsound := (hk₁.coherent.sound.saveProfiles prepared).of_outcome hsave
          have hkept := hgains.kept hk₁.coherent.sound hsound rfl
          refine .of_change hk₁ (hk₁.coherent.change_of_kept hkept hsound) ?_
          exact .createProfiles prepared
            (fun p hp => (hprepared p hp).1.later (.of_eq rfl rfl))
            (fun p hp => (hprepared p hp).2) hgains
      refine (ensures_report (R := fun _ => Follows setting (.createProfiles token profiles) s)
        ?_).bind fun _ s₃ h₃ => ensures_pure h₃
      exact hfollows.report _

lemma couples_createProfiles (token : String) (profiles : List Profile) :
    Couples State.Coherent (createProfiles token profiles) := by
  unfold createProfiles
  split
  · exact (readOnly_pure []).couples
  · have hprepared : ReadOnly (profiles.mapM (prepareProfile token)) :=
      .mapM fun p _ => readOnly_prepareProfile token p
    refine hprepared.couples.bind_blind fun prepared => ?_
    refine (blind_storeBatch _ _).bind fun saved => ?_
    exact Couples.check ((blind_report _ _ _ _).bind fun _ => blind_pure saved)

/-! ## Changing profiles -/

lemma ensures_updateProfile (hs : s.Coherent) (p : Profile) :
    (updateProfile token p).Ensures setting s
      (fun _ s' => Follows setting (.updateProfile token p) s s') (fun _ s' => s.Keeps s') := by
  refine (ensures_canAccessProfile hs).bind fun _ s₁ ⟨hk₁, _, g, hown, hpermits⟩ => ?_
  refine (ensures_change (f := fun s => s.updateProfile p)
    fun _ _ => Store.updateProfile_error).mono ?_ ?_
  · rintro _ s' ⟨store, hupdate, rfl⟩
    have hsound := (hk₁.coherent.sound.updateProfile p).of_outcome hupdate
    have hcoherent := hk₁.coherent.change_of_kept (Store.kept_updateProfile hupdate) hsound
    obtain ⟨stored, hstored, rfl⟩ := Store.updateProfile_ok hupdate
    obtain ⟨stored', hstored', rfl⟩ := hown
    rw [← hk₁.store] at hstored'
    obtain rfl := Option.some.inj (hstored.symm.trans hstored')
    exact .of_change hk₁ hcoherent (.updateProfile hstored (hpermits.later (.of_eq rfl rfl)))
  · rintro - s' rfl
    exact hk₁

lemma couples_updateProfile (token : String) (p : Profile) :
    Couples State.Coherent (updateProfile token p) :=
  (readOnly_canAccessProfile token p.id .editor).couples.bind_blind fun _ => blind_change _ _

/-! ## Taking out profiles -/

lemma readOnly_forgetProfile (token id : String) : ReadOnly (forgetProfile token id) :=
  (readOnly_canAccessProfile token id .editor).bind fun _ => readOnly_forgetProfileGroup id

/-- The cache is made to forget the profile after the permission was looked up in it. -/
lemma ensures_forgetProfile (hs : s.Coherent) {gone : String → Prop}
    (havoid : ∀ {c}, s.caches.profiles = .memory c → c.Avoids gone) :
    (forgetProfile token id).Ensures setting s
      (fun _ s' => s.Keeps s' ∧
        (∀ {c}, s'.caches.profiles = .memory c → c.Avoids fun id' => gone id' ∨ id' = id) ∧
        ∃ g, s.store.OwnsProfile id g ∧ Permits (Granted setting s s') token .group g .editor)
      (fun _ s' => s.Keeps s') := by
  refine (ensures_canAccessProfile hs).bind fun _ s₁ ⟨hk₁, hcaches, g, hown, hpermits⟩ => ?_
  obtain ⟨c, hc, hmirrors⟩ := hk₁.coherent.mirrors.profiles
  -- nothing but the profile itself may have been remembered anew
  have hspared : c.Avoids fun id' => gone id' ∧ id' ≠ id := by
    rcases hcaches with hsame | ⟨g', hsaved⟩
    · rw [hsame] at hc
      exact (havoid hc).anti fun _ h => h.1
    · obtain ⟨c₀, hc₀, -⟩ := hs.mirrors.profiles
      rw [hsaved, withProfileGroup, hc₀] at hc
      obtain rfl := Lookaside.memory.inj hc
      exact (havoid hc₀).saveGroup id g'
  refine ((readOnly_forgetProfileGroup id).ensures_changeProfileCache hk₁.coherent hc).mono_ok ?_
  rintro - s₂ ⟨hk₂, hs₂⟩
  refine ⟨hk₁.trans hk₂, fun {c'} hc' => ?_, g, hown, hpermits.later hk₂.precedes⟩
  rw [hs₂] at hc'
  obtain rfl := Lookaside.memory.inj hc'
  exact hspared.forgetGroup fun _ hk => hmirrors.names_of hk

lemma ensures_removeProfiles (hs : s.Coherent) (ids : List String) :
    (removeProfiles token ids).Ensures setting s
      (fun _ s' => Follows setting (.removeProfiles token ids) s s' ∧
        ∃ walk, s.store.removeProfiles walk ids = (.ok (), s'.store))
      (fun _ s' => s.Keeps s') := by
  refine (ensures_forgetEach (fun _ hs havoid => ensures_forgetProfile hs havoid) hs ids).bind
    fun _ s₁ ⟨hk₁, havoid, hpermitted⟩ => ?_
  have hchange : (changeAlong .removeProfiles fun walk s => s.removeProfiles walk ids).Ensures
      setting s₁ _ _ := ensures_changeAlong fun _ _ _ => Store.removeProfiles_error
  refine (hchange.failing fun _ => hk₁).bind fun _ s₂ ⟨walk, store, hremove, hs₂⟩ => ?_
  subst hs₂
  have hcoherent := hk₁.coherent.change
    ⟨fun _ => .of_forall_not fun _ h => h, havoid, fun _ _ _ _ _ _ h => h⟩
    (Store.keptBut_removeProfiles hremove)
    ((hk₁.coherent.sound.removeProfiles walk ids).of_outcome hremove)
  have hfollows : Follows setting (.removeProfiles token ids) s { s₁ with store := store } := by
    refine .of_change hk₁ hcoherent (.removeProfiles (fun id hid => ?_) hremove)
    obtain ⟨g, hown, hpermits⟩ := hpermitted id hid
    exact ⟨g, hk₁.store ▸ hown, hpermits.later (.of_eq rfl rfl)⟩
  exact ensures_report ⟨hfollows.report _, walk, hk₁.store ▸ hremove⟩

/-- The answer refuses to take out the profiles because a thing uses the one that it names. -/
def RefusesUsed {α : Type} (s : Store) (ids : List String) (answer : Except ServiceError α) :
    Prop :=
  ∃ p ∈ ids, s.Uses p ∧ answer = .error (.profileAssigned p)

/-- The answers of two services, the first of which keeps these records, are the same.  Only on
other walks a refusal to take out profiles may name another one that is in use. -/
def SameButUsed {α : Type} (walks walks' : Nat → Store.Walk) (s : Store) (ids : List String)
    (on off : Except ServiceError α) : Prop :=
  on = off ∨ walks ≠ walks' ∧ RefusesUsed s ids on ∧ RefusesUsed s ids off

/-- Taking out profiles that are forgotten already, and what goes on when they are out. -/
lemma twin_eraseProfiles {next : Unit → Action Unit} (hnext : Blind (next ()))
    (ids : List String) (walks : Nat → Store.Walk) (hfaults : setting.faults = [])
    (htwin : s.Twin t) :
    let x := changeAlong .removeProfiles (fun walk s => s.removeProfiles walk ids) >>= next
    SameButUsed setting.walks walks s.store ids (x setting s).1
        (x { setting with walks := walks } t).1 ∧
      (x setting s).2.Twin (x { setting with walks := walks } t).2 := by
  intro x
  have hcases := Store.removeProfiles_cases s.store ids
  have hstore : ∀ walk walk',
      (s.store.removeProfiles walk ids).2 = (s.store.removeProfiles walk' ids).2 := by
    intro walk walk'
    rcases hcases with hremoved | hused
    · rw [hremoved, hremoved]
    · obtain ⟨_, -, -, h⟩ := hused walk
      obtain ⟨_, -, -, h'⟩ := hused walk'
      rw [h, h']
  obtain ⟨hon, hoff, htwin'⟩ := twin_changeAlong .removeProfiles
    (fun walk s => s.removeProfiles walk ids) walks hfaults htwin hstore
  rcases hcases with hremoved | hused
  · rw [hremoved] at hon hoff
    simp only [x]
    rw [run_bind_ok (Prod.ext hon rfl), run_bind_ok (Prod.ext hoff rfl)]
    exact ⟨.inl (hnext walks hfaults htwin' trivial).1, (hnext walks hfaults htwin' trivial).2⟩
  · obtain ⟨p, hp, hpuses, hpe⟩ := hused (setting.walks s.calls)
    obtain ⟨p', hp', hpuses', hpe'⟩ := hused (walks s.calls)
    have hsame : setting.walks = walks → p = p' := by
      rintro rfl
      simpa using hpe.symm.trans hpe'
    rw [hpe] at hon
    rw [hpe'] at hoff
    simp only [x]
    rw [run_bind_error (Prod.ext hon rfl), run_bind_error (Prod.ext hoff rfl)]
    refine ⟨?_, htwin'⟩
    by_cases hwalks : setting.walks = walks
    · exact .inl (by rw [hsame hwalks])
    · exact .inr ⟨hwalks, ⟨p, hp, hpuses, rfl⟩, p', hp', hpuses', rfl⟩

/-- Whether the caches are turned on makes no difference to whether profiles are taken out. -/
lemma twin_removeProfiles (token : String) (ids : List String) (walks : Nat → Store.Walk)
    (hfaults : setting.faults = []) (htwin : s.Twin t) (hs : s.Coherent) :
    SameButUsed setting.walks walks s.store ids (removeProfiles token ids setting s).1
        (removeProfiles token ids { setting with walks := walks } t).1 ∧
      (removeProfiles token ids setting s).2.Twin
        (removeProfiles token ids { setting with walks := walks } t).2 := by
  have hforget : ReadOnly (ids.forM (forgetProfile token)) :=
    .forM fun id _ => readOnly_forgetProfile token id
  have hstore : (ids.forM (forgetProfile token) setting s).2.store = s.store :=
    (hforget.keeps hs).store
  obtain ⟨hresult, htwin'⟩ := hforget.couples walks hfaults htwin hs
  rcases hon : ids.forM (forgetProfile token) setting s with ⟨r, s'⟩
  rcases hoff : ids.forM (forgetProfile token) { setting with walks := walks } t with ⟨r', t'⟩
  rw [hon, hoff] at hresult htwin'
  rw [hon] at hstore
  obtain rfl : r = r' := hresult
  simp only [removeProfiles]
  rcases r with e | ⟨⟩
  · rw [run_bind_error hon, run_bind_error hoff]
    exact ⟨.inl rfl, htwin'⟩
  · rw [run_bind_ok hon, run_bind_ok hoff, ← hstore]
    exact twin_eraseProfiles (blind_report _ _ _ _) ids walks hfaults htwin'

end DeviceFleet.Service
