/-
# The operations on things

What the operations that write things do: a failure leaves the records as they were, except that
of a merge of metadata, and a success has an effect that was permitted.
-/
import DeviceFleet.Proofs.Service.Effect

namespace DeviceFleet.Service

open DeviceFleet.Action DeviceFleet.Access

variable {setting : Setting} {s : State} {token id key groupId profileId : String}

/-! ## Making things -/

lemma readOnly_ensureProfileInGroup (profileId groupId : String) :
    ReadOnly (ensureProfileInGroup profileId groupId) := by
  refine (readOnly_groupIdOfProfile profileId).bind fun owner => ?_
  split
  · exact (readOnly_report _ _ _ _).bind fun _ => readOnly_throw _
  · exact readOnly_pure ()

/-- The check that a profile belongs to a group is about the store, though a cache may answer. -/
lemma ensures_ensureProfileInGroup (hs : s.Coherent) :
    (ensureProfileInGroup profileId groupId).Ensures setting s
      (fun _ s' => s.Keeps s' ∧ s.store.OwnsProfile profileId groupId)
      (fun _ s' => s.Keeps s') := by
  refine ((resolved_groupIdOfProfile setting hs profileId).ensures hs).bind
    fun owner s₁ ⟨hk₁, _, howner⟩ => ?_
  split
  · refine (ensures_report (R := fun _ s' => s.Keeps s') ?_).bind fun _ s₂ h₂ => ensures_throw h₂
    exact hk₁.trans ((unchanged_report _ _ _ _ setting s₁).keeps hk₁.coherent)
  · rename_i hsame
    rw [not_not] at hsame
    exact ensures_pure ⟨hk₁, hsame ▸ Store.findProfile_map_eq_ok_iff.1 howner⟩

lemma readOnly_orNewId (id : String) : ReadOnly (orNewId id) := by
  unfold orNewId
  split
  · exact readOnly_newId
  · exact readOnly_pure id

lemma readOnly_prepareThing (token : String) (t : Thing) : ReadOnly (prepareThing token t) := by
  unfold prepareThing
  refine ReadOnly.check ?_
  refine ReadOnly.check ?_
  exact (readOnly_canAccessGroup token t.groupId .editor).bind fun _ =>
    (readOnly_ensureProfileInGroup t.profileId t.groupId).bind fun _ =>
      (readOnly_orNewId t.id).bind fun _ => (readOnly_orNewId t.key).bind fun _ => readOnly_pure _

/-- A thing that is prepared is in a group that the caller may edit and that owns its profile. -/
lemma ensures_prepareThing (hs : s.Coherent) (t : Thing) :
    (prepareThing token t).Ensures setting s
      (fun t' s' => s.Keeps s' ∧ Permits (Granted setting s s') token .group t'.groupId .editor ∧
        s.store.OwnsProfile t'.profileId t'.groupId)
      (fun _ s' => s.Keeps s') := by
  unfold prepareThing
  refine ensures_check (fun _ => .refl hs) fun _ => ?_
  refine ensures_check (fun _ => .refl hs) fun _ => ?_
  refine (ensures_canAccess.mono_error fun _ s' h => h.keeps hs).bind fun _ s₁ h₁ => ?_
  have hk₁ : s.Keeps s₁ := h₁.1.keeps hs
  refine ((ensures_ensureProfileInGroup hk₁.coherent).mono_error
    fun _ s' h => hk₁.trans h).bind fun _ s₂ h₂ => ?_
  have hk₂ : s.Keeps s₂ := hk₁.trans h₂.1
  refine (((readOnly_orNewId t.id).ensures hk₂.coherent).mono_error
    fun _ s' h => hk₂.trans h).bind fun id s₃ h₃ => ?_
  refine (((readOnly_orNewId t.key).ensures h₃.coherent).mono_error
    fun _ s' h => hk₂.trans (h₃.trans h)).bind fun key s₄ h₄ => ?_
  have hlater := h₂.1.precedes.trans (h₃.precedes.trans h₄.precedes)
  exact ensures_pure ⟨hk₂.trans (h₃.trans h₄), h₁.2.later hlater, hk₁.store ▸ h₂.2⟩

/-- A batch of prepared things. -/
lemma ensures_prepareThings (hs : s.Coherent) (things : List Thing) :
    (things.mapM (prepareThing token)).Ensures setting s
      (fun prepared s' => s.Keeps s' ∧ ∀ t ∈ prepared,
        Permits (Granted setting s s') token .group t.groupId .editor ∧
          s.store.OwnsProfile t.profileId t.groupId)
      (fun _ s' => s.Keeps s') := by
  refine ensures_mapM ⟨.refl hs, by simp⟩ fun done t s₁ _ ⟨hk₁, hdone⟩ => ?_
  refine (ensures_prepareThing hk₁.coherent t).mono ?_ fun _ s' h => hk₁.trans h
  rintro t' s₂ ⟨hk₂, hpermits, hprofile⟩
  refine ⟨hk₁.trans hk₂, List.forall_mem_append.2 ⟨fun u hu => ?_, List.forall_mem_singleton.2 ?_⟩⟩
  · obtain ⟨hpermits', hprofile'⟩ := hdone u hu
    exact ⟨hpermits'.later hk₂.precedes, hprofile'⟩
  · exact ⟨.earlier hk₁.precedes hpermits, hk₁.store ▸ hprofile⟩

lemma ensures_createThings (hs : s.Coherent) (things : List Thing) :
    (createThings token things).Ensures setting s
      (fun _ s' => Follows setting (.createThings token things) s s') (fun _ s' => s.Keeps s') := by
  unfold createThings
  split
  · exact ensures_pure (.of_keeps (.refl hs))
  · refine (ensures_prepareThings hs things).bind fun prepared s₁ h₁ => ?_
    refine ((ensures_storeBatch (f := fun s => s.saveThings prepared)
      fun _ _ => Store.saveThings_error).failing fun _ => h₁.1).bind fun saved s₂ h₂ => ?_
    refine ensures_check ?_ fun _ => ?_
    · -- the batch was empty, or the store has not stored it
      rintro rfl
      rcases h₂ with ⟨-, rfl, -⟩ | ⟨store, hsave, rfl⟩
      · exact h₁.1
      · obtain ⟨rfl, -, -⟩ := Store.saveThings_ok hsave
        obtain rfl := congrArg Prod.snd hsave
        exact h₁.1
    · have hfollows : Follows setting (.createThings token things) s s₂ := by
        rcases h₂ with ⟨-, rfl, -⟩ | ⟨store, hsave, rfl⟩
        · exact .of_keeps h₁.1
        · obtain ⟨-, hadded, hchecked⟩ := Store.saveThings_ok hsave
          have hgains := Store.Gains.of_things hadded hchecked
          have hsound := (h₁.1.coherent.sound.saveThings prepared).of_outcome hsave
          have hkept := hgains.kept h₁.1.coherent.sound hsound rfl
          refine .of_change h₁.1 (h₁.1.coherent.change_of_kept hkept hsound) ?_
          exact .createThings prepared (fun t ht => (h₁.2 t ht).1.later (.of_eq rfl rfl))
            (fun t ht => h₁.1.store ▸ (h₁.2 t ht).2) hgains
      refine (ensures_report (R := fun _ => Follows setting (.createThings token things) s)
        ?_).bind fun _ s₃ h₃ => ensures_pure h₃
      exact hfollows.report _

lemma couples_createThings (token : String) (things : List Thing) :
    Couples State.Coherent (createThings token things) := by
  unfold createThings
  split
  · exact (readOnly_pure []).couples
  · have hprepared : ReadOnly (things.mapM (prepareThing token)) :=
      .mapM fun t _ => readOnly_prepareThing token t
    refine hprepared.couples.bind_blind fun prepared => ?_
    refine (blind_storeBatch _ _).bind fun saved => ?_
    exact Couples.check ((blind_report _ _ _ _).bind fun _ => blind_pure saved)

/-! ## Changing things -/

/-- A thing in a group that the caller may edit. -/
lemma ensures_canEditThing (hs : s.Coherent) :
    (canAccessThing token id .editor).Ensures setting s
      (fun _ s' => s.Keeps s' ∧ ∃ stored : Thing, s.store.things[id]? = some stored ∧
        Permits (Granted setting s s') token .group stored.groupId .editor)
      (fun _ s' => s.Keeps s') := by
  refine (ensures_canAccessThing hs).mono_ok ?_
  rintro - s' ⟨hkeeps, -, g, ⟨stored, hstored, rfl⟩, hpermits⟩
  exact ⟨hkeeps, stored, hstored, hpermits⟩

lemma ensures_updateThing (hs : s.Coherent) (t : Thing) :
    (updateThing token t).Ensures setting s
      (fun _ s' => Follows setting (.updateThing token t) s s') (fun _ s' => s.Keeps s') := by
  refine (ensures_canEditThing hs).bind fun _ s₁ ⟨hk₁, stored, hstored, hpermits⟩ => ?_
  have hgroup : (groupIdOfThing t.id).Ensures setting s₁
      (fun g s' => s.Keeps s' ∧ s₁.Precedes s' ∧ g = stored.groupId) (fun _ s' => s.Keeps s') := by
    refine ((resolved_groupIdOfThing setting hk₁.coherent t.id).ensures hk₁.coherent).mono ?_
      fun _ _ h => hk₁.trans h
    rintro g s' ⟨hk₂, -, hg⟩
    -- the group that is found now is the one that the permission was about
    obtain ⟨t', ht', rfl⟩ := Store.findThing_map_eq_ok_iff.1 hg
    rw [hk₁.store] at ht'
    obtain rfl := Option.some.inj (hstored.symm.trans ht')
    exact ⟨hk₁.trans hk₂, hk₂.precedes, rfl⟩
  refine hgroup.bind fun g s₂ ⟨hk₂, hlater, hg⟩ => ?_
  subst hg
  refine ((ensures_ensureProfileInGroup hk₂.coherent).mono_error
    fun _ s' h => hk₂.trans h).bind fun _ s₃ ⟨hk, hprofile⟩ => ?_
  have hk₃ := hk₂.trans hk
  refine (ensures_change (f := fun s => s.updateThing t)
    fun _ _ => Store.updateThing_error).mono ?_ ?_
  · rintro _ s' ⟨store, hupdate, rfl⟩
    have hsound := (hk₃.coherent.sound.updateThing t).of_outcome hupdate
    have hcoherent := hk₃.coherent.change_of_kept (Store.kept_updateThing hupdate) hsound
    obtain ⟨stored', hstored', rfl⟩ := Store.updateThing_ok hupdate
    rw [← hk₃.store] at hstored
    obtain rfl := Option.some.inj (hstored.symm.trans hstored')
    refine .of_change hk₃ hcoherent (.updateThing hstored ?_ (hk.store ▸ hprofile))
    exact hpermits.later (hlater.trans (hk.precedes.trans (.of_eq rfl rfl)))
  · rintro - s' rfl
    exact hk₃

lemma couples_updateThing (token : String) (t : Thing) :
    Couples State.Coherent (updateThing token t) := by
  have hread : ReadOnly (canAccessThing token t.id .editor >>= fun _ =>
      groupIdOfThing t.id >>= fun g => ensureProfileInGroup t.profileId g) :=
    (readOnly_canAccessThing token t.id .editor).bind fun _ =>
      (readOnly_groupIdOfThing t.id).bind fun g => readOnly_ensureProfileInGroup t.profileId g
  have hchange := hread.couples.bind_blind fun _ =>
    blind_change .updateThing fun s => s.updateThing t
  simpa only [updateThing, bind_assoc] using hchange

/-! ## Merging metadata -/

/-- A merge changes the metadata of one thing, or nothing. -/
lemma ensures_mergeMetadata (hs : s.Coherent) (t : Thing) :
    (mergeMetadata token t).Ensures setting s
      (fun _ s' => s'.Coherent ∧ s.Precedes s' ∧ ∃ current,
        s.store.things[t.id]? = some current ∧
        Permits (Granted setting s s') token .group current.groupId .editor ∧
        s'.store = { s.store with
          things := s.store.things.insert t.id
            { current with metadata := current.metadata.merge t.metadata } })
      (fun _ s' => s.Keeps s') := by
  refine (ensures_canEditThing hs).bind fun _ s₁ ⟨hk₁, stored, hstored, hpermits⟩ => ?_
  refine (ensures_ask.failing fun _ => hk₁).bind
    fun current s₂ ⟨hs₂, hfind⟩ => ?_
  subst hs₂
  -- the thing that is merged is the one that the permission was about
  have hcurrent : s₂.store.things[t.id]? = some stored := hk₁.store ▸ hstored
  have hsame : stored = current := by simpa [Store.findThing, hcurrent] using hfind
  subst hsame
  have hid : stored.id = t.id := hs.sound.thing_id hstored
  refine (ensures_change (f := fun s => s.updateThing
    { stored with metadata := stored.metadata.merge t.metadata })
    fun _ _ => Store.updateThing_error).mono ?_ ?_
  · rintro _ s' ⟨store, hupdate, rfl⟩
    have hsound := (hk₁.coherent.sound.updateThing _).of_outcome hupdate
    have hcoherent := hk₁.coherent.change_of_kept (Store.kept_updateThing hupdate) hsound
    obtain ⟨stored', hstored', rfl⟩ := Store.updateThing_ok hupdate
    have hsame : stored' = stored := by
      rw [hid, hcurrent] at hstored'
      exact (Option.some.inj hstored').symm
    subst hsame
    refine ⟨hcoherent, hk₁.precedes.trans (.of_eq rfl rfl), stored', hstored,
      hpermits.later (.of_eq rfl rfl), ?_⟩
    simp only [hk₁.store, hid]
  · rintro - s' rfl
    exact hk₁

/-- Between the states `s` and `s'` things of a list in groups that the caller may edit were given
other metadata. -/
structure Merged (setting : Setting) (token : String) (things : List Thing) (s s' : State) :
    Prop where
  /-- The state is coherent. -/
  coherent : s'.Coherent
  /-- Something may have been asked. -/
  precedes : s.Precedes s'
  /-- Metadata was changed. -/
  changed : MetadataChanged (Granted setting s s') token s.store s'.store
  /-- What was changed is in the list. -/
  named : ∀ id : String, s'.store.things[id]? ≠ s.store.things[id]? → ∃ t ∈ things, t.id = id

namespace Merged

variable {things : List Thing} {s' s'' : State}

lemma refl (hs : s.Coherent) : Merged setting token things s s :=
  ⟨hs, .refl s, .refl s.store, fun _ hne => absurd rfl hne⟩

lemma follows (h : Merged setting token things s s') :
    Follows setting (.updateThingsMetadata token things) s s' :=
  ⟨h.coherent, h.precedes, .updateThingsMetadata h.changed h.named⟩

/-- One thing of the list is given other metadata. -/
lemma insert (h : Merged setting token things s s') {t current : Thing} {metadata : Metadata}
    (ht : t ∈ things) (hs'' : s''.Coherent) (hp : s'.Precedes s'')
    (hcurrent : s'.store.things[t.id]? = some current)
    (hpermits : Permits (Granted setting s' s'') token .group current.groupId .editor)
    (hstore : s''.store = { s'.store with
      things := s'.store.things.insert t.id { current with metadata := metadata } }) :
    Merged setting token things s s'' := by
  refine ⟨hs'', h.precedes.trans hp, ?_, fun id hne => ?_⟩
  · rw [hstore]
    exact (h.changed.mono fun _ hg => hg.mono_right hp).insert hcurrent
      (.earlier h.precedes hpermits)
  · by_cases hid : t.id = id
    · exact ⟨t, ht, hid⟩
    · simp only [hstore, Std.ExtTreeMap.getElem?_insert, Std.compare_eq_iff_eq, hid,
        if_false] at hne
      exact h.named id hne

/-- Further questions do not matter. -/
lemma trans_keeps (h : Merged setting token things s s') (hk : s'.Keeps s'') :
    Merged setting token things s s'' := by
  refine ⟨hk.coherent, h.precedes.trans hk.precedes, ?_, fun id hne => ?_⟩
  · rw [hk.store]
    exact h.changed.mono fun _ hg => hg.mono_right hk.precedes
  · rw [hk.store] at hne
    exact h.named id hne

end Merged

/-- A batch of merges, whether it is carried out to the end or not. -/
lemma ensures_updateThingsMetadata (hs : s.Coherent) (things : List Thing) :
    (updateThingsMetadata token things).Ensures setting s
      (fun _ s' => Follows setting (.updateThingsMetadata token things) s s')
      (fun _ s' => Follows setting (.updateThingsMetadata token things) s s') := by
  have hmerged : (updateThingsMetadata token things).Ensures setting s
      (fun _ s' => Merged setting token things s s')
      (fun _ s' => Merged setting token things s s') := by
    refine ensures_forM (I := fun _ s' => Merged setting token things s s') (.refl hs)
      fun done t s₁ ht h₁ => ?_
    -- a merge finds the things as the earlier ones have left them, all in their groups
    refine (ensures_mergeMetadata h₁.coherent t).mono ?_ fun _ _ hk₂ => h₁.trans_keeps hk₂
    rintro _ s₂ ⟨hs₂, hp₂, current, hcurrent, hpermits, hstore⟩
    exact h₁.insert ht hs₂ hp₂ hcurrent hpermits hstore
  exact hmerged.mono (fun _ _ h => h.follows) fun _ _ h => h.follows

lemma couples_mergeMetadata (token : String) (t : Thing) :
    Couples State.Coherent (mergeMetadata token t) := by
  have hread : ReadOnly (canAccessThing token t.id .editor >>= fun _ =>
      ask .findThing fun s => s.findThing t.id) :=
    (readOnly_canAccessThing token t.id .editor).bind fun _ => readOnly_ask _ _
  have hchange := hread.couples.bind_blind fun current =>
    blind_change .updateThing fun s => s.updateThing
      { current with metadata := current.metadata.merge t.metadata }
  simpa only [mergeMetadata, bind_assoc] using hchange

lemma couples_updateThingsMetadata (token : String) (things : List Thing) :
    Couples State.Coherent (updateThingsMetadata token things) :=
  .forM (fun t _ => couples_mergeMetadata token t) fun t _ _ hs =>
    ((ensures_mergeMetadata hs t).mono (fun _ _ h => h.1) fun _ _ h => h.coherent).state

/-! ## Giving another key -/

/-- When a thing has got another key, the store has it and the cache knows none of the thing's
keys. -/
lemma ensures_updateKey (hs : s.Coherent) :
    (updateKey token id key).Ensures setting s
      (fun _ s' => Follows setting (.updateKey token id key) s s' ∧
        s.store.updateKey id key = (.ok (), s'.store))
      (fun _ s' => s.Keeps s') := by
  refine (ensures_canEditThing hs).bind fun _ s₁ ⟨hk₁, stored, hstored, hpermits⟩ => ?_
  refine ((ensures_change (f := fun s => s.updateKey id key) fun _ _ =>
    Store.updateKey_error).failing fun _ => hk₁).bind fun _ s₂ ⟨store, hupdate, hs₂⟩ => ?_
  subst hs₂
  obtain ⟨c, hc, hmirrors⟩ := hk₁.coherent.mirrors.things
  have hsound := (hk₁.coherent.sound.updateKey id key).of_outcome hupdate
  refine ensures_changeThingCache (s := { s₁ with store := store }) hc
    (R := fun _ s' => Follows setting (.updateKey token id key) s s' ∧
      s.store.updateKey id key = (.ok (), s'.store)) ⟨?_, hk₁.store ▸ hupdate⟩
  refine ⟨⟨hsound, hk₁.coherent.mirrors.updateKey hk₁.coherent.sound hc hupdate⟩,
    hk₁.precedes.trans (.of_eq rfl rfl), ?_⟩
  exact .updateKey hstored (hpermits.later (.of_eq rfl rfl)) (hk₁.store ▸ hupdate)

lemma couples_updateKey (token id key : String) :
    Couples State.Coherent (updateKey token id key) :=
  (readOnly_canAccessThing token id .editor).couples.bind_blind fun _ =>
    (blind_change _ _).bind fun _ => blind_changeThingCache (ResourceCache.remove_empty id false)

/-! ## Taking out things -/

/-- Resources are forgotten one after the other, each after the permission to take it out was
found; the look-ups for the later ones do not bring back the earlier ones. -/
lemma ensures_forgetEach {forget : String → Action Unit} {cache : Caches → Lookaside ResourceCache}
    {owns : Store → String → String → Prop}
    (hforget : ∀ {s : State} {gone : String → Prop} (id : String), s.Coherent →
      (∀ {c}, cache s.caches = .memory c → c.Avoids gone) →
      (forget id).Ensures setting s
        (fun _ s' => s.Keeps s' ∧
          (∀ {c}, cache s'.caches = .memory c → c.Avoids fun id' => gone id' ∨ id' = id) ∧
          ∃ g, owns s.store id g ∧ Permits (Granted setting s s') token .group g .editor)
        (fun _ s' => s.Keeps s'))
    (hs : s.Coherent) (ids : List String) :
    (ids.forM forget).Ensures setting s
      (fun _ s' => s.Keeps s' ∧ (∀ {c}, cache s'.caches = .memory c → c.Avoids (· ∈ ids)) ∧
        ∀ id ∈ ids, ∃ g, owns s.store id g ∧ Permits (Granted setting s s') token .group g .editor)
      (fun _ s' => s.Keeps s') := by
  refine ensures_forM (I := fun done s' => s.Keeps s' ∧
    (∀ {c}, cache s'.caches = .memory c → c.Avoids (· ∈ done)) ∧
      ∀ id ∈ done, ∃ g, owns s.store id g ∧ Permits (Granted setting s s') token .group g .editor)
    ⟨.refl hs, fun _ => .of_forall_not (by simp), by simp⟩
    fun done id s₁ _ ⟨hk₁, havoid, hpermitted⟩ => ?_
  refine (hforget id hk₁.coherent havoid).mono ?_ fun _ _ h => hk₁.trans h
  rintro _ s₂ ⟨hk₂, havoid₂, g, hown, hpermits⟩
  refine ⟨hk₁.trans hk₂, fun hc => (havoid₂ hc).anti (by simp),
    List.forall_mem_append.2 ⟨fun id' hid' => ?_, List.forall_mem_singleton.2 ?_⟩⟩
  · obtain ⟨g', hown', hpermits'⟩ := hpermitted id' hid'
    exact ⟨g', hown', hpermits'.later hk₂.precedes⟩
  · exact ⟨g, hk₁.store ▸ hown, .earlier hk₁.precedes hpermits⟩

lemma readOnly_forgetThing (token id : String) : ReadOnly (forgetThing token id) :=
  (readOnly_canAccessThing token id .editor).bind fun _ =>
    (readOnly_forgetThingKeys id).bind fun _ => readOnly_forgetThingGroup id

/-- The permission to take out a thing is looked up in the cache, which may then remember the
thing again; so the cache is made to forget the thing after that. -/
lemma ensures_forgetThing (hs : s.Coherent) {gone : String → Prop}
    (havoid : ∀ {c}, s.caches.things = .memory c → c.Avoids gone) :
    (forgetThing token id).Ensures setting s
      (fun _ s' => s.Keeps s' ∧
        (∀ {c}, s'.caches.things = .memory c → c.Avoids fun id' => gone id' ∨ id' = id) ∧
        ∃ g, s.store.OwnsThing id g ∧ Permits (Granted setting s s') token .group g .editor)
      (fun _ s' => s.Keeps s') := by
  refine (ensures_canAccessThing hs).bind fun _ s₁ ⟨hk₁, hcaches, g, hown, hpermits⟩ => ?_
  obtain ⟨c, hc, hmirrors⟩ := hk₁.coherent.mirrors.things
  -- nothing but the thing itself may have been remembered anew
  have hspared : c.Avoids fun id' => gone id' ∧ id' ≠ id := by
    rcases hcaches with hsame | ⟨g', hsaved⟩
    · rw [hsame] at hc
      exact (havoid hc).anti fun _ h => h.1
    · obtain ⟨c₀, hc₀, -⟩ := hs.mirrors.things
      rw [hsaved, withThingGroup, hc₀] at hc
      obtain rfl := Lookaside.memory.inj hc
      exact (havoid hc₀).saveGroup id g'
  refine ((readOnly_forgetThingKeys id).ensures_changeThingCache hk₁.coherent hc).bind
    fun _ s₂ h₂ => ?_
  obtain ⟨hk₂, hs₂⟩ := h₂
  have hc₂ : s₂.caches.things = .memory (c.remove id) := by rw [hs₂]
  refine ((readOnly_forgetThingGroup id).ensures_changeThingCache hk₂.coherent hc₂).mono_ok ?_
  rintro - s₃ ⟨hk₃, hs₃⟩
  have hlater := hk₂.precedes.trans hk₃.precedes
  refine ⟨hk₁.trans (hk₂.trans hk₃), fun {c'} hc' => ?_, g, hown, hpermits.later hlater⟩
  rw [hs₃] at hc'
  obtain rfl := Lookaside.memory.inj hc'
  exact hspared.forget hmirrors.indexed

lemma ensures_removeThings (hs : s.Coherent) (ids : List String) :
    (removeThings token ids).Ensures setting s
      (fun _ s' => Follows setting (.removeThings token ids) s s' ∧
        s'.store = s.store.removeThings ids)
      (fun _ s' => s.Keeps s') := by
  refine (ensures_forgetEach (fun _ hs havoid => ensures_forgetThing hs havoid) hs ids).bind
    fun _ s₁ ⟨hk₁, havoid, hpermitted⟩ => ?_
  refine ((ensures_change (f := fun s => (.ok (), s.removeThings ids)) (by simp)).failing
    fun _ => hk₁).bind fun _ s₂ ⟨store, hremove, hs₂⟩ => ?_
  obtain rfl : s₁.store.removeThings ids = store := congrArg Prod.snd hremove
  subst hs₂
  have hcoherent := hk₁.coherent.change
    ⟨havoid, fun _ => .of_forall_not fun _ h => h, fun _ _ _ _ _ _ h => h⟩
    (s₁.store.keptBut_removeThings ids) (hk₁.coherent.sound.removeThings ids)
  have hfollows : Follows setting (.removeThings token ids) s
      { s₁ with store := s₁.store.removeThings ids } := by
    refine .of_change hk₁ hcoherent (.removeThings fun id hid => ?_)
    obtain ⟨g, hown, hpermits⟩ := hpermitted id hid
    exact ⟨g, hk₁.store ▸ hown, hpermits.later (.of_eq rfl rfl)⟩
  exact ensures_report ⟨hfollows.report _, by rw [hk₁.store]⟩

lemma couples_removeThings (token : String) (ids : List String) :
    Couples State.Coherent (removeThings token ids) := by
  have hforget : ReadOnly (ids.forM (forgetThing token)) :=
    .forM fun id _ => readOnly_forgetThing token id
  exact hforget.couples.bind_blind fun _ => (blind_change _ _).bind fun _ => blind_report _ _ _ _

end DeviceFleet.Service
