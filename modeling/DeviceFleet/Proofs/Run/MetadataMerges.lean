/-
# Merging metadata is safe to repeat

The operation that merges metadata goes through its batch element by element and stops at the first
failure, with what it has merged so far left in the store.  The whole batch makes the same of that
as of the store before.  So a caller may bring the batch again, whatever became of it the first
time, and while they stay allowed to they get it through.
-/
import DeviceFleet.Proofs.Run.Step
import DeviceFleet.Proofs.Service.Scope
import DeviceFleet.Proofs.Store.MetadataMerges

namespace DeviceFleet.Service

open DeviceFleet.Action DeviceFleet.Access
open DeviceFleet.Store (MetadataMerged)

variable {setting : Setting} {s s' : State} {enabled : Bool} {token : String}
  {things batch : List Thing}

/-! ## What has been merged -/

/-- An element is merged, or changes nothing. -/
lemma ensures_element_merged (hs : s.Coherent) (t : Thing) :
    (mergeMetadata token t).Ensures setting s
      (fun _ s' => s'.Coherent ∧ MetadataMerged [t] s.store s'.store)
      (fun _ s' => s'.store = s.store) := by
  refine (ensures_mergeMetadata hs t).mono ?_ fun _ s' hkeeps => hkeeps.store
  rintro - s' ⟨hs', -, current, hcurrent, -, hstore⟩
  exact ⟨hs', hstore ▸ .single hcurrent⟩

/-- The elements of a batch are merged one after the other, until one fails. -/
lemma ensures_batch_merged (hs : s.Coherent) (things : List Thing) :
    (updateThingsMetadata token things).Ensures setting s
      (fun _ s' => MetadataMerged things s.store s'.store)
      (fun _ s' => ∃ done next rest, things = done ++ next :: rest ∧
        MetadataMerged done s.store s'.store) := by
  induction things generalizing s with
  | nil => exact ensures_pure (.refl s.store)
  | cons t things ih =>
    have hfirst : (mergeMetadata token t).Ensures setting s
        (fun _ s' => s'.Coherent ∧ MetadataMerged [t] s.store s'.store)
        (fun _ s' => ∃ done next rest, t :: things = done ++ next :: rest ∧
          MetadataMerged done s.store s'.store) := by
      refine (ensures_element_merged hs t).mono_error fun _ s' hsame => ?_
      exact ⟨[], t, things, rfl, hsame ▸ .refl s.store⟩
    refine Ensures.bind (f := fun _ => things.forM (mergeMetadata token)) hfirst ?_
    rintro - s₁ ⟨hs₁, hmerged⟩
    refine (ih hs₁).mono (fun _ s' hrest => hmerged.append hrest) ?_
    rintro e s' ⟨done, next, rest, rfl, hdone⟩
    exact ⟨t :: done, next, rest, rfl, hmerged.append hdone⟩

/-! ## When a batch goes through -/

/-- The caller stays allowed to change the things of a batch: whatever metadata is merged meanwhile,
and whatever was asked before, the role in the group of each thing is confirmed. -/
def StaysEditor (setting : Setting) (token : String) (things : List Thing) (s : State) : Prop :=
  ∀ (batch : List Thing) (s' : State), MetadataMerged batch s.store s'.store →
    ∀ t ∈ things, ∀ stored : Thing, s.store.things[t.id]? = some stored →
      Passes setting s' token .group stored.groupId .editor

/-- So they stay after some metadata is merged. -/
lemma StaysEditor.after (h : StaysEditor setting token things s)
    (hmerged : MetadataMerged batch s.store s'.store) : StaysEditor setting token things s' := by
  intro batch' s'' hlater t ht stored' hstored'
  rcases hstored : s.store.things[t.id]? with _ | stored
  · simp [hmerged.missing hstored] at hstored'
  · obtain ⟨metadata, hnew, -⟩ := hmerged.thing hstored
    obtain rfl := Option.some.inj (hnew.symm.trans hstored')
    exact h _ s'' (hmerged.append hlater) t ht stored hstored

/-- An element goes through if its thing is stored and the caller may change it. -/
lemma mergeMetadata_ok (hs : s.Coherent) (hfaults : setting.faults = []) {t stored : Thing}
    (hstored : s.store.things[t.id]? = some stored)
    (hpasses : ∀ s' : State, s'.store = s.store →
      Passes setting s' token .group stored.groupId .editor) :
    ∃ s', mergeMetadata token t setting s = (.ok (), s') := by
  have hresolved := resolved_groupIdOfThing setting hs t.id
  have hgroup := hresolved.run_ok hfaults (Store.findThing_map_eq_ok_iff.2 ⟨stored, hstored, rfl⟩)
  have hkeeps := hresolved.keeps hs
  generalize (groupIdOfThing t.id setting s).2 = s₁ at hgroup hkeeps
  obtain ⟨s₂, haccess, hunchanged⟩ := (hpasses s₁ hkeeps.store).run_canAccess "group access denied"
  have hallowed : canAccessThing token t.id .editor setting s = (.ok (), s₂) := by
    rw [canAccessThing, run_bind_ok hgroup]
    exact haccess
  have hstored₂ : s₂.store.things[t.id]? = some stored := by
    rw [hunchanged.store, hkeeps.store, hstored]
  have hfound : ask .findThing (fun s => s.findThing t.id) setting s₂ = (.ok stored, s₂) := by
    rw [run_ask, hfaults, Store.findThing, hstored₂]
    rfl
  have hmem : stored.id ∈ s₂.store.things := by
    rw [hs.sound.thing_id hstored, Std.ExtTreeMap.mem_iff_isSome_getElem?, hstored₂]
    rfl
  rw [mergeMetadata, run_bind_ok hallowed, run_bind_ok hfound, run_change, hfaults,
    Store.updateThing, if_pos hmem]
  exact ⟨_, rfl⟩

/-- A batch goes through if its things are stored and the caller stays allowed to change them. -/
lemma updateThingsMetadata_ok (hs : s.Coherent) (hfaults : setting.faults = [])
    (hstored : ∀ t ∈ things, t.id ∈ s.store.things) (hstays : StaysEditor setting token things s) :
    ∃ s', updateThingsMetadata token things setting s = (.ok (), s') := by
  induction things generalizing s with
  | nil => exact ⟨s, rfl⟩
  | cons t things ih =>
    rw [List.forall_mem_cons] at hstored
    have hfirst := Std.ExtTreeMap.getElem?_eq_some_getElem hstored.1
    obtain ⟨s₁, hrun⟩ := mergeMetadata_ok hs hfaults hfirst fun s' hsame =>
      hstays [] s' (hsame ▸ .refl s.store) t List.mem_cons_self _ hfirst
    obtain ⟨hs₁, hmerged⟩ := (ensures_element_merged hs t).of_ok hrun
    -- the rest finds its things as the element has left them
    have hstored₁ : ∀ u ∈ things, u.id ∈ s₁.store.things := fun u hu =>
      hmerged.mem_things_iff.2 (hstored.2 u hu)
    have hstays₁ : StaysEditor setting token things s₁ := fun batch s' hlater u hu =>
      hstays.after hmerged batch s' hlater u (List.mem_cons_of_mem t hu)
    obtain ⟨s', hrest⟩ := ih hs₁ hstored₁ hstays₁
    have hall : updateThingsMetadata token (t :: things) setting s =
        (mergeMetadata token t >>= fun _ => updateThingsMetadata token things) setting s := rfl
    exact ⟨s', by rw [hall, run_bind_ok hrun, hrest]⟩

/-! ## Bringing a batch again -/

/-- What becomes of the store when a batch is brought. -/
lemma ensures_run_merged (hs : s.Coherent) (token : String) (things : List Thing) :
    ((Operation.updateThingsMetadata token things).run).Ensures setting s
      (fun _ s' => MetadataMerged things s.store s'.store)
      (fun _ s' => ∃ done next rest, things = done ++ next :: rest ∧
        MetadataMerged done s.store s'.store) :=
  (ensures_batch_merged hs things).bind fun _ _ hmerged =>
    ensures_pure (Q := fun _ s' => MetadataMerged things s.store s'.store) hmerged

/-- However a call ends, what it has merged is a beginning of the batch. -/
lemma exists_prefix_merged (hs : s.Coherent) (setting : Setting) (token : String)
    (things : List Thing) :
    ∃ done, done <+: things ∧ MetadataMerged done s.store
      ((Operation.updateThingsMetadata token things).run setting s).2.store := by
  have hbegun : ((Operation.updateThingsMetadata token things).run).Ensures setting s
      (fun _ s' => ∃ done, done <+: things ∧ MetadataMerged done s.store s'.store)
      (fun _ s' => ∃ done, done <+: things ∧ MetadataMerged done s.store s'.store) := by
    refine (ensures_run_merged hs token things).mono ?_ ?_
    · exact fun _ s' hmerged => ⟨things, List.prefix_rfl, hmerged⟩
    · rintro e s' ⟨done, next, rest, rfl, hdone⟩
      exact ⟨done, List.prefix_append _ _, hdone⟩
  exact hbegun.state

/-- The caller gets a batch through. -/
lemma run_updateThingsMetadata_ok (hs : s.Coherent) (hfaults : setting.faults = [])
    (hstored : ∀ t ∈ things, t.id ∈ s.store.things) (hstays : StaysEditor setting token things s) :
    ((Operation.updateThingsMetadata token things).run setting s).1 = .ok .done := by
  obtain ⟨s', hrun⟩ := updateThingsMetadata_ok hs hfaults hstored hstays
  rw [Operation.run, run_completed, hrun]
  rfl

/-- A batch of metadata may be brought to a state, and brought again.  Each call may be made in a
setting of its own. -/
structure Repeatable (token : String) (things : List Thing) (s : State) : Prop where
  /-- A call that succeeds merges the batch, and changes nothing else. -/
  merged : ∀ setting,
    ((Operation.updateThingsMetadata token things).run setting s).1 = .ok .done →
      MetadataMerged things s.store
        ((Operation.updateThingsMetadata token things).run setting s).2.store
  /-- A call that fails has merged the elements before the one that failed. -/
  interrupted : ∀ setting e,
    ((Operation.updateThingsMetadata token things).run setting s).1 = .error e →
      ∃ done next rest, things = done ++ next :: rest ∧ MetadataMerged done s.store
        ((Operation.updateThingsMetadata token things).run setting s).2.store
  /-- Twice makes the same as once. -/
  twice : ∀ setting setting' s₁,
    (Operation.updateThingsMetadata token things).run setting s = (.ok .done, s₁) →
    ((Operation.updateThingsMetadata token things).run setting' s₁).1 = .ok .done →
      ((Operation.updateThingsMetadata token things).run setting' s₁).2.store = s₁.store
  /-- A call that succeeds after one that has left the store of `s₁`, whether that has failed or
  not, makes the same as a call that succeeds at once. -/
  retried : ∀ setting setting' setting'' enabled s₁, Reachable anyCall enabled s₁ →
    s₁.store = ((Operation.updateThingsMetadata token things).run setting s).2.store →
    ((Operation.updateThingsMetadata token things).run setting' s₁).1 = .ok .done →
    ((Operation.updateThingsMetadata token things).run setting'' s).1 = .ok .done →
      ((Operation.updateThingsMetadata token things).run setting' s₁).2.store =
        ((Operation.updateThingsMetadata token things).run setting'' s).2.store
  /-- While the things are stored and the caller stays allowed to change them, a call succeeds, and
  so does one after any other call, whether that has failed or not. -/
  succeeds : ∀ setting, setting.faults = [] → (∀ t ∈ things, t.id ∈ s.store.things) →
    StaysEditor setting token things s →
      ((Operation.updateThingsMetadata token things).run setting s).1 = .ok .done ∧
        ∀ setting' enabled s₁, Reachable anyCall enabled s₁ →
          s₁.store = ((Operation.updateThingsMetadata token things).run setting' s).2.store →
            ((Operation.updateThingsMetadata token things).run setting s₁).1 = .ok .done

/-- **Merging metadata is safe to repeat**, in every reachable state and with every batch, in which
things may come more than once. -/
theorem Reachable.metadata_repeatable (h : Reachable anyCall enabled s) (token : String)
    (things : List Thing) : Repeatable token things s where
  merged _ hok := (ensures_run_merged h.coherent token things).of_fst_ok hok
  interrupted _ _ herror := (ensures_run_merged h.coherent token things).of_fst_error herror
  twice := by
    intro setting setting' s₁ hfirst hsecond
    have hmerged := (ensures_run_merged h.coherent token things).of_ok hfirst
    have hs₁ : s₁.Coherent := by
      have hcoherent : ((Operation.updateThingsMetadata token things).run setting s).2.Coherent :=
        (follows_run h.coherent _).coherent
      rwa [hfirst] at hcoherent
    have hagain := (ensures_run_merged hs₁ token things).of_fst_ok hsecond
    exact (hmerged.absorb List.prefix_rfl hagain).unique hmerged
  retried := by
    intro setting setting' setting'' enabled' s₁ h₁ hstore hlater hatonce
    obtain ⟨done, hbegins, hdone⟩ := exists_prefix_merged h.coherent setting token things
    rw [← hstore] at hdone
    have hretried := (ensures_run_merged h₁.coherent token things).of_fst_ok hlater
    have honce := (ensures_run_merged h.coherent token things).of_fst_ok hatonce
    exact (hdone.absorb hbegins hretried).unique honce
  succeeds := by
    intro setting hfaults hstored hstays
    refine ⟨run_updateThingsMetadata_ok h.coherent hfaults hstored hstays, ?_⟩
    intro setting' enabled' s₁ h₁ hstore
    -- what the earlier call has merged takes away neither the things nor the permission
    obtain ⟨done, -, hdone⟩ := exists_prefix_merged h.coherent setting' token things
    rw [← hstore] at hdone
    have hstored₁ : ∀ t ∈ things, t.id ∈ s₁.store.things := fun t ht =>
      hdone.mem_things_iff.2 (hstored t ht)
    exact run_updateThingsMetadata_ok h₁.coherent hfaults hstored₁ (hstays.after hdone)

/-- Everybody may do everything, until the collaborator that says so stops working. -/
def faltering : Setting where
  __ := permissive
  authorize calls _ _ := ⟨0, if calls ≤ 4 then .ok () else .error (.unavailable "down")⟩

/-- Metadata for the sensor, twice. -/
def sensorMetadata : List Thing :=
  [{ sensor with metadata := .ofFields [("unit", .string "C"), ("floor", .integer 2)] },
    { sensor with metadata := .ofFields [("unit", .string "F")] }]

/-- The unit in the metadata of the sensor. -/
def sensorUnit? (s : State) : Option String :=
  match s.store.things["sensor"]?.bind fun t => t.metadata["unit"]? with
  | some (.string unit) => some unit
  | _ => none

/-- A call that is broken off after the first element. -/
def brokenOff : Except ServiceError Answer × State :=
  (Operation.updateThingsMetadata "owner" sensorMetadata).run faltering smallFleet

/-- The call that was broken off is made again, and leaves what it leaves when made at once. -/
theorem sensor_metadata_repeated :
    let again := (Operation.updateThingsMetadata "owner" sensorMetadata).run permissive brokenOff.2
    let once := (Operation.updateThingsMetadata "owner" sensorMetadata).run permissive smallFleet
    Reachable anyCall true smallFleet ∧ brokenOff.1.isOk = false ∧
      sensorUnit? brokenOff.2 = some "C" ∧
      once.1 = .ok .done ∧ sensorUnit? once.2 = some "F" ∧
      again.1 = .ok .done ∧ again.2.store = once.2.store := by
  have hreach : Reachable anyCall true smallFleet := reachable_smallFleet fun _ _ _ => trivial
  have hsafe := hreach.metadata_repeatable "owner" sensorMetadata
  have hstored : ∀ t ∈ sensorMetadata, t.id ∈ smallFleet.store.things := by decide +kernel
  have hstays : StaysEditor permissive "owner" sensorMetadata smallFleet :=
    fun _ _ _ _ _ _ _ => .inl rfl
  have hbroken : Reachable anyCall true brokenOff.2 := hreach.step trivial
  obtain ⟨honce, hlater⟩ := hsafe.succeeds permissive rfl hstored hstays
  have hagain := hlater faltering true brokenOff.2 hbroken (by rw [brokenOff])
  have hsame := hsafe.retried faltering permissive permissive true brokenOff.2 hbroken
    (by rw [brokenOff]) hagain honce
  exact ⟨hreach, by decide +kernel, by decide +kernel, honce, by decide +kernel, hagain, hsame⟩

end DeviceFleet.Service
