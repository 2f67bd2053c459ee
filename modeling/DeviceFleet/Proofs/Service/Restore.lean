/-
# Bringing a backup back

Whatever a restore stores is new, and the first failure ends it.  A restore that succeeds in a
store that is in order has stored the whole backup.  More exactly, in such a store a restore is a
list of requests to the store, carried out one after the other until one is refused.
-/
import DeviceFleet.Proofs.Service.Memberships
import DeviceFleet.Proofs.Store.Contents
import DeviceFleet.Service.Backups

namespace DeviceFleet.Service

open DeviceFleet.Action DeviceFleet.Access

variable {setting : Setting} {s : State} {token : String} {b : Backup}

/-- Between `s` and `s'` records were added; if the store is in order, these are the records of
`b`. -/
structure Restored (setting : Setting) (s : State) (b : Backup) (s' : State) : Prop where
  /-- The state is coherent. -/
  coherent : s'.Coherent
  /-- Something may have been asked. -/
  precedes : s.Precedes s'
  /-- Records were added. -/
  gains : ∃ added, s.store.Gains added s'.store ∧ (setting.faults = [] → added = b)

namespace Restored

variable {s' s'' : State} {b' : Backup}

lemma refl (hs : s.Coherent) : Restored setting s ∅ s :=
  ⟨hs, .refl s, ∅, .refl s.store, fun _ => rfl⟩

lemma trans (h : Restored setting s b s') (h' : Restored setting s' b' s'') :
    Restored setting s (b ++ b') s'' := by
  obtain ⟨added, hgains, hall⟩ := h.gains
  obtain ⟨added', hgains', hall'⟩ := h'.gains
  refine ⟨h'.coherent, h.precedes.trans h'.precedes, added ++ added', hgains.trans hgains', ?_⟩
  intro hfaults
  rw [hall hfaults, hall' hfaults]

end Restored

/-! ## The parts of a restore -/

/-- All elements of a list are restored one by one. -/
lemma ensures_restoreEach {α : Type} {f : α → Action Unit} (part : List α → Backup)
    (hnil : part [] = ∅) (happend : ∀ done x, part (done ++ [x]) = part done ++ part [x])
    (hf : ∀ {s : State} (x : α), s.Coherent →
      (f x).Ensures setting s (fun _ s' => Restored setting s (part [x]) s') (fun _ s' => s' = s))
    (hs : s.Coherent) (xs : List α) :
    (xs.forM f).Ensures setting s (fun _ s' => Restored setting s (part xs) s')
      (fun _ s' => ∃ b, Restored setting s b s') := by
  refine ensures_forM (I := fun done s' => Restored setting s (part done) s')
    (hnil ▸ .refl hs) fun done x s₁ _ h₁ => ?_
  refine (hf x h₁.coherent).mono (fun _ s₂ h₂ => ?_) fun _ s₂ h₂ => ?_
  · rw [happend]
    exact h₁.trans h₂
  · rw [h₂]
    exact ⟨_, h₁⟩

lemma ensures_restoreGroup (hs : s.Coherent) (g : Group) :
    (discard (change .saveGroup fun s => s.saveGroup g)).Ensures setting s
      (fun _ s' => Restored setting s ⟨[g], [], [], []⟩ s') (fun _ s' => s' = s) :=
  Ensures.map <| (ensures_saveGroup hs g).mono
    (fun _ _ ⟨hs', hp, _, hgains⟩ => ⟨hs', hp, _, hgains, fun _ => rfl⟩) fun _ _ h => h

lemma ensures_restoreMembership (hs : s.Coherent) (m : Membership) :
    (restoreMembership m).Ensures setting s
      (fun _ s' => Restored setting s ⟨[], [], [], [m]⟩ s') (fun _ s' => s' = s) := by
  refine (ensures_saveMemberships hs (forgets_forgetMember m.memberId) fun x hx => ?_).mono
    (fun _ _ ⟨hs', hp, hgains⟩ => ⟨hs', hp, _, hgains, fun _ => rfl⟩) fun _ _ h => h
  obtain rfl := List.mem_singleton.1 hx
  exact List.mem_singleton.2 rfl

lemma ensures_restoreThings (hs : s.Coherent) (things : List Thing) :
    (if things ≠ [] then discard (storeBatch .saveThings fun s => s.saveThings things)
      else pure ()).Ensures setting s
      (fun _ s' => Restored setting s ⟨[], things, [], []⟩ s') (fun _ s' => s' = s) := by
  split
  · refine Ensures.map ((ensures_storeBatch (f := fun s => s.saveThings things)
      fun _ _ => Store.saveThings_error).mono (fun saved s' h => ?_) fun _ _ h => h)
    rcases h with ⟨-, rfl, hfaults⟩ | ⟨store, hsave, rfl⟩
    · exact ⟨hs, .refl s', ∅, .refl s'.store, fun hnone => absurd hnone hfaults⟩
    · obtain ⟨-, hadded, hchecked⟩ := Store.saveThings_ok hsave
      have hgains := Store.Gains.of_things hadded hchecked
      have hsound := (hs.sound.saveThings things).of_outcome hsave
      exact ⟨hs.change_of_kept (hgains.kept hs.sound hsound rfl) hsound, .of_eq rfl rfl, _, hgains,
        fun _ => rfl⟩
  · rename_i hempty
    obtain rfl : things = [] := not_not.1 hempty
    exact ensures_pure (.refl hs)

lemma ensures_restoreProfiles (hs : s.Coherent) (profiles : List Profile) :
    (if profiles ≠ [] then discard (storeBatch .saveProfiles fun s => s.saveProfiles profiles)
      else pure ()).Ensures setting s
      (fun _ s' => Restored setting s ⟨[], [], profiles, []⟩ s') (fun _ s' => s' = s) := by
  split
  · refine Ensures.map ((ensures_storeBatch (f := fun s => s.saveProfiles profiles)
      fun _ _ => Store.saveProfiles_error).mono (fun saved s' h => ?_) fun _ _ h => h)
    rcases h with ⟨-, rfl, hfaults⟩ | ⟨store, hsave, rfl⟩
    · exact ⟨hs, .refl s', ∅, .refl s'.store, fun hnone => absurd hnone hfaults⟩
    · obtain ⟨-, hadded, hchecked⟩ := Store.saveProfiles_ok hsave
      have hgains := Store.Gains.of_profiles hadded hchecked
      have hsound := (hs.sound.saveProfiles profiles).of_outcome hsave
      exact ⟨hs.change_of_kept (hgains.kept hs.sound hsound rfl) hsound, .of_eq rfl rfl, _, hgains,
        fun _ => rfl⟩
  · rename_i hempty
    obtain rfl : profiles = [] := not_not.1 hempty
    exact ensures_pure (.refl hs)

/-! ## The whole restore -/

lemma restoreAll_eq (b : Backup) :
    restoreAll b =
      (b.groups.forM fun g => discard (change .saveGroup fun s => s.saveGroup g)) >>= fun _ =>
      (if b.things ≠ [] then discard (storeBatch .saveThings fun s => s.saveThings b.things)
        else pure ()) >>= fun _ =>
      (if b.profiles ≠ [] then discard (storeBatch .saveProfiles fun s => s.saveProfiles b.profiles)
        else pure ()) >>= fun _ => b.memberships.forM restoreMembership := by
  unfold restoreAll
  refine bind_congr fun _ => ?_
  split <;> split <;> simp only [pure_bind]

lemma ensures_restoreAll (hs : s.Coherent) (b : Backup) :
    (restoreAll b).Ensures setting s (fun _ s' => Restored setting s b s')
      (fun _ s' => ∃ b', Restored setting s b' s') := by
  rw [restoreAll_eq]
  refine (ensures_restoreEach (fun gs => ⟨gs, [], [], []⟩) rfl (fun _ _ => rfl)
    (fun g hs => ensures_restoreGroup hs g) hs b.groups).bind fun _ s₁ h₁ => ?_
  refine ((ensures_restoreThings h₁.coherent b.things).failing fun _ => ⟨_, h₁⟩).bind
    fun _ s₂ hthings => ?_
  have h₂ := h₁.trans hthings
  refine ((ensures_restoreProfiles h₂.coherent b.profiles).failing fun _ => ⟨_, h₂⟩).bind
    fun _ s₃ hprofiles => ?_
  have h₃ := h₂.trans hprofiles
  refine (ensures_restoreEach (fun ms => ⟨[], [], [], ms⟩) rfl (fun _ _ => rfl)
    (fun m hs => ensures_restoreMembership hs m) h₃.coherent b.memberships).mono ?_ ?_
  · intro _ s₄ h₄
    have h := h₃.trans h₄
    -- the four parts make up the backup
    have hb : (((⟨b.groups, [], [], []⟩ : Backup) ++ ⟨[], b.things, [], []⟩) ++
        ⟨[], [], b.profiles, []⟩) ++ ⟨[], [], [], b.memberships⟩ = b := by simp
    rwa [hb] at h
  · rintro _ s₄ ⟨b', h₄⟩
    exact ⟨_, h₃.trans h₄⟩

/-- A restore needs permission for the whole platform; when it succeeds, the whole backup is
stored, if the store is in order. -/
lemma ensures_restore (hs : s.Coherent) :
    (restore token b).Ensures setting s
      (fun _ s' => Follows setting (.restore token b) s s' ∧
        (setting.faults = [] → s.store.Gains b s'.store))
      (fun _ s' => Follows setting (.restore token b) s s') := by
  refine ((ensures_authorize (.root token)).mono_error
    fun _ _ h => .of_keeps (h.keeps hs)).bind fun _ s₁ ⟨hunchanged, hgranted⟩ => ?_
  have hk₁ : s.Keeps s₁ := hunchanged.keeps hs
  have hfollows : ∀ {b' : Backup} {s' : State}, Restored setting s₁ b' s' →
      Follows setting (.restore token b) s s' := by
    intro b' s' h
    obtain ⟨added, hgains, -⟩ := h.gains
    rw [hk₁.store] at hgains
    exact ⟨h.coherent, hk₁.precedes.trans h.precedes,
      .restore added (hgranted.mono_right h.precedes) hgains⟩
  have hattempt : (attempt (restoreAll b)).Ensures setting s₁
      (fun r s' => ∃ b', Restored setting s₁ b' s' ∧ (r = .ok () → b' = b))
      (fun _ s' => Follows setting (.restore token b) s s') := by
    refine Ensures.attempt ((ensures_restoreAll hk₁.coherent b).mono ?_ ?_)
    · exact fun _ s' h => ⟨b, h, fun _ => rfl⟩
    · exact fun e s' ⟨b', h⟩ => ⟨b', h, fun he => by simp at he⟩
  refine hattempt.bind fun r s₂ ⟨b', h₂, hall⟩ => ?_
  rcases r with e | ⟨⟩
  · refine (ensures_report (R := fun _ => Follows setting (.restore token b) s) ?_).bind
      fun _ s₃ h₃ => ensures_throw h₃
    exact (hfollows h₂).report _
  · refine ensures_report ⟨(hfollows h₂).report _, fun hfaults => ?_⟩
    obtain ⟨added, hgains, hadded⟩ := h₂.gains
    rw [hadded hfaults, hall rfl, hk₁.store] at hgains
    exact hgains

/-! ## The requests of a restore -/

/-- In a store that is in order, with the cache of members in memory, the action carries out
requests one after the other until one is refused. -/
def Writes (x : Action Unit) (cs : List Store.Command) : Prop :=
  ∀ ⦃setting : Setting⦄ ⦃s : State⦄, setting.faults = [] → (∃ c, s.caches.groups = .memory c) →
    (x setting s).1 = (Store.runAll cs s.store).1.mapError .ofStore ∧
      (x setting s).2.store = (Store.runAll cs s.store).2 ∧
        ∃ c, (x setting s).2.caches.groups = .memory c

namespace Writes

variable {x y : Action Unit} {c : Store.Command} {cs ds : List Store.Command}

lemma pure_unit : Writes (pure ()) [] := fun _ _ _ hcache => ⟨rfl, rfl, hcache⟩

/-- An action that changes the store as one request does. -/
lemma of_run {α : Type} {f : Store → Store.Outcome α} {answer : α → Answer}
    (hc : ∀ store, c.run store = (f store).map answer)
    (hx : ∀ ⦃setting : Setting⦄ ⦃s : State⦄, setting.faults = [] →
      x setting s = (((f s.store).1.mapError .ofStore).map fun _ => (),
        { s with store := (f s.store).2 })) : Writes x [c] := by
  intro setting s hfaults hcache
  rw [hx hfaults, Store.runAll_singleton, hc]
  refine ⟨?_, rfl, hcache⟩
  rcases f s.store with ⟨⟨e⟩ | ⟨a⟩, store⟩ <;> rfl

lemma bind (hx : Writes x cs) (hy : Writes y ds) : Writes (x >>= fun _ => y) (cs ++ ds) := by
  intro setting s hfaults hcache
  obtain ⟨hresult, hstore, hcache'⟩ := hx hfaults hcache
  rw [run_bind]
  rcases hrun : x setting s with ⟨⟨e⟩ | ⟨⟨⟩⟩, s'⟩ <;>
    rcases hall : Store.runAll cs s.store with ⟨⟨e'⟩ | ⟨⟨⟩⟩, t⟩ <;>
      rw [hrun] at hresult hstore hcache' <;> rw [hall] at hresult hstore
  · -- the first action stops, so the second one is not carried out
    rw [Store.runAll_append_error hall]
    exact ⟨hresult, hstore, hcache'⟩
  · simp [Except.mapError] at hresult
  · simp [Except.mapError] at hresult
  · obtain rfl : s'.store = t := hstore
    rw [Store.runAll_append_ok hall]
    exact hy hfaults hcache'

lemma forM {α : Type} {f : α → Action Unit} {g : α → List Store.Command}
    (h : ∀ a, Writes (f a) (g a)) (as : List α) : Writes (as.forM f) (as.flatMap g) := by
  induction as with
  | nil => exact pure_unit
  | cons a as ih => exact (h a).bind ih

end Writes

lemma writes_restoreGroup (g : Group) :
    Writes (discard (change .saveGroup fun s => s.saveGroup g)) [.saveGroup g] := by
  refine .of_run (fun _ => rfl) fun setting s hfaults => ?_
  simp only [run_discard, run_change, hfaults, List.not_mem_nil, if_false]

lemma writes_restoreThings (things : List Thing) :
    Writes (if things ≠ [] then discard (storeBatch .saveThings fun s => s.saveThings things)
      else pure ()) (if things ≠ [] then [.saveThings things] else []) := by
  split
  · refine .of_run (fun _ => rfl) fun setting s hfaults => ?_
    simp only [run_discard, run_storeBatch, run_change, hfaults, List.not_mem_nil, if_false]
  · exact .pure_unit

lemma writes_restoreProfiles (profiles : List Profile) :
    Writes (if profiles ≠ [] then discard (storeBatch .saveProfiles fun s => s.saveProfiles profiles)
      else pure ()) (if profiles ≠ [] then [.saveProfiles profiles] else []) := by
  split
  · refine .of_run (fun _ => rfl) fun setting s hfaults => ?_
    simp only [run_discard, run_storeBatch, run_change, hfaults, List.not_mem_nil, if_false]
  · exact .pure_unit

/-- To forget a member is no request to the store. -/
lemma writes_forgetMember (memberId : String) : Writes (forgetMember memberId) [] := by
  rintro setting s - ⟨c, hc⟩
  rw [forgets_forgetMember memberId hc]
  exact ⟨rfl, rfl, _, rfl⟩

lemma writes_restoreMembership (m : Membership) :
    Writes (restoreMembership m) [.saveMemberships [m]] := by
  refine Writes.bind (.of_run (fun _ => rfl) fun setting s hfaults => ?_)
    (writes_forgetMember m.memberId)
  simp only [run_change, hfaults, List.not_mem_nil, if_false]
  rcases s.store.saveMemberships [m] with ⟨⟨e⟩ | ⟨⟨⟩⟩, store⟩ <;> rfl

lemma writes_restoreAll (b : Backup) : Writes (restoreAll b) b.writes := by
  rw [restoreAll_eq, Backup.writes, List.map_eq_flatMap, List.map_eq_flatMap]
  exact (Writes.forM writes_restoreGroup b.groups).bind <|
    (writes_restoreThings b.things).bind <| (writes_restoreProfiles b.profiles).bind <|
      .forM writes_restoreMembership b.memberships

/-- A restore that is permitted carries out its requests until one is refused, and what came
before stays. -/
lemma run_restore (hfaults : setting.faults = []) (hcache : ∃ c, s.caches.groups = .memory c)
    (hgranted : settle setting.rpcTimeout permissionRefused
      (setting.authorize s.calls s.store (.root token)) = .ok ()) :
    (restore token b setting s).1 = (Store.runAll b.writes s.store).1.mapError .ofStore ∧
      (restore token b setting s).2.store = (Store.runAll b.writes s.store).2 := by
  obtain ⟨s₁, hadmin, hunchanged⟩ := run_isAdmin hgranted
  rw [← hunchanged.caches] at hcache
  obtain ⟨hresult, hstore, -⟩ := writes_restoreAll b hfaults hcache
  rw [hunchanged.store] at hresult hstore
  rw [restore, run_bind_ok hadmin, run_bind, run_attempt]
  rcases hall : restoreAll b setting s₁ with ⟨⟨e⟩ | ⟨⟨⟩⟩, s₂⟩ <;> rw [hall] at hresult hstore
  · exact ⟨hresult, hstore⟩
  · exact ⟨hresult, hstore⟩

lemma blind_restoreAll (b : Backup) : Blind (restoreAll b) := by
  rw [restoreAll_eq]
  refine (Blind.forM fun g _ => ?_).bind fun _ => ?_
  · exact (blind_change .saveGroup fun s => s.saveGroup g).map _
  refine Blind.bind ?_ fun _ => ?_
  · split
    · exact (blind_storeBatch .saveThings fun s => s.saveThings b.things).map _
    · exact blind_pure ()
  refine Blind.bind ?_ fun _ => ?_
  · split
    · exact (blind_storeBatch .saveProfiles fun s => s.saveProfiles b.profiles).map _
    · exact blind_pure ()
  exact Blind.forM fun m _ => (blind_change _ _).bind fun _ => blind_forgetMember m.memberId

lemma couples_restore (token : String) (b : Backup) :
    Couples State.Coherent (restore token b) := by
  refine (readOnly_isAdmin token).couples.bind_blind fun _ => ?_
  refine Blind.bind (blind_restoreAll b).attempt fun r => ?_
  cases r with
  | error e => exact (blind_report _ _ _ _).bind fun _ => blind_throw e
  | ok _ => exact blind_report _ _ _ _

end DeviceFleet.Service
