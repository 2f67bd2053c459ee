/-
# Permissions

When a question about access is answered by yes, permission was granted meanwhile: for the whole
platform, or for the role on the object that was asked about.  For things and profiles that
object is the group that owns them in the store.
-/
import DeviceFleet.Proofs.Service.Owners

namespace DeviceFleet.Access

open DeviceFleet.Action

variable {setting : Setting} {s : State} {subject : Subject} {denied token object id : String}
  {action : Role}

/-! ## Objects -/

/-- The caller has the permission when the question is answered by yes, and nothing changes either
way. -/
lemma ensures_canAccess :
    (canAccess subject denied token object action).Ensures setting s
      (fun _ s' => s.Unchanged s' ∧ Permits (Granted setting s s') token subject object action)
      (fun _ s' => s.Unchanged s') := by
  unfold canAccess
  have hroot : (attempt (isAdmin token)).Ensures setting s
      (fun r s' => s.Unchanged s' ∧ (r = .ok () → Granted setting s s' (.root token)))
      (fun _ s' => s.Unchanged s') := by
    refine Ensures.attempt ((ensures_authorize (.root token)).mono ?_ ?_)
    · exact fun _ s' h => ⟨h.1, fun _ => h.2⟩
    · exact fun e s' h => ⟨h, fun he => by simp at he⟩
  refine hroot.bind fun r s₁ h₁ => ?_
  rcases r with e | ⟨⟩
  · -- the caller does not administer the platform
    have hobject : (attempt (authorize (.forObject token object subject action))).Ensures setting s₁
        (fun r s' => s.Unchanged s' ∧
          (r = .ok () → Granted setting s s' (.forObject token object subject action)))
        (fun _ s' => s.Unchanged s') := by
      refine Ensures.attempt ((ensures_authorize _).mono ?_ ?_)
      · exact fun _ s' h => ⟨h₁.1.trans h.1, fun _ => .mono_left h₁.1.precedes h.2⟩
      · exact fun e s' h => ⟨h₁.1.trans h, fun he => by simp at he⟩
    refine hobject.bind fun r s₂ h₂ => ?_
    rcases r with e | ⟨⟩
    · refine (ensures_report (R := fun _ s' => s.Unchanged s') ?_).bind fun _ s₃ h₃ =>
        ensures_throw h₃
      exact h₂.1.trans (unchanged_report _ _ _ _ setting s₂)
    · exact ensures_pure ⟨h₂.1, .inr (h₂.2 rfl)⟩
  · exact ensures_pure ⟨h₁.1, .inl (h₁.2 rfl)⟩

lemma unchanged_canAccess (setting : Setting) (s : State) :
    s.Unchanged (canAccess subject denied token object action setting s).2 :=
  (ensures_canAccess.mono_ok fun _ _ h => h.1).state

lemma readOnly_canAccess : ReadOnly (canAccess subject denied token object action) := by
  unfold canAccess
  refine (readOnly_authorize _).attempt.bind fun r => ?_
  rcases r with e | a
  · refine (readOnly_authorize _).attempt.bind fun r => ?_
    rcases r with e | a
    · exact (readOnly_report _ _ _ _).bind fun _ => readOnly_throw e
    · exact readOnly_pure ()
  · exact readOnly_pure ()

/-- Who administers the platform is let in, and nothing is changed by asking. -/
lemma run_isAdmin (h : settle setting.rpcTimeout permissionRefused
    (setting.authorize s.calls s.store (.root token)) = .ok ()) :
    ∃ s', isAdmin token setting s = (.ok (), s') ∧ s.Unchanged s' := by
  rcases hrun : isAdmin token setting s with ⟨r, s'⟩
  have hr : r = .ok () := by
    rw [← h]
    exact (congrArg Prod.fst hrun).symm.trans (congrArg Prod.fst (run_authorize _))
  subst hr
  exact ⟨s', rfl, ((ensures_authorize (.root token)).of_ok hrun).1⟩

lemma readOnly_isAdmin (token : String) : ReadOnly (isAdmin token) := readOnly_authorize _

lemma readOnly_canAccessGroup (token groupId : String) (action : Role) :
    ReadOnly (canAccessGroup token groupId action) := readOnly_canAccess

lemma readOnly_canAccessOrg (token orgId : String) (action : Role) :
    ReadOnly (canAccessOrg token orgId action) := readOnly_canAccess

/-! ## Things and profiles -/

lemma readOnly_canAccessThing (token id : String) (action : Role) :
    ReadOnly (canAccessThing token id action) :=
  (readOnly_groupIdOfThing id).bind fun g => readOnly_canAccessGroup token g action

lemma readOnly_canAccessProfile (token id : String) (action : Role) :
    ReadOnly (canAccessProfile token id action) :=
  (readOnly_groupIdOfProfile id).bind fun g => readOnly_canAccessGroup token g action

lemma readOnly_canThingAccessGroup (key groupId : String) :
    ReadOnly (canThingAccessGroup key groupId) := by
  refine (readOnly_identify key).bind fun id => (readOnly_groupIdOfThing id).bind fun owner => ?_
  split
  · exact (readOnly_report _ _ _ _).bind fun _ => readOnly_throw _
  · exact readOnly_pure ()

/-- The caller may act on a group that was found, and the caches are those after it was found. -/
lemma ensures_canAccess_of_resolved {kind : CacheKind} {query : Store → Except StoreError String}
    {update : String → Caches → Caches} {owner : Action String} (hs : s.Coherent)
    (h : Resolved kind query update setting s (owner setting s).1 (owner setting s).2) :
    (owner >>= fun groupId => canAccessGroup token groupId action).Ensures setting s
      (fun _ s' => s.Keeps s' ∧ (s'.caches = s.caches ∨ ∃ g, s'.caches = update g s.caches) ∧
        ∃ g, query s.store = .ok g ∧ Permits (Granted setting s s') token .group g action)
      (fun _ s' => s.Keeps s') := by
  refine (h.ensures hs).bind fun g s₁ ⟨hk₁, hcaches, hg⟩ => ?_
  refine ensures_canAccess.mono ?_ ?_
  · rintro - s' ⟨hunchanged, hpermits⟩
    refine ⟨hk₁.trans (hunchanged.keeps hk₁.coherent), ?_, g, hg, .earlier hk₁.precedes hpermits⟩
    rw [hunchanged.caches]
    exact hcaches.imp_right fun h => ⟨g, h⟩
  · intro e s' hunchanged
    exact hk₁.trans (hunchanged.keeps hk₁.coherent)

/-- Who may act on a thing may act on the group that owns it. -/
lemma ensures_canAccessThing (hs : s.Coherent) :
    (canAccessThing token id action).Ensures setting s
      (fun _ s' =>
        s.Keeps s' ∧ (s'.caches = s.caches ∨ ∃ g, s'.caches = withThingGroup id g s.caches) ∧
          ∃ g, s.store.OwnsThing id g ∧ Permits (Granted setting s s') token .group g action)
      (fun _ s' => s.Keeps s') := by
  refine (ensures_canAccess_of_resolved hs (resolved_groupIdOfThing setting hs id)).mono_ok ?_
  rintro - s' ⟨hkeeps, hcaches, g, hg, hpermits⟩
  exact ⟨hkeeps, hcaches, g, Store.findThing_map_eq_ok_iff.1 hg, hpermits⟩

/-- Who may act on a profile may act on the group that owns it. -/
lemma ensures_canAccessProfile (hs : s.Coherent) :
    (canAccessProfile token id action).Ensures setting s
      (fun _ s' =>
        s.Keeps s' ∧ (s'.caches = s.caches ∨ ∃ g, s'.caches = withProfileGroup id g s.caches) ∧
          ∃ g, s.store.OwnsProfile id g ∧ Permits (Granted setting s s') token .group g action)
      (fun _ s' => s.Keeps s') := by
  refine (ensures_canAccess_of_resolved hs (resolved_groupIdOfProfile setting hs id)).mono_ok ?_
  rintro - s' ⟨hkeeps, hcaches, g, hg, hpermits⟩
  exact ⟨hkeeps, hcaches, g, Store.findProfile_map_eq_ok_iff.1 hg, hpermits⟩

end DeviceFleet.Access
