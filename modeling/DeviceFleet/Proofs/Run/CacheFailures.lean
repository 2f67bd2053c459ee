/-
# Operations that fail because of a cache

Each of the three caches may be one in memory or one that is out of order.  When an operation that
changes or takes out records fails because of a cache, has the change been made?  Those that look
up an owner or make the caches forget before they change the store have then changed nothing.  To
give a thing another key the cache of things is changed last, but if it could not be written the
owner of the thing would not have been found in the first place.

The operations on memberships are different on purpose.  The cache of members forgets those whose
roles have changed, and only then; if it cannot, the caller hears of it, but the change is made.
This file shows that the change is then the whole change: the store is the one that the same
operation leaves if the cache of members is one in memory and the operation succeeds.
-/
import DeviceFleet.Proofs.Action.CacheFailures
import DeviceFleet.Proofs.Run.Step

namespace DeviceFleet

/-- The state with a cache in memory in place of its cache of members. -/
def State.withMembers (s : State) (c : MemberCache) : State :=
  { s with caches := { s.caches with groups := .memory c } }

/-! ## Finding owners -/

namespace Access

open DeviceFleet.Action

variable {setting : Setting} {s : State} {subject : Subject} {denied token object : String}
  {action : Role}

lemma uncached_canAccess : Uncached (canAccess subject denied token object action) := by
  unfold canAccess
  refine (uncached_authorize (.root token)).attempt_bind (fun _ => uncached_pure ()) fun _ _ => ?_
  refine (uncached_authorize _).attempt_bind (fun _ => uncached_pure ()) fun e he => ?_
  exact (uncached_report _ _ _ _).bind fun _ => uncached_throw he

lemma leavesRecords_canAccessGroup (token groupId : String) (action : Role) :
    LeavesRecords (canAccessGroup token groupId action) :=
  leavesRecords_of_unchanged unchanged_canAccess

lemma leavesRecords_remembered {α : Type} (kind : CacheKind)
    (found : Except CacheError (Option α)) : LeavesRecords (remembered kind found) := by
  rcases found with e | hit
  · exact (leavesRecords_report _ _ _ _).bind fun _ => leavesRecords_pure none
  · exact leavesRecords_pure hit

section Resolve

variable {α β : Type} {kind : CacheKind} {cache : Caches → Lookaside α} {find : α → Option β}
  {method : Store.Method} {query : Store → Except StoreError β} {remember : β → Action Unit}

/-- A look-up leaves the records alone if remembering does. -/
lemma leavesRecords_resolve (hremember : ∀ b, LeavesRecords (remember b)) :
    LeavesRecords (resolve kind cache find method query remember) := by
  refine (leavesRecords_lookUp kind cache find).bind fun found =>
    (leavesRecords_remembered kind found).bind fun hit => ?_
  rcases hit with _ | b
  · exact (leavesRecords_ask method query).bind fun b => (hremember b).bind fun _ =>
      leavesRecords_pure b
  · exact leavesRecords_pure b

/-- After a look-up the cache is not one whose changes fail: such a cache has nothing, and to
remember something in it fails. -/
lemma ensures_resolve_not_failing
    (hremember : ∀ b s, (remember b).Ensures setting s (fun _ s' => cache s'.caches ≠ .failing)
      (fun _ _ => True)) (s : State) :
    (resolve kind cache find method query remember).Ensures setting s
      (fun _ s' => cache s'.caches ≠ .failing) (fun _ _ => True) := by
  have hlookUp : (lookUp kind cache find).Ensures setting s
      (fun found s' => found = (cache s'.caches).read find) (fun _ _ => True) := rfl
  refine hlookUp.bind fun found s₁ hfound => ?_
  have hremembered : (remembered kind found).Ensures setting s₁
      (fun hit s' => hit.isSome → cache s'.caches ≠ .failing) (fun _ _ => True) := by
    rcases found with e | hit
    · refine (ensures_report (R := fun _ _ => True) trivial).bind fun _ s₂ _ => ensures_pure ?_
      simp
    · refine ensures_pure fun hsome hfailing => ?_
      rw [hfailing] at hfound
      obtain rfl := Except.ok.inj hfound
      simp at hsome
  refine hremembered.bind fun hit s₂ hhit => ?_
  rcases hit with _ | b
  · refine (ensures_of_state (P := fun _ => True) trivial).bind fun b s₃ _ => ?_
    exact (hremember b s₃).bind fun _ s₄ h₄ => ensures_pure h₄
  · exact ensures_pure (hhit rfl)

end Resolve

lemma leavesRecords_groupIdOfThing (id : String) : LeavesRecords (groupIdOfThing id) := by
  rw [groupIdOfThing_eq]
  exact leavesRecords_resolve fun g => (leavesRecords_changeThingCache _).bind fun _ =>
    leavesRecords_report _ _ _ _

lemma leavesRecords_groupIdOfProfile (id : String) : LeavesRecords (groupIdOfProfile id) := by
  rw [groupIdOfProfile_eq]
  exact leavesRecords_resolve fun g => (leavesRecords_changeProfileCache _).bind fun _ =>
    leavesRecords_report _ _ _ _

lemma leavesRecords_canAccessThing (token id : String) (action : Role) :
    LeavesRecords (canAccessThing token id action) :=
  (leavesRecords_groupIdOfThing id).bind fun g => leavesRecords_canAccessGroup token g action

lemma leavesRecords_canAccessProfile (token id : String) (action : Role) :
    LeavesRecords (canAccessProfile token id action) :=
  (leavesRecords_groupIdOfProfile id).bind fun g => leavesRecords_canAccessGroup token g action

/-- A cache of things is changed if it is not one whose changes fail. -/
lemma ensures_changeThingCache_usable {f : ResourceCache → ResourceCache}
    (h : s.caches.things ≠ .failing) :
    (changeThingCache f).Ensures setting s (fun _ _ => True) (fun _ _ => False) := by
  unfold Ensures
  rw [run_changeThingCache_lookaside]
  rcases hcache : s.caches.things with c | _ | _
  · trivial
  · exact absurd hcache h
  · trivial

/-- When the cache of things was changed, it is not one whose changes fail. -/
lemma ensures_changeThingCache_not_failing (f : ResourceCache → ResourceCache) :
    (changeThingCache f).Ensures setting s (fun _ s' => s'.caches.things ≠ .failing)
      (fun _ _ => True) := by
  unfold Ensures
  rw [run_changeThingCache_lookaside]
  rcases s.caches.things with c | _ | _ <;> simp [Lookaside.change, Except.mapError]

lemma ensures_groupIdOfThing_not_failing (id : String) :
    (groupIdOfThing id).Ensures setting s (fun _ s' => s'.caches.things ≠ .failing)
      (fun _ _ => True) := by
  rw [groupIdOfThing_eq]
  refine ensures_resolve_not_failing (fun g s => ?_) s
  refine (ensures_changeThingCache_not_failing _).bind fun _ s₁ h₁ => ?_
  exact ensures_report (R := fun _ s' => s'.caches.things ≠ .failing) h₁

lemma ensures_canAccessThing_not_failing (id : String) :
    (canAccessThing token id action).Ensures setting s (fun _ s' => s'.caches.things ≠ .failing)
      (fun _ _ => True) := by
  refine (ensures_groupIdOfThing_not_failing id).bind fun g s₁ h₁ => ?_
  have hunchanged : s₁.Unchanged (canAccessGroup token g action setting s₁).2 :=
    unchanged_canAccess setting s₁
  refine (ensures_of_state (P := fun s' => s'.caches.things ≠ .failing) ?_).mono_error
    fun _ _ _ => trivial
  rw [hunchanged.caches]
  exact h₁

end Access

namespace Service

open DeviceFleet.Action DeviceFleet.Access

variable {α : Type} {setting : Setting} {s : State}

/-! ## Forgetting -/

lemma leavesRecords_forgetThing (token id : String) : LeavesRecords (forgetThing token id) :=
  (leavesRecords_canAccessThing token id .editor).bind fun _ =>
    (leavesRecords_changeThingCache _).bind fun _ => leavesRecords_changeThingCache _

lemma leavesRecords_forgetProfile (token id : String) : LeavesRecords (forgetProfile token id) :=
  (leavesRecords_canAccessProfile token id .editor).bind fun _ =>
    leavesRecords_changeProfileCache _

lemma leavesRecords_forgetMember (memberId : String) : LeavesRecords (forgetMember memberId) :=
  leavesRecords_changeMemberCache _

lemma leavesRecords_purgeGroup (groupId : String) : LeavesRecords (purgeGroup groupId) := by
  have hthings : ∀ things : List Thing, LeavesRecords (things.forM fun t => do
      changeThingCache (ResourceCache.remove t.id)
      changeThingCache (ResourceCache.removeGroup t.id)) := fun things =>
    .forM fun t => (leavesRecords_changeThingCache _).bind fun _ =>
      leavesRecords_changeThingCache _
  have hprofiles : ∀ profiles : List Profile, LeavesRecords (profiles.forM fun p =>
      changeProfileCache (ResourceCache.removeGroup p.id)) := fun profiles =>
    .forM fun p => leavesRecords_changeProfileCache _
  have hmembers : ∀ memberships : List Membership, LeavesRecords (memberships.forM fun m =>
      forgetMember m.memberId) := fun memberships => .forM fun m =>
    leavesRecords_forgetMember m.memberId
  exact (leavesRecords_ask _ _).bind fun things => (hthings things).bind fun _ =>
    (leavesRecords_ask _ _).bind fun profiles => (hprofiles profiles).bind fun _ =>
      (leavesRecords_ask _ _).bind fun memberships => (hmembers memberships).bind fun _ =>
        leavesRecords_changeMemberCache _

/-! ## Things, profiles and groups -/

lemma leavesRecords_ensureProfileInGroup (profileId groupId : String) :
    LeavesRecords (ensureProfileInGroup profileId groupId) := by
  refine (leavesRecords_groupIdOfProfile profileId).bind fun owner => ?_
  split
  · exact (leavesRecords_report _ _ _ _).bind fun _ => leavesRecords_throw _
  · exact leavesRecords_pure ()

lemma sparesRecords_updateThing (token : String) (t : Thing) :
    SparesRecords (updateThing token t) :=
  (leavesRecords_canAccessThing token t.id .editor).bind_spares fun _ =>
    (leavesRecords_groupIdOfThing t.id).bind_spares fun g =>
      (leavesRecords_ensureProfileInGroup t.profileId g).bind_spares fun _ =>
        (uncached_change _ _).spares

lemma sparesRecords_updateProfile (token : String) (p : Profile) :
    SparesRecords (updateProfile token p) :=
  (leavesRecords_canAccessProfile token p.id .editor).bind_spares fun _ =>
    (uncached_change _ _).spares

/-- What is forgotten first is only then taken out. -/
lemma sparesRecords_remove {x remove : Action Unit} (h : LeavesRecords x) (hremove : Uncached remove)
    {target message : String} {fields : List (String × LogValue)} :
    SparesRecords (x >>= fun _ => remove >>= fun _ => report .debug target message fields) :=
  h.bind_spares fun _ => (hremove.bind fun _ => uncached_report _ _ _ _).spares

lemma sparesRecords_removeThings (token : String) (ids : List String) :
    SparesRecords (removeThings token ids) :=
  sparesRecords_remove (.forM (leavesRecords_forgetThing token)) (uncached_change _ _)

lemma sparesRecords_removeProfiles (token : String) (ids : List String) :
    SparesRecords (removeProfiles token ids) :=
  sparesRecords_remove (.forM (leavesRecords_forgetProfile token)) (uncached_changeAlong _ _)

lemma sparesRecords_removeGroups (token : String) (ids : List String) :
    SparesRecords (removeGroups token ids) :=
  LeavesRecords.bind_spares (.forM fun id => leavesRecords_canAccessGroup token id .owner) fun _ =>
    sparesRecords_remove (.forM leavesRecords_purgeGroup) (uncached_change _ _)

/-- The old key is forgotten after the change, but then that cannot fail any more. -/
lemma sparesRecords_updateKey (token id key : String) : SparesRecords (updateKey token id key) := by
  refine sparesRecords_of_ensures fun setting s => ?_
  have hcan : (canAccessThing token id .editor).Ensures setting s
      (fun _ s' => s'.caches.things ≠ .failing)
      (fun e s' => (∃ e', e = .cache e') → s'.store = s.store) :=
    ((ensures_canAccessThing_not_failing id).and
      ((leavesRecords_canAccessThing token id .editor).ensures setting s)).mono
        (fun _ _ h => h.1) fun _ _ h _ => h.2
  refine hcan.bind fun _ s₁ hcache => ?_
  have hchange := (uncached_change .updateKey fun s => s.updateKey id key).ensures setting s₁
  refine (hchange.mono_error fun e _ h ⟨e', he⟩ => absurd he (h.2 e')).bind fun _ s₂ hcaches => ?_
  refine (ensures_changeThingCache_usable ?_).mono_error fun _ _ h => h.elim
  rwa [hcaches]

/-! ## Memberships -/

/-- The members of groups are forgotten unless the cache of members is one whose changes fail. -/
lemma ensures_forgetMembers (xs : List α) (f : α → String) :
    (xs.forM fun x => forgetMember (f x)).Ensures setting s (fun _ _ => True)
      (fun _ _ => s.caches.groups = .failing) := by
  by_cases hcache : s.caches.groups = .failing
  · exact ensures_iff.2 ⟨fun _ _ _ => trivial, fun _ _ _ => hcache⟩
  · refine (ensures_forM (I := fun _ s' => s'.caches.groups ≠ .failing) hcache
      fun done x s₁ _ h₁ => ?_).mono_ok fun _ _ _ => trivial
    unfold Ensures
    rw [forgetMember, run_changeMemberCache_lookaside]
    rcases hgroups : s₁.caches.groups with c | _ | _
    · simp [Lookaside.change, Except.mapError]
    · exact absurd hgroups h₁
    · simp [Lookaside.change, Except.mapError]

/-- If the action fails because of a cache, it is the cache of members, and the records are what
they are if the action succeeds with a cache of members in memory. -/
def ForgetsLast (x : Action Unit) : Prop :=
  ∀ (setting : Setting) (s : State) (e : CacheError), (x setting s).1 = .error (.cache e) →
    s.caches.groups = .failing ∧ ∀ c : MemberCache,
      (x setting (s.withMembers c)).1 = .ok () ∧
        (x setting (s.withMembers c)).2.store = (x setting s).2.store

lemma forgetsLast_forgetMembers (xs : List α) (f : α → String) :
    ForgetsLast (xs.forM fun x => forgetMember (f x)) := by
  intro setting s e hfails
  have hleaves : LeavesRecords (xs.forM fun x => forgetMember (f x)) :=
    .forM fun x => leavesRecords_forgetMember (f x)
  refine ⟨(ensures_forgetMembers xs f).of_fst_error hfails, fun c => ?_⟩
  rw [run_forgetMembers (s := s.withMembers c) xs f rfl]
  exact ⟨rfl, (hleaves setting s).symm⟩

/-- What has nothing to do with the caches may come before. -/
lemma forgetsLast_bind {x : Action α} {f : α → Action Unit} (h : Uncached x)
    (hf : ∀ a, ForgetsLast (f a)) : ForgetsLast (x >>= f) := by
  intro setting s e hfails
  have hcaches := h.caches_eq setting s
  have hnot := h.not_cache setting s e
  have hwith : ∀ c : MemberCache, x setting (s.withMembers c) =
      ((x setting s).1, (x setting s).2.withMembers c) := by
    intro c
    rw [State.withMembers, h.run_with, State.withMembers, hcaches]
  rw [run_bind] at hfails
  rw [run_bind]
  rcases hrun : x setting s with ⟨⟨e'⟩ | ⟨a⟩, s₁⟩
  · rw [hrun] at hfails hnot
    exact absurd (Except.error.inj hfails) fun he => hnot (congrArg _ he)
  · rw [hrun] at hfails hcaches
    obtain ⟨hfailing, hmemory⟩ := hf a setting s₁ e hfails
    refine ⟨hcaches ▸ hfailing, fun c => ?_⟩
    rw [run_bind_ok (by rw [hwith c, hrun])]
    exact hmemory c

lemma uncached_grantAll (groupId : String) (members : List MemberRole) :
    Uncached (grantAll groupId members) :=
  .mapM fun _ => uncached_now.bind fun _ => uncached_pure _

lemma forgetsLast_createMemberships (token groupId : String) (members : List MemberRole) :
    ForgetsLast (createMemberships token groupId members) :=
  forgetsLast_bind uncached_canAccess fun _ => forgetsLast_bind (uncached_ask _ _) fun _ =>
    forgetsLast_bind (uncached_grantAll groupId members) fun _ =>
      forgetsLast_bind (uncached_change _ _) fun _ => forgetsLast_forgetMembers _ _

lemma forgetsLast_updateMemberships (token groupId : String) (members : List MemberRole) :
    ForgetsLast (updateMemberships token groupId members) :=
  forgetsLast_bind uncached_canAccess fun _ =>
    forgetsLast_bind (uncached_grantAll groupId members) fun _ =>
      forgetsLast_bind (uncached_change _ _) fun _ => forgetsLast_forgetMembers _ _

lemma forgetsLast_removeMemberships (token groupId : String) (memberIds : List String) :
    ForgetsLast (removeMemberships token groupId memberIds) :=
  forgetsLast_bind uncached_canAccess fun _ =>
    forgetsLast_bind (uncached_change _ _) fun _ => forgetsLast_forgetMembers memberIds id

/-! ## All of them -/

/-- An operation without an answer spares the records if what it carries out does. -/
lemma sparesRecords_completed {x : Action Unit} (h : SparesRecords x) :
    SparesRecords (Operation.completed x) := by
  intro setting s e hfails
  rw [run_completed]
  exact h setting s e (completed_error hfails)

/-- The records are those of an operation that succeeds if what it carries out forgets last. -/
lemma ForgetsLast.completed {x : Action Unit} (h : ForgetsLast x) {e : CacheError}
    (hfails : (Operation.completed x setting s).1 = .error (.cache e)) :
    s.caches.groups = .failing ∧ ∀ c : MemberCache,
      (Operation.completed x setting (s.withMembers c)).1 = .ok .done ∧
        (Operation.completed x setting (s.withMembers c)).2.store =
          (Operation.completed x setting s).2.store := by
  obtain ⟨hfailing, hmemory⟩ := h setting s e (completed_error hfails)
  simp only [run_completed]
  refine ⟨hfailing, fun c => ⟨?_, (hmemory c).2⟩⟩
  rw [(hmemory c).1]
  rfl

namespace Operation

/-- Does the operation change things or profiles one at a time, or take out things, profiles or
groups? -/
def revises : Operation → Bool
  | .updateThing .. | .updateKey .. | .updateProfile .. => true
  | .removeThings .. | .removeProfiles .. | .removeGroups .. => true
  | _ => false

/-- Does the operation change who has a role in a group that there is? -/
def changesMembers : Operation → Bool
  | .createMemberships .. | .updateMemberships .. | .removeMemberships .. => true
  | _ => false

lemma sparesRecords_run {op : Operation} (h : op.revises = true) : SparesRecords op.run := by
  cases op with
  | updateThing token t => exact sparesRecords_completed (sparesRecords_updateThing token t)
  | updateKey token id key => exact sparesRecords_completed (sparesRecords_updateKey token id key)
  | updateProfile token p => exact sparesRecords_completed (sparesRecords_updateProfile token p)
  | removeThings token ids => exact sparesRecords_completed (sparesRecords_removeThings token ids)
  | removeProfiles token ids =>
    exact sparesRecords_completed (sparesRecords_removeProfiles token ids)
  | removeGroups token ids => exact sparesRecords_completed (sparesRecords_removeGroups token ids)
  | _ => simp [revises] at h

end Operation

/-- **A cache that fails does not leave half a change.**  In every state, with whatever records and
caches, when an operation fails because of a cache: if it changes or takes out things or profiles
or takes out groups, the store is as before.  If it changes who has a role in a group, it was the
cache of members that failed, and the change is complete: the store is the one that the operation
leaves when it succeeds, as it does with any cache of members in memory. -/
theorem cache_failure_leaves_no_half (setting : Setting) (s : State) (op : Operation)
    {e : CacheError} (h : (op.run setting s).1 = .error (.cache e)) :
    (op.revises = true → (op.run setting s).2.store = s.store) ∧
      (op.changesMembers = true → s.caches.groups = .failing ∧ ∀ c : MemberCache,
        (op.run setting (s.withMembers c)).1 = .ok .done ∧
          (op.run setting (s.withMembers c)).2.store = (op.run setting s).2.store) := by
  refine ⟨fun hrevises => Operation.sparesRecords_run hrevises setting s e h, fun hmembers => ?_⟩
  cases op with
  | createMemberships token groupId members =>
    exact (forgetsLast_createMemberships token groupId members).completed h
  | updateMemberships token groupId members =>
    exact (forgetsLast_updateMemberships token groupId members).completed h
  | removeMemberships token groupId memberIds =>
    exact (forgetsLast_removeMemberships token groupId memberIds).completed h
  | _ => simp [Operation.changesMembers] at hmembers

/-- The small fleet with caches whose changes fail. -/
def jammedFleet : State := { smallFleet with caches := ⟨.failing, .failing, .failing⟩ }

/-- The cache of things fails before the key of the sensor is changed, and the cache of members
after a guest has joined. -/
theorem jammed_fleet_changes :
    ((Operation.updateKey "owner" "sensor" "other").run permissive jammedFleet).2.store =
        jammedFleet.store ∧
      ((Operation.createMemberships "owner" "group" [⟨"guest", .viewer⟩]).run permissive
          (jammedFleet.withMembers (.empty true))).1 = .ok .done := by
  have hkey : ((Operation.updateKey "owner" "sensor" "other").run permissive jammedFleet).1 =
      .error (.cache (.unavailable "injected failure")) := by decide +kernel
  have hguest : ((Operation.createMemberships "owner" "group" [⟨"guest", .viewer⟩]).run permissive
      jammedFleet).1 = .error (.cache (.unavailable "injected failure")) := by decide +kernel
  exact ⟨(cache_failure_leaves_no_half permissive jammedFleet _ hkey).1 rfl,
    (((cache_failure_leaves_no_half permissive jammedFleet _ hguest).2 rfl).2 (.empty true)).1⟩

/-- A guest joins the group although the caller hears that a cache has failed. -/
theorem guest_joins_despite_failure :
    Reachable anyCall true smallFleet ∧ jammedFleet.store = smallFleet.store ∧
      ((Operation.createMemberships "owner" "group" [⟨"guest", .viewer⟩]).run permissive
        jammedFleet).1 = .error (.cache (.unavailable "injected failure")) ∧
      ((Operation.createMemberships "owner" "group" [⟨"guest", .viewer⟩]).run permissive
        jammedFleet).2.store ≠ jammedFleet.store :=
  ⟨reachable_smallFleet fun _ _ _ => trivial, rfl, by decide +kernel, by decide +kernel⟩

end Service

end DeviceFleet
