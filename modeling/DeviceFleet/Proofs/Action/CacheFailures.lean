/-
# Caches that fail

A cache that cannot be written makes the action fail that tries to.  What has become of the
records by then depends on where in the action that happens.  This file tells three kinds of
actions apart, whatever caches they find: those that leave the records alone, those that have
nothing to do with the caches, and those that have left the records alone in case they fail
because of a cache.  The last kind is what comes of actions of the first two kinds, one after the
other in this order.
-/
import DeviceFleet.Proofs.Action.ReadOnly

namespace DeviceFleet.Action

variable {α β : Type} {setting : Setting} {s : State} {x : Action α}

/-! ## Leaving the records alone -/

/-- However it ends, the action leaves the records as they are. -/
def LeavesRecords (x : Action α) : Prop :=
  ∀ (setting : Setting) (s : State), (x setting s).2.store = s.store

lemma leavesRecords_of_unchanged (h : ∀ setting (s : State), s.Unchanged (x setting s).2) :
    LeavesRecords x :=
  fun setting s => (h setting s).store

lemma leavesRecords_pure (a : α) : LeavesRecords (pure a : Action α) := fun _ _ => rfl

lemma leavesRecords_throw (e : ServiceError) : LeavesRecords (throw e : Action α) :=
  fun _ _ => rfl

namespace LeavesRecords

lemma bind {f : α → Action β} (h : LeavesRecords x) (hf : ∀ a, LeavesRecords (f a)) :
    LeavesRecords (x >>= f) := by
  intro setting s
  have hx := h setting s
  rw [run_bind]
  rcases hrun : x setting s with ⟨⟨e⟩ | ⟨a⟩, s'⟩
  · rwa [hrun] at hx
  · rw [hrun] at hx
    exact (hf a setting s').trans hx

lemma forM {f : α → Action Unit} {xs : List α} (hf : ∀ x, LeavesRecords (f x)) :
    LeavesRecords (xs.forM f) := by
  induction xs with
  | nil => exact leavesRecords_pure ()
  | cons x xs ih => exact (hf x).bind fun _ => ih

/-- The records are as before, whatever else is known of the end. -/
lemma ensures (h : LeavesRecords x) (setting : Setting) (s : State) :
    x.Ensures setting s (fun _ s' => s'.store = s.store) (fun _ s' => s'.store = s.store) :=
  ensures_of_state (P := fun s' => s'.store = s.store) (h setting s)

end LeavesRecords

lemma leavesRecords_report (level : LogLevel) (target message : String)
    (fields : List (String × LogValue)) : LeavesRecords (report level target message fields) :=
  fun _ _ => rfl

lemma leavesRecords_ask (method : Store.Method) (f : Store → Except StoreError α) :
    LeavesRecords (ask method f) :=
  leavesRecords_of_unchanged (unchanged_ask method f)

lemma leavesRecords_lookUp (kind : CacheKind) (cache : Caches → Lookaside α)
    (find : α → Option β) : LeavesRecords (lookUp kind cache find) :=
  fun _ _ => rfl

/-- Whichever cache of things there is: it is changed, or that fails. -/
lemma run_changeThingCache_lookaside (f : ResourceCache → ResourceCache) :
    changeThingCache f setting s =
      ((s.caches.things.change f).1.mapError .cache,
        { s with caches := { s.caches with things := (s.caches.things.change f).2 } }) := by
  simp only [changeThingCache, run_bind, run_get, run_modify]
  rcases s.caches.things.change f with ⟨⟨e⟩ | ⟨⟨⟩⟩, cache⟩ <;> rfl

lemma leavesRecords_changeThingCache (f : ResourceCache → ResourceCache) :
    LeavesRecords (changeThingCache f) := fun _ _ => by rw [run_changeThingCache_lookaside]

/-- Whichever cache of profiles there is: it is changed, or that fails. -/
lemma run_changeProfileCache_lookaside (f : ResourceCache → ResourceCache) :
    changeProfileCache f setting s =
      ((s.caches.profiles.change f).1.mapError .cache,
        { s with caches := { s.caches with profiles := (s.caches.profiles.change f).2 } }) := by
  simp only [changeProfileCache, run_bind, run_get, run_modify]
  rcases s.caches.profiles.change f with ⟨⟨e⟩ | ⟨⟨⟩⟩, cache⟩ <;> rfl

lemma leavesRecords_changeProfileCache (f : ResourceCache → ResourceCache) :
    LeavesRecords (changeProfileCache f) := fun _ _ => by rw [run_changeProfileCache_lookaside]

/-- Whichever cache of members there is: it is changed, or that fails. -/
lemma run_changeMemberCache_lookaside (f : MemberCache → MemberCache) :
    changeMemberCache f setting s =
      ((s.caches.groups.change f).1.mapError .cache,
        { s with caches := { s.caches with groups := (s.caches.groups.change f).2 } }) := by
  simp only [changeMemberCache, run_bind, run_get, run_modify]
  rcases s.caches.groups.change f with ⟨⟨e⟩ | ⟨⟨⟩⟩, cache⟩ <;> rfl

lemma leavesRecords_changeMemberCache (f : MemberCache → MemberCache) :
    LeavesRecords (changeMemberCache f) := fun _ _ => by rw [run_changeMemberCache_lookaside]

/-! ## Having nothing to do with the caches -/

/-- The action neither reads nor changes a cache, nor does it fail because of one. -/
structure Uncached (x : Action α) : Prop where
  /-- With other caches the same happens, and these stay as they are. -/
  run_with : ∀ (setting : Setting) (s : State) (caches : Caches),
    x setting { s with caches := caches } =
      ((x setting s).1, { (x setting s).2 with caches := caches })
  /-- It does not fail because of a cache. -/
  not_cache : ∀ (setting : Setting) (s : State) (e : CacheError),
    (x setting s).1 ≠ .error (.cache e)

lemma uncached_pure (a : α) : Uncached (pure a : Action α) := ⟨fun _ _ _ => rfl, by simp⟩

lemma uncached_throw {e : ServiceError} (he : ∀ e', e ≠ .cache e') :
    Uncached (throw e : Action α) :=
  ⟨fun _ _ _ => rfl, fun _ _ e' => by simpa using he e'⟩

namespace Uncached

lemma caches_eq (h : Uncached x) (setting : Setting) (s : State) :
    (x setting s).2.caches = s.caches :=
  congrArg (fun r => r.2.caches) (h.run_with setting s s.caches)

lemma ensures (h : Uncached x) (setting : Setting) (s : State) :
    x.Ensures setting s (fun _ s' => s'.caches = s.caches)
      (fun e s' => s'.caches = s.caches ∧ ∀ e', e ≠ .cache e') := by
  have hcaches := h.caches_eq setting s
  rw [ensures_iff]
  refine ⟨fun a s' hrun => ?_, fun e s' hrun => ⟨?_, fun e' he => ?_⟩⟩
  · rwa [hrun] at hcaches
  · rwa [hrun] at hcaches
  · exact h.not_cache setting s e' (by rw [hrun, he])

lemma bind {f : α → Action β} (h : Uncached x) (hf : ∀ a, Uncached (f a)) :
    Uncached (x >>= f) := by
  constructor
  · intro setting s caches
    rw [run_bind, run_bind, h.run_with]
    rcases x setting s with ⟨⟨e⟩ | ⟨a⟩, s'⟩
    · rfl
    · exact (hf a).run_with setting s' caches
  · intro setting s e
    have hx := h.not_cache setting s e
    rw [run_bind]
    rcases hrun : x setting s with ⟨⟨e'⟩ | ⟨a⟩, s'⟩
    · simpa [hrun] using hx
    · exact (hf a).not_cache setting s' e

/-- What follows an attempt may rely on it that no cache has failed. -/
lemma attempt_bind {f : Except ServiceError α → Action β} (h : Uncached x)
    (hok : ∀ a, Uncached (f (.ok a)))
    (herror : ∀ e, (∀ e', e ≠ .cache e') → Uncached (f (.error e))) :
    Uncached (attempt x >>= f) := by
  have hf : ∀ setting s, Uncached (f (x setting s).1) := by
    intro setting s
    have hx := h.not_cache setting s
    rcases hresult : (x setting s).1 with e | a
    · refine herror e fun e' he => hx e' ?_
      rw [hresult, he]
    · exact hok a
  constructor
  · intro setting s caches
    rw [run_bind, run_bind, run_attempt, run_attempt, h.run_with]
    exact (hf setting s).run_with setting (x setting s).2 caches
  · intro setting s e
    rw [run_bind, run_attempt]
    exact (hf setting s).not_cache setting (x setting s).2 e

lemma mapM {f : α → Action β} {xs : List α} (hf : ∀ x, Uncached (f x)) :
    Uncached (xs.mapM f) := by
  induction xs with
  | nil => exact uncached_pure []
  | cons x xs ih =>
    rw [List.mapM_cons]
    exact (hf x).bind fun b => ih.bind fun bs => uncached_pure (b :: bs)

end Uncached

lemma uncached_report (level : LogLevel) (target message : String)
    (fields : List (String × LogValue)) : Uncached (report level target message fields) :=
  ⟨fun _ _ _ => rfl, by simp⟩

lemma uncached_now : Uncached now := ⟨fun _ _ _ => rfl, by simp⟩

lemma ofStore_ne_cache (e : StoreError) (e' : CacheError) : ServiceError.ofStore e ≠ .cache e' := by
  cases e <;> simp [ServiceError.ofStore]

lemma mapError_ofStore_ne_cache (result : Except StoreError α) (e : CacheError) :
    result.mapError ServiceError.ofStore ≠ .error (.cache e) := by
  rcases result with e' | a
  · simpa [Except.mapError] using ofStore_ne_cache e' e
  · simp [Except.mapError]

lemma uncached_ask (method : Store.Method) (f : Store → Except StoreError α) :
    Uncached (ask method f) := by
  constructor
  · intro setting s caches
    rw [run_ask, run_ask]
    split <;> rfl
  · intro setting s e
    rw [run_ask]
    split
    · simp [ofStore_ne_cache]
    · exact mapError_ofStore_ne_cache _ e

lemma uncached_change (method : Store.Method) (f : Store → Store.Outcome α) :
    Uncached (change method f) := by
  constructor
  · intro setting s caches
    rw [run_change, run_change]
    split <;> rfl
  · intro setting s e
    rw [run_change]
    split
    · simp [ofStore_ne_cache]
    · exact mapError_ofStore_ne_cache _ e

lemma uncached_changeAlong (method : Store.Method) (f : Store.Walk → Store → Store.Outcome α) :
    Uncached (changeAlong method f) where
  run_with setting s caches := (uncached_change method _).run_with setting s caches
  not_cache setting s e := (uncached_change method _).not_cache setting s e

lemma settle_ne_cache {rpcTimeout : Nat} {refused : ClientError → ServiceError} {reply : Reply α}
    (hrefused : ∀ e e', refused e ≠ .cache e') (e : CacheError) :
    settle rpcTimeout refused reply ≠ .error (.cache e) := by
  unfold settle
  split
  · simp
  · rcases reply.answer with e' | a
    · simpa [Except.mapError] using hrefused e' e
    · simp [Except.mapError]

lemma permissionRefused_ne_cache (e : ClientError) (e' : CacheError) :
    permissionRefused e ≠ .cache e' := by
  cases e <;> simp [permissionRefused]

lemma uncached_authorize (request : AuthorizeRequest) : Uncached (authorize request) := by
  constructor
  · intro setting s caches
    rw [run_authorize, run_authorize]
  · intro setting s e
    rw [run_authorize]
    exact settle_ne_cache permissionRefused_ne_cache e

/-! ## Failing because of a cache -/

/-- If the action fails because of a cache, it leaves the records as they are. -/
def SparesRecords (x : Action α) : Prop :=
  ∀ (setting : Setting) (s : State) (e : CacheError),
    (x setting s).1 = .error (.cache e) → (x setting s).2.store = s.store

lemma sparesRecords_of_ensures (h : ∀ (setting : Setting) (s : State),
    x.Ensures setting s (fun _ _ => True)
      (fun e s' => (∃ e', e = .cache e') → s'.store = s.store)) :
    SparesRecords x := fun setting s e hfails =>
  (h setting s).of_fst_error hfails ⟨e, rfl⟩

lemma Uncached.spares (h : Uncached x) : SparesRecords x := fun setting s e hfails =>
  absurd hfails (h.not_cache setting s e)

/-- What leaves the records alone may come first. -/
lemma LeavesRecords.bind_spares {f : α → Action β} (h : LeavesRecords x)
    (hf : ∀ a, SparesRecords (f a)) : SparesRecords (x >>= f) := by
  intro setting s e
  have hx := h setting s
  rw [run_bind]
  rcases hrun : x setting s with ⟨⟨e'⟩ | ⟨a⟩, s'⟩
  · rw [hrun] at hx
    exact fun _ => hx
  · rw [hrun] at hx
    exact fun hfails => (hf a setting s' e hfails).trans hx

end DeviceFleet.Action
