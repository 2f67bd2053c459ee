/-
# Actions that only read

An action that only reads leaves the store as it is, and it keeps a coherent state coherent, even
though it may change what the caches remember.  Whether the caches are turned on makes no
difference to its result.  All this carries over from the steps of an action to the action, so
that for most operations of the service there is nothing else to say.
-/
import DeviceFleet.Proofs.Action.Twin

namespace DeviceFleet

variable {s s' s'' : State}

/-- The state `s'` comes later than `s` and is coherent, and the store is the same. -/
structure State.Keeps (s s' : State) : Prop where
  /-- The store is the same. -/
  store : s'.store = s.store
  /-- The state is coherent. -/
  coherent : s'.Coherent
  /-- Something may have been asked. -/
  precedes : s.Precedes s'

namespace State.Keeps

lemma refl (h : s.Coherent) : s.Keeps s := ⟨rfl, h, .refl s⟩

lemma trans (h : s.Keeps s') (h' : s'.Keeps s'') : s.Keeps s'' :=
  ⟨h'.store.trans h.store, h'.coherent, h.precedes.trans h'.precedes⟩

end State.Keeps

lemma State.Unchanged.keeps (h : s.Unchanged s') (hs : s.Coherent) : s.Keeps s' :=
  ⟨h.store, hs.congr h.store h.caches, h.precedes⟩

namespace Action

variable {α β : Type} {x : Action α}

/-- The action leaves the store alone, keeps states coherent, and does not depend on the caches. -/
structure ReadOnly (x : Action α) : Prop where
  /-- The store is left alone, and coherent states stay coherent. -/
  keeps : ∀ {setting : Setting} {s : State}, s.Coherent → s.Keeps (x setting s).2
  /-- The result does not depend on the caches. -/
  couples : Couples State.Coherent x

lemma ReadOnly.coherent (h : ReadOnly x) {setting : Setting} {s : State} (hs : s.Coherent) :
    (x setting s).2.Coherent :=
  (h.keeps hs).coherent

lemma ReadOnly.ensures (h : ReadOnly x) {setting : Setting} {s : State} (hs : s.Coherent) :
    x.Ensures setting s (fun _ s' => s.Keeps s') (fun _ s' => s.Keeps s') :=
  ensures_of_state (h.keeps hs)

/-! ## From the steps to the action -/

lemma readOnly_of_unchanged (h : ∀ setting (s : State), s.Unchanged (x setting s).2)
    (hblind : Blind x) : ReadOnly x :=
  ⟨fun hs => (h _ _).keeps hs, hblind.weaken fun _ _ => trivial⟩

lemma readOnly_pure (a : α) : ReadOnly (pure a : Action α) :=
  readOnly_of_unchanged (fun _ s => .refl s) (blind_pure a)

lemma readOnly_throw (e : ServiceError) : ReadOnly (throw e : Action α) :=
  readOnly_of_unchanged (fun _ s => .refl s) (blind_throw e)

namespace ReadOnly

lemma bind {f : α → Action β} (h : ReadOnly x) (hf : ∀ a, ReadOnly (f a)) : ReadOnly (x >>= f) := by
  refine ⟨?_, h.couples.bind h.coherent fun a => (hf a).couples⟩
  intro setting s hs
  have hkeeps : s.Keeps (x setting s).2 := h.keeps hs
  rw [run_bind]
  rcases hx : x setting s with ⟨⟨e⟩ | ⟨a⟩, s'⟩
  · rwa [hx] at hkeeps
  · rw [hx] at hkeeps
    exact hkeeps.trans ((hf a).keeps hkeeps.coherent)

lemma map (h : ReadOnly x) (f : α → β) : ReadOnly (f <$> x) := by
  refine ⟨fun hs => ?_, h.couples.map f⟩
  rw [run_map]
  exact h.keeps hs

lemma attempt (h : ReadOnly x) : ReadOnly (attempt x) := ⟨h.keeps, h.couples.attempt⟩

lemma forM {f : α → Action Unit} {xs : List α} (hf : ∀ x ∈ xs, ReadOnly (f x)) :
    ReadOnly (xs.forM f) := by
  induction xs with
  | nil => exact readOnly_pure ()
  | cons x xs ih =>
    exact bind (f := fun _ => xs.forM f) (hf x List.mem_cons_self) fun _ =>
      ih fun y hy => hf y (List.mem_cons_of_mem _ hy)

lemma mapM {f : α → Action β} {xs : List α} (hf : ∀ x ∈ xs, ReadOnly (f x)) :
    ReadOnly (xs.mapM f) := by
  induction xs with
  | nil => exact readOnly_pure []
  | cons x xs ih =>
    rw [List.mapM_cons]
    have htail : ReadOnly (xs.mapM f) := ih fun y hy => hf y (List.mem_cons_of_mem _ hy)
    exact (hf x List.mem_cons_self).bind fun b => htail.bind fun bs => readOnly_pure (b :: bs)

/-- A check comes first. -/
lemma check {p : Prop} [Decidable p] {e : ServiceError} {next : Unit → Action α}
    (h : ReadOnly (next ())) : ReadOnly (if p then throw e >>= next else next ()) := by
  split
  · exact (readOnly_throw e).bind fun _ => h
  · exact h

end ReadOnly

/-! ## The building blocks -/

lemma unchanged_ask (method : Store.Method) (f : Store → Except StoreError α) (setting : Setting)
    (s : State) : s.Unchanged (ask method f setting s).2 := by
  rw [run_ask]
  split <;> exact .refl s

lemma readOnly_ask (method : Store.Method) (f : Store → Except StoreError α) :
    ReadOnly (ask method f) :=
  readOnly_of_unchanged (unchanged_ask method f) (blind_ask method f)

lemma unchanged_report (level : LogLevel) (target message : String)
    (fields : List (String × LogValue)) (setting : Setting) (s : State) :
    s.Unchanged (report level target message fields setting s).2 :=
  ⟨rfl, rfl, .of_eq rfl rfl⟩

lemma readOnly_report (level : LogLevel) (target message : String)
    (fields : List (String × LogValue)) : ReadOnly (report level target message fields) :=
  readOnly_of_unchanged (unchanged_report level target message fields)
    (blind_report level target message fields)

lemma unchanged_authorize (request : AuthorizeRequest) (setting : Setting) (s : State) :
    s.Unchanged (authorize request setting s).2 :=
  ((ensures_authorize request).mono (fun _ _ h => h.1) fun _ _ h => h).state

lemma readOnly_authorize (request : AuthorizeRequest) : ReadOnly (authorize request) :=
  readOnly_of_unchanged (unchanged_authorize request) (blind_authorize request)

lemma unchanged_identifyCaller (token : String) (setting : Setting) (s : State) :
    s.Unchanged (identifyCaller token setting s).2 := by
  rw [run_identifyCaller]
  exact ⟨rfl, rfl, Nat.le_succ _, List.suffix_refl _⟩

lemma readOnly_identifyCaller (token : String) : ReadOnly (identifyCaller token) :=
  readOnly_of_unchanged (unchanged_identifyCaller token) (blind_identifyCaller token)

lemma readOnly_findUsers (ids : List String) : ReadOnly (findUsers ids) := by
  refine readOnly_of_unchanged (fun setting s => ?_) (blind_findUsers ids)
  rw [run_findUsers]
  exact ⟨rfl, rfl, Nat.le_succ _, List.suffix_refl _⟩

lemma unchanged_newId (setting : Setting) (s : State) : s.Unchanged (newId setting s).2 := by
  rw [run_newId]
  exact ⟨rfl, rfl, .of_eq rfl rfl⟩

lemma readOnly_newId : ReadOnly newId := readOnly_of_unchanged unchanged_newId blind_newId

lemma readOnly_now : ReadOnly now :=
  readOnly_of_unchanged (fun _ _ => ⟨rfl, rfl, .of_eq rfl rfl⟩) blind_now

/-! ## Forgetting

What is forgotten cannot be wrong. -/

section Forget

variable {setting : Setting} {id : String}

lemma keeps_changeThingCache (hs : s.Coherent) {f : ResourceCache → ResourceCache}
    (hf : ∀ c, c.Mirrors s.store.NamesThing s.store.OwnsThing →
      (f c).Mirrors s.store.NamesThing s.store.OwnsThing) :
    s.Keeps (changeThingCache f setting s).2 := by
  obtain ⟨c, hc, hmirrors⟩ := hs.mirrors.things
  rw [run_changeThingCache hc]
  exact ⟨rfl, ⟨hs.sound, ⟨_, rfl, hf c hmirrors⟩, hs.mirrors.profiles, hs.mirrors.groups⟩,
    .of_eq rfl rfl⟩

lemma keeps_changeProfileCache (hs : s.Coherent) {f : ResourceCache → ResourceCache}
    (hf : ∀ c, c.Mirrors (fun _ _ => False) s.store.OwnsProfile →
      (f c).Mirrors (fun _ _ => False) s.store.OwnsProfile) :
    s.Keeps (changeProfileCache f setting s).2 := by
  obtain ⟨c, hc, hmirrors⟩ := hs.mirrors.profiles
  rw [run_changeProfileCache hc]
  exact ⟨rfl, ⟨hs.sound, hs.mirrors.things, ⟨_, rfl, hf c hmirrors⟩, hs.mirrors.groups⟩,
    .of_eq rfl rfl⟩

lemma keeps_changeMemberCache (hs : s.Coherent) {f : MemberCache → MemberCache}
    (hf : ∀ c, c.Mirrors s.store.groupIdsOfMember → (f c).Mirrors s.store.groupIdsOfMember) :
    s.Keeps (changeMemberCache f setting s).2 := by
  obtain ⟨c, hc, hmirrors⟩ := hs.mirrors.groups
  rw [run_changeMemberCache hc]
  exact ⟨rfl, ⟨hs.sound, hs.mirrors.things, hs.mirrors.profiles, ⟨_, rfl, hf c hmirrors⟩⟩,
    .of_eq rfl rfl⟩

/-- What is known of the state after a change of the cache of things that only forgets. -/
lemma ReadOnly.ensures_changeThingCache {f : ResourceCache → ResourceCache}
    (h : ReadOnly (changeThingCache f)) (hs : s.Coherent) {c : ResourceCache}
    (hc : s.caches.things = .memory c) {E : ServiceError → State → Prop} :
    (changeThingCache f).Ensures setting s
      (fun _ s' => s.Keeps s' ∧ s'.caches = { s.caches with things := .memory (f c) }) E := by
  have hkeeps : s.Keeps (changeThingCache f setting s).2 := h.keeps hs
  rw [run_changeThingCache hc] at hkeeps
  exact Action.ensures_changeThingCache hc ⟨hkeeps, rfl⟩

/-- What is known of the state after a change of the cache of profiles that only forgets. -/
lemma ReadOnly.ensures_changeProfileCache {f : ResourceCache → ResourceCache}
    (h : ReadOnly (changeProfileCache f)) (hs : s.Coherent) {c : ResourceCache}
    (hc : s.caches.profiles = .memory c) {E : ServiceError → State → Prop} :
    (changeProfileCache f).Ensures setting s
      (fun _ s' => s.Keeps s' ∧ s'.caches = { s.caches with profiles := .memory (f c) }) E := by
  have hkeeps : s.Keeps (changeProfileCache f setting s).2 := h.keeps hs
  rw [run_changeProfileCache hc] at hkeeps
  exact Action.ensures_changeProfileCache hc ⟨hkeeps, rfl⟩

/-- What is known of the state after a change of the cache of members that only forgets. -/
lemma ReadOnly.ensures_changeMemberCache {f : MemberCache → MemberCache}
    (h : ReadOnly (changeMemberCache f)) (hs : s.Coherent) {c : MemberCache}
    (hc : s.caches.groups = .memory c) {E : ServiceError → State → Prop} :
    (changeMemberCache f).Ensures setting s
      (fun _ s' => s.Keeps s' ∧ s'.caches = { s.caches with groups := .memory (f c) }) E := by
  have hkeeps : s.Keeps (changeMemberCache f setting s).2 := h.keeps hs
  rw [run_changeMemberCache hc] at hkeeps
  exact Action.ensures_changeMemberCache hc ⟨hkeeps, rfl⟩

lemma readOnly_forgetThingKeys (id : String) :
    ReadOnly (changeThingCache (ResourceCache.remove id)) :=
  ⟨fun hs => keeps_changeThingCache hs fun _ h => h.remove id,
    (blind_changeThingCache (ResourceCache.remove_empty id false)).weaken fun _ _ => trivial⟩

lemma readOnly_forgetThingGroup (id : String) :
    ReadOnly (changeThingCache (ResourceCache.removeGroup id)) :=
  ⟨fun hs => keeps_changeThingCache hs fun _ h => h.removeGroup id,
    (blind_changeThingCache (ResourceCache.removeGroup_empty id false)).weaken fun _ _ => trivial⟩

lemma readOnly_forgetProfileGroup (id : String) :
    ReadOnly (changeProfileCache (ResourceCache.removeGroup id)) :=
  ⟨fun hs => keeps_changeProfileCache hs fun _ h => h.removeGroup id,
    (blind_changeProfileCache (ResourceCache.removeGroup_empty id false)).weaken fun _ _ => trivial⟩

lemma readOnly_forgetMember (id : String) : ReadOnly (changeMemberCache (MemberCache.remove id)) :=
  ⟨fun hs => keeps_changeMemberCache hs fun _ h => h.remove id,
    (blind_changeMemberCache (MemberCache.remove_empty id false)).weaken fun _ _ => trivial⟩

lemma readOnly_forgetGroup (id : String) :
    ReadOnly (changeMemberCache (MemberCache.removeGroup id)) :=
  ⟨fun hs => keeps_changeMemberCache hs fun _ h => h.removeGroup id,
    (blind_changeMemberCache (MemberCache.removeGroup_empty id false)).weaken fun _ _ => trivial⟩

end Forget

end Action

end DeviceFleet
