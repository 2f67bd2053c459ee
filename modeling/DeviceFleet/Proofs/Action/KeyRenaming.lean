/-
# Actions that do not look at keys

Two actions correspond when they do the same but for the keys: started in states that are the same
but for the keys, they end alike in such states, and meanwhile both count and report the same.  What
was counted and reported before may be different, so that this is also about one action in two
states that differ in nothing else.

Every building block of an action corresponds to itself, or to the building block with other keys in
its arguments, and actions that are put together in the same way correspond when their parts do.
-/
import DeviceFleet.Proofs.Action.Progress
import DeviceFleet.Proofs.Cache.KeyRenaming

namespace DeviceFleet

variable {ρ : KeyRenaming} {setting : Setting} {s s' s'' t t' t'' : State}

/-- Collaborators that look into the store do not look at the keys of things. -/
structure Collaborators.IgnoreKeys (collaborators : Collaborators) : Prop where
  /-- The one that grants permissions does not. -/
  authorize : ∀ calls store request,
    collaborators.authorize calls store.withoutKeys request =
      collaborators.authorize calls store request
  /-- The one that knows the callers does not. -/
  identify : ∀ calls store token,
    collaborators.identify calls store.withoutKeys token =
      collaborators.identify calls store token
  /-- The directory of users does not. -/
  findUsers : ∀ calls store ids,
    collaborators.findUsers calls store.withoutKeys ids =
      collaborators.findUsers calls store ids

/-- The collaborators answer the same when keys are different, and every identifier that they give
stays the same as a key. -/
structure Setting.Overlooks (setting : Setting) (ρ : KeyRenaming) : Prop where
  /-- The collaborator that grants permissions does. -/
  authorize : ∀ {a b : Store}, a.Renamed ρ b → ∀ calls request,
    setting.authorize calls b request = setting.authorize calls a request
  /-- The collaborator that knows the callers does. -/
  identify : ∀ {a b : Store}, a.Renamed ρ b → ∀ calls token,
    setting.identify calls b token = setting.identify calls a token
  /-- The directory of users does. -/
  findUsers : ∀ {a b : Store}, a.Renamed ρ b → ∀ calls ids,
    setting.findUsers calls b ids = setting.findUsers calls a ids
  /-- A new identifier stays the same. -/
  newId : ∀ {taken : Nat} {id : String}, setting.newId taken = .ok id → ρ id = id

/-- Those who do not look at keys overlook that they are different. -/
lemma Collaborators.IgnoreKeys.overlooks (h : setting.toCollaborators.IgnoreKeys)
    (hids : ∀ taken id, setting.newId taken = .ok id → ρ id = id) : setting.Overlooks ρ where
  authorize hab calls request := by
    rw [← h.authorize, hab.withoutKeys_eq, h.authorize]
  identify hab calls token := by
    rw [← h.identify, hab.withoutKeys_eq, h.identify]
  findUsers hab calls ids := by
    rw [← h.findUsers, hab.withoutKeys_eq, h.findUsers]
  newId hid := hids _ _ hid

namespace Series

/-- Look-ups in caches are counted here. -/
def OfCache (series : Series) : Prop :=
  ∃ kind, series = .cacheHit kind ∨ series = .cacheMiss kind

end Series

namespace State

/-- The state `t` is `s` with other keys, apart from what was counted and reported. -/
structure Renamed (ρ : KeyRenaming) (s t : State) : Prop where
  /-- The store has other keys. -/
  store : s.store.Renamed ρ t.store
  /-- The caches have other keys. -/
  caches : s.caches.Renamed ρ t.caches
  /-- Collaborators were called equally often. -/
  calls : t.calls = s.calls
  /-- As many identifiers were taken. -/
  idsTaken : t.idsTaken = s.idsTaken
  /-- The clock was read equally often. -/
  clockReads : t.clockReads = s.clockReads
  /-- The same was asked. -/
  consultations : t.consultations = s.consultations

/-- From `s` to `s'` the same was counted, nothing but look-ups, and the same was reported as from
`t` to `t'`. -/
structure Alongside (s s' t t' : State) : Prop where
  /-- The same was counted. -/
  metrics : ∃ counted : Registry, (∀ series ∈ counted, series.OfCache) ∧
    s'.metrics = counted ++ s.metrics ∧ t'.metrics = counted ++ t.metrics
  /-- The same was reported. -/
  log : ∃ reported, s'.log = reported ++ s.log ∧ t'.log = reported ++ t.log

namespace Alongside

/-- Nothing was counted and reported. -/
lemma of_eq (hs : s'.metrics = s.metrics) (ht : t'.metrics = t.metrics) (hs' : s'.log = s.log)
    (ht' : t'.log = t.log) : Alongside s s' t t' :=
  ⟨⟨[], List.forall_mem_nil _, hs, ht⟩, ⟨[], hs', ht'⟩⟩

lemma refl (s t : State) : Alongside s s t t := of_eq rfl rfl rfl rfl

/-- Nothing but caches was changed. -/
lemma of_caches {c d : Caches} : Alongside s { s with caches := c } t { t with caches := d } :=
  of_eq rfl rfl rfl rfl

lemma trans (h : Alongside s s' t t') (h' : Alongside s' s'' t' t'') : Alongside s s'' t t'' := by
  obtain ⟨⟨counted, hall, hs, ht⟩, reported, hs₁, ht₁⟩ := h
  obtain ⟨⟨counted', hall', hs', ht'⟩, reported', hs₁', ht₁'⟩ := h'
  refine ⟨⟨counted' ++ counted, List.forall_mem_append.2 ⟨hall', hall⟩, ?_, ?_⟩,
    reported' ++ reported, ?_, ?_⟩
  · rw [hs', hs, List.append_assoc]
  · rw [ht', ht, List.append_assoc]
  · rw [hs₁', hs₁, List.append_assoc]
  · rw [ht₁', ht₁, List.append_assoc]

end Alongside

end State

namespace Action

variable {α α' β β' : Type} {f : α → α'} {g : β → β'}

/-- From the states `s` and `t` two actions end alike; `f` tells what becomes of an answer. -/
structure EndAlike (ρ : KeyRenaming) (f : α → α') (s t : State)
    (o : Except ServiceError α × State) (o' : Except ServiceError α' × State) : Prop where
  /-- Both fail for the same reason, or both answer. -/
  result : o'.1 = o.1.map f
  /-- The states have other keys. -/
  state : o.2.Renamed ρ o'.2
  /-- The same was counted and reported. -/
  alongside : State.Alongside s o.2 t o'.2

/-- In states that are the same but for the keys, the actions end alike. -/
def Corresponds (ρ : KeyRenaming) (f : α → α') (x : Action α) (y : Action α') : Prop :=
  ∀ ⦃setting : Setting⦄ ⦃s t : State⦄, setting.Overlooks ρ → s.Renamed ρ t →
    EndAlike ρ f s t (x setting s) (y setting t)

/-! ## Actions that are put together -/

lemma corresponds_pure (f : α → α') (a : α) : Corresponds ρ f (pure a) (pure (f a)) :=
  fun _ s t _ h => ⟨rfl, h, .refl s t⟩

lemma corresponds_throw (f : α → α') (e : ServiceError) :
    Corresponds ρ f (throw e) (throw e) :=
  fun _ s t _ h => ⟨rfl, h, .refl s t⟩

namespace Corresponds

variable {x : Action α} {y : Action α'}

/-- One action after the other. -/
lemma bind {next : α → Action β} {next' : α' → Action β'} (h : Corresponds ρ f x y)
    (hnext : ∀ a, Corresponds ρ g (next a) (next' (f a))) :
    Corresponds ρ g (x >>= next) (y >>= next') := by
  intro setting s t hsetting hst
  obtain ⟨hresult, hstate, halong⟩ := h hsetting hst
  rw [run_bind, run_bind]
  rcases hx : x setting s with ⟨⟨e⟩ | ⟨a⟩, s'⟩ <;> rcases hy : y setting t with ⟨r, t'⟩ <;>
    rw [hx, hy] at hresult hstate halong
  · obtain rfl : r = .error e := hresult
    exact ⟨rfl, hstate, halong⟩
  · obtain rfl : r = .ok (f a) := hresult
    obtain ⟨hresult', hstate', halong'⟩ := hnext a hsetting hstate
    exact ⟨hresult', hstate', halong.trans halong'⟩

lemma map (h : Corresponds ρ f x y) {k : α → β} {k' : α' → β'} (hk : ∀ a, k' (f a) = g (k a)) :
    Corresponds ρ g (k <$> x) (k' <$> y) := by
  intro setting s t hsetting hst
  obtain ⟨hresult, hstate, halong⟩ := h hsetting hst
  rw [run_map, run_map]
  refine ⟨?_, hstate, halong⟩
  rw [hresult]
  rcases (x setting s).1 with e | a
  · rfl
  · exact congrArg Except.ok (hk a)

lemma discard (h : Corresponds ρ f x y) : Corresponds ρ id (discard x) (discard y) :=
  h.map fun _ => rfl

lemma attempt (h : Corresponds ρ f x y) :
    Corresponds ρ (Except.map f) (attempt x) (attempt y) := by
  intro setting s t hsetting hst
  obtain ⟨hresult, hstate, halong⟩ := h hsetting hst
  rw [run_attempt, run_attempt]
  exact ⟨congrArg Except.ok hresult, hstate, halong⟩

/-- A loop. -/
lemma forM {step : α → Action Unit} {step' : α' → Action Unit}
    (h : ∀ a, Corresponds ρ id (step a) (step' (f a))) (as : List α) :
    Corresponds ρ id (as.forM step) ((as.map f).forM step') := by
  induction as with
  | nil => exact corresponds_pure id ()
  | cons a as ih => exact (h a).bind fun _ => ih

/-- A loop with results. -/
lemma mapM {step : α → Action β} {step' : α' → Action β'}
    (h : ∀ a, Corresponds ρ g (step a) (step' (f a))) (as : List α) :
    Corresponds ρ (List.map g) (as.mapM step) ((as.map f).mapM step') := by
  induction as with
  | nil => exact corresponds_pure (List.map g) []
  | cons a as ih =>
    rw [List.map_cons, List.mapM_cons, List.mapM_cons]
    exact (h a).bind fun b => ih.bind fun bs => corresponds_pure (List.map g) (b :: bs)

/-- A choice that both make in the same way. -/
lemma ite {p p' : Prop} [Decidable p] [Decidable p'] (hp : p' ↔ p) {x' : Action α}
    {y' : Action α'} (h : Corresponds ρ f x y) (h' : Corresponds ρ f x' y') :
    Corresponds ρ f (if p then x else x') (if p' then y else y') := by
  by_cases hholds : p
  · rw [if_pos hholds, if_pos (hp.2 hholds)]
    exact h
  · rw [if_neg hholds, if_neg (mt hp.1 hholds)]
    exact h'

/-- A check comes first. -/
lemma check {p p' : Prop} [Decidable p] [Decidable p'] (hp : p' ↔ p) {e : ServiceError}
    {next : Unit → Action α} {next' : Unit → Action α'}
    (h : Corresponds ρ f (next ()) (next' ())) :
    Corresponds ρ f (if p then throw e >>= next else next ())
      (if p' then throw e >>= next' else next' ()) :=
  .ite hp ((corresponds_throw id e).bind fun _ => h) h

end Corresponds

/-- A loop over the same elements. -/
lemma corresponds_forM {step : α → Action Unit} (h : ∀ a, Corresponds ρ id (step a) (step a))
    (as : List α) : Corresponds ρ id (as.forM step) (as.forM step) := by
  simpa only [List.map_id] using Corresponds.forM (f := id) h as

/-- A loop over the same elements, with the same results. -/
lemma corresponds_mapM {step : α → Action β} (h : ∀ a, Corresponds ρ id (step a) (step a))
    (as : List α) : Corresponds ρ id (as.mapM step) (as.mapM step) := by
  simpa only [List.map_id, List.map_id_fun] using Corresponds.mapM (f := id) h as

/-! ## Building blocks -/

lemma corresponds_report (level : LogLevel) (target message : String)
    (fields : List (String × LogValue)) :
    Corresponds ρ id (report level target message fields) (report level target message fields) := by
  intro setting s t hsetting h
  rw [run_report, run_report]
  exact ⟨rfl, { h with },
    ⟨⟨[], List.forall_mem_nil _, rfl, rfl⟩, [⟨level, target, message, fields⟩], rfl, rfl⟩⟩

/-- A question to the store. -/
lemma corresponds_ask {method : Store.Method} {query : Store → Except StoreError α}
    {query' : Store → Except StoreError α'}
    (hquery : ∀ {a b : Store}, a.Renamed ρ b → query' b = (query a).map f) :
    Corresponds ρ f (ask method query) (ask method query') := by
  intro setting s t hsetting h
  rw [run_ask, run_ask, hquery h.store]
  split
  · exact ⟨rfl, h, .refl s t⟩
  · refine ⟨?_, h, .refl s t⟩
    rcases query s.store with e | a <;> rfl

/-- A question with one answer. -/
lemma corresponds_ask_eq {method : Store.Method} {query query' : Store → Except StoreError α}
    (hquery : ∀ {a b : Store}, a.Renamed ρ b → query' b = query a) :
    Corresponds ρ id (ask method query) (ask method query') := by
  refine corresponds_ask fun {a b} h => ?_
  rw [hquery h]
  rcases query a with e | answer <;> rfl

/-- A question about other records than things. -/
lemma corresponds_ask_same {method : Store.Method} {query : Store → Except StoreError α}
    (hquery : ∀ a : Store, query a.withoutThings = query a) :
    Corresponds ρ id (ask method query) (ask method query) :=
  corresponds_ask_eq fun h => h.query_eq hquery

/-- A change of the store. -/
lemma corresponds_change {method : Store.Method} {request : Store → Store.Outcome α}
    {request' : Store → Store.Outcome α'}
    (hrequest : ∀ {a b : Store}, a.Renamed ρ b →
      Store.Outcome.Renamed ρ f (request a) (request' b)) :
    Corresponds ρ f (change method request) (change method request') := by
  intro setting s t hsetting h
  obtain ⟨hanswer, hstore⟩ := hrequest h.store
  rw [run_change, run_change, hanswer]
  split
  · exact ⟨rfl, h, .refl s t⟩
  · refine ⟨?_, { h with store := hstore }, .of_eq rfl rfl rfl rfl⟩
    rcases (request s.store).1 with e | a <;> rfl

/-- A change of the store after a walk. -/
lemma corresponds_changeAlong {method : Store.Method}
    {request : Store.Walk → Store → Store.Outcome α}
    {request' : Store.Walk → Store → Store.Outcome α'}
    (hrequest : ∀ walk (a b : Store), a.Renamed ρ b →
      Store.Outcome.Renamed ρ f (request walk a) (request' walk b)) :
    Corresponds ρ f (changeAlong method request) (changeAlong method request') := by
  intro setting s t hsetting h
  rw [run_changeAlong, run_changeAlong, h.calls]
  exact corresponds_change (fun {a b} => hrequest _ a b) hsetting h

/-- A batch of records, or none of it. -/
lemma corresponds_storeBatch {g : List α → List α'} (hg : g [] = []) {method : Store.Method}
    {request : Store → Store.Outcome (List α)} {request' : Store → Store.Outcome (List α')}
    (hrequest : ∀ {a b : Store}, a.Renamed ρ b →
      Store.Outcome.Renamed ρ g (request a) (request' b)) :
    Corresponds ρ g (storeBatch method request) (storeBatch method request') := by
  intro setting s t hsetting h
  rw [run_storeBatch, run_storeBatch]
  split
  · exact ⟨rfl, h, .refl s t⟩
  · split
    · exact ⟨congrArg Except.ok hg.symm, h, .refl s t⟩
    · exact corresponds_change hrequest hsetting h

/-- Nothing but look-ups is counted by a look-up. -/
lemma ofCache_of_mem_counted {cache : Lookaside α} {kind : CacheKind}
    {found : Except CacheError (Option β)} {series : Series}
    (h : series ∈ cache.counted kind found) : series.OfCache := by
  unfold Lookaside.counted at h
  split at h
  · split at h
    · exact ⟨kind, .inl (List.mem_singleton.1 h)⟩
    · exact ⟨kind, .inr (List.mem_singleton.1 h)⟩
  · exact absurd h List.not_mem_nil

/-- A look-up in a cache. -/
lemma corresponds_lookUp {kind : CacheKind} {cache : Caches → Lookaside α}
    {r : α → α → Prop} {find find' : α → Option β}
    (hcache : ∀ {c d : Caches}, c.Renamed ρ d → Lookaside.Related r (cache c) (cache d))
    (hfind : ∀ {c d : α}, r c d → find' d = find c) :
    Corresponds ρ id (lookUp kind cache find) (lookUp kind cache find') := by
  intro setting s t hsetting h
  have hrelated := hcache h.caches
  rw [run_lookUp, run_lookUp, hrelated.read_eq hfind, hrelated.counted_eq]
  exact ⟨rfl, { h with }, ⟨⟨_, fun _ => ofCache_of_mem_counted, rfl, rfl⟩, [], rfl, rfl⟩⟩

lemma corresponds_ofCache (result : Except CacheError Unit) :
    Corresponds ρ id (ofCache result) (ofCache result) := by
  rcases result with e | ⟨⟩
  · exact corresponds_throw id (.cache e)
  · exact corresponds_pure id ()

/-- A change of the cache of things. -/
lemma corresponds_changeThingCache {edit edit' : ResourceCache → ResourceCache}
    (hedit : ∀ {c d : ResourceCache}, c.Renamed ρ d → (edit c).Renamed ρ (edit' d)) :
    Corresponds ρ id (changeThingCache edit) (changeThingCache edit') := by
  intro setting s t hsetting h
  obtain ⟨hresult, hcache⟩ := h.caches.things.change hedit
  simp only [changeThingCache, run_bind, run_get, run_modify, hresult]
  have hstate : State.Renamed ρ
      { s with caches := { s.caches with things := (s.caches.things.change edit).2 } }
      { t with caches := { t.caches with things := (t.caches.things.change edit').2 } } :=
    { h with caches := { h.caches with things := hcache } }
  obtain ⟨hresult', hstate', halong⟩ := corresponds_ofCache _ hsetting hstate
  exact ⟨hresult', hstate', State.Alongside.of_caches.trans halong⟩

/-- A change of the cache of profiles. -/
lemma corresponds_changeProfileCache (edit : ResourceCache → ResourceCache) :
    Corresponds ρ id (changeProfileCache edit) (changeProfileCache edit) := by
  intro setting s t hsetting h
  simp only [changeProfileCache, run_bind, run_get, run_modify, h.caches.profiles]
  have hstate : State.Renamed ρ
      { s with caches := { s.caches with profiles := (s.caches.profiles.change edit).2 } }
      { t with caches := { t.caches with profiles := (s.caches.profiles.change edit).2 } } :=
    { h with caches := { h.caches with profiles := rfl } }
  obtain ⟨hresult', hstate', halong⟩ := corresponds_ofCache _ hsetting hstate
  exact ⟨hresult', hstate', State.Alongside.of_caches.trans halong⟩

/-- A change of the cache of members. -/
lemma corresponds_changeMemberCache (edit : MemberCache → MemberCache) :
    Corresponds ρ id (changeMemberCache edit) (changeMemberCache edit) := by
  intro setting s t hsetting h
  simp only [changeMemberCache, run_bind, run_get, run_modify, h.caches.groups]
  have hstate : State.Renamed ρ
      { s with caches := { s.caches with groups := (s.caches.groups.change edit).2 } }
      { t with caches := { t.caches with groups := (s.caches.groups.change edit).2 } } :=
    { h with caches := { h.caches with groups := rfl } }
  obtain ⟨hresult', hstate', halong⟩ := corresponds_ofCache _ hsetting hstate
  exact ⟨hresult', hstate', State.Alongside.of_caches.trans halong⟩

/-- A new identifier; `f` does not change those that are given. -/
lemma corresponds_newId {f : String → String}
    (hf : ∀ {setting : Setting} {taken : Nat} {id : String}, setting.Overlooks ρ →
      setting.newId taken = .ok id → f id = id) : Corresponds ρ f newId newId := by
  intro setting s t hsetting h
  rw [run_newId, run_newId, h.idsTaken]
  refine ⟨?_, { h with idsTaken := rfl }, .of_eq rfl rfl rfl rfl⟩
  rcases hid : setting.newId s.idsTaken with e | id
  · rfl
  · exact congrArg Except.ok (hf hsetting hid).symm

lemma corresponds_now : Corresponds ρ id now now := by
  intro setting s t hsetting h
  rw [run_now, run_now, h.clockReads]
  exact ⟨rfl, { h with clockReads := rfl }, .of_eq rfl rfl rfl rfl⟩

lemma corresponds_authorize (request : AuthorizeRequest) :
    Corresponds ρ id (authorize request) (authorize request) := by
  intro setting s t hsetting h
  have hreply := hsetting.authorize h.store s.calls request
  rw [run_authorize, run_authorize, h.calls, hreply, h.consultations]
  refine ⟨?_, { h with calls := rfl, consultations := rfl }, .of_eq rfl rfl rfl rfl⟩
  rcases settle _ _ _ with e | a <;> rfl

lemma corresponds_identifyCaller (token : String) :
    Corresponds ρ id (identifyCaller token) (identifyCaller token) := by
  intro setting s t hsetting h
  have hreply := hsetting.identify h.store s.calls token
  rw [run_identifyCaller, run_identifyCaller, h.calls, hreply]
  refine ⟨?_, { h with calls := rfl }, .of_eq rfl rfl rfl rfl⟩
  rcases settle _ _ _ with e | a <;> rfl

lemma corresponds_findUsers (ids : List String) :
    Corresponds ρ id (findUsers ids) (findUsers ids) := by
  intro setting s t hsetting h
  have hreply := hsetting.findUsers h.store s.calls ids
  rw [run_findUsers, run_findUsers, h.calls, hreply]
  refine ⟨?_, { h with calls := rfl }, .of_eq rfl rfl rfl rfl⟩
  rcases settle _ _ _ with e | a <;> rfl

end Action

end DeviceFleet
