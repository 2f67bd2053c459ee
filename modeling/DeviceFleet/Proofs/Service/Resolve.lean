/-
# Look-ups through a cache

The identifier of a thing, the owner of a thing or a profile, and the groups of a member are
looked up in the same way: a cache is asked first, then the store, and what the store answers is
remembered.  Here this is one action, `resolve`, with one description: in a coherent state its
answer is what the store answers, whatever the cache had.
-/
import DeviceFleet.Proofs.Action.ReadOnly
import DeviceFleet.Service.Access

namespace DeviceFleet

namespace Action

/-- Asking for a part of an answer. -/
lemma ask_map {α β : Type} (method : Store.Method) (f : Store → Except StoreError α) (g : α → β) :
    ask method (fun s => (f s).map g) = g <$> ask method f := by
  funext setting s
  rw [run_map, run_ask, run_ask]
  split
  · rfl
  · cases f s.store <;> rfl

end Action

namespace Access

open DeviceFleet.Action

variable {α β : Type}

/-- What a cache remembers, or else what the store answers, which is then remembered. -/
def resolve (kind : CacheKind) (cache : Caches → Lookaside α) (find : α → Option β)
    (method : Store.Method) (query : Store → Except StoreError β) (remember : β → Action Unit) :
    Action β := do
  match ← remembered kind (← lookUp kind cache find) with
  | some b => return b
  | none =>
    let b ← ask method query
    remember b
    return b

/-- What makes a cache fit a query: what it has is what the store answers, and remembering an
answer, which makes `update` of the caches, keeps it so. -/
structure Recalls (cache : Caches → Lookaside α) (find : α → Option β)
    (query : Store → Except StoreError β) (remember : β → Action Unit)
    (update : β → Caches → Caches) : Prop where
  /-- The cache is in memory, and what it has is what the store answers. -/
  found : ∀ {s : State}, s.Coherent →
    ∃ c, cache s.caches = .memory c ∧ ∀ b, find c = some b → query s.store = .ok b
  /-- Remembering succeeds and changes nothing but caches and reports. -/
  remembers : ∀ {setting : Setting} {s : State} {b : β}, s.caches.InMemory →
    ∃ log, remember b setting s = (.ok (), { s with caches := update b s.caches, log := log })
  /-- What is remembered is right. -/
  mirrors : ∀ {s : State} {c : α} {b : β}, s.Coherent → cache s.caches = .memory c →
    find c = none → query s.store = .ok b → (update b s.caches).Mirrors s.store
  /-- A cache that is turned off finds nothing. -/
  off_find : ∀ {c : α}, cache (Caches.inMemory false) = .memory c → find c = none
  /-- A cache that is turned off remembers nothing. -/
  off_update : ∀ b, update b (Caches.inMemory false) = Caches.inMemory false

/-- What the outcome of a look-up is, and what it does to a state. -/
structure Resolved (kind : CacheKind) (query : Store → Except StoreError β)
    (update : β → Caches → Caches) (setting : Setting) (s : State)
    (result : Except ServiceError β) (s' : State) : Prop where
  /-- Only the caches, the counts and the reports change, and one look-up is counted. -/
  changes : ∃ caches log hit, s' = { s with
    caches := caches, log := log
    metrics := (if hit then .cacheHit kind else .cacheMiss kind) :: s.metrics } ∧
    (s.caches = Caches.inMemory false → hit = false)
  /-- The caches are as before, or something is remembered. -/
  caches : s'.caches = s.caches ∨ ∃ b, result = .ok b ∧ s'.caches = update b s.caches
  /-- The caches are right. -/
  mirrors : s'.caches.Mirrors s.store
  /-- A cache that is turned off stays as it is. -/
  off : s.caches = Caches.inMemory false → s'.caches = Caches.inMemory false
  /-- An answer is what the store answers. -/
  answer : ∀ b, result = .ok b → query s.store = .ok b
  /-- If the store is in order, its answer is the result. -/
  result_eq : setting.faults = [] → result = (query s.store).mapError .ofStore

section Resolve

variable {kind : CacheKind} {cache : Caches → Lookaside α} {find : α → Option β}
  {method : Store.Method} {query : Store → Except StoreError β} {remember : β → Action Unit}
  {update : β → Caches → Caches} {setting : Setting} {s : State}

/-- The cache has something. -/
lemma run_resolve_hit {c : α} {b : β} (hc : cache s.caches = .memory c) (hfind : find c = some b) :
    resolve kind cache find method query remember setting s =
      (.ok b, { s with metrics := .cacheHit kind :: s.metrics }) := by
  have hread : (cache s.caches).read find = .ok (some b) := by rw [hc, ← hfind]; rfl
  have hcounted : (cache s.caches).counted kind (.ok (some b)) = [.cacheHit kind] := by rw [hc]; rfl
  simp only [resolve, run_bind, run_lookUp, remembered, hread, run_pure, hcounted]
  rfl

/-- The cache has nothing, so the store is asked. -/
lemma run_resolve_miss {c : α} (hc : cache s.caches = .memory c) (hfind : find c = none) :
    resolve kind cache find method query remember setting s =
      (ask method query >>= fun b => remember b >>= fun _ => pure b) setting
        { s with metrics := .cacheMiss kind :: s.metrics } := by
  have hread : (cache s.caches).read find = .ok none := by rw [hc, ← hfind]; rfl
  have hcounted : (cache s.caches).counted kind (.ok (none : Option β)) = [.cacheMiss kind] := by
    rw [hc]
    rfl
  simp only [resolve, run_bind, run_lookUp, remembered, hread, run_pure, hcounted]
  rfl

/-- What a cache has is what the store answers. -/
lemma resolved_hit (h : Recalls cache find query remember update) (hs : s.Coherent) {c : α} {b : β}
    (hc : cache s.caches = .memory c) (hfind : find c = some b) (hquery : query s.store = .ok b) :
    Resolved kind query update setting s (.ok b)
      { s with metrics := .cacheHit kind :: s.metrics } := by
  have hon : s.caches ≠ Caches.inMemory false := by
    intro hoff
    have hnone := h.off_find (c := c) (by rw [← hoff, hc])
    simp [hnone] at hfind
  refine ⟨⟨s.caches, s.log, true, rfl, fun hoff => absurd hoff hon⟩, .inl rfl, hs.mirrors,
    fun hoff => hoff, ?_, ?_⟩
  · intro b' hb'
    obtain rfl := Except.ok.inj hb'
    exact hquery
  · intro _
    rw [hquery]
    rfl

/-- A failure leaves the caches as they were. -/
lemma resolved_failure (hs : s.Coherent) {e : ServiceError}
    (he : setting.faults = [] → .error e = (query s.store).mapError .ofStore) :
    Resolved kind query update setting s (.error e)
      { s with metrics := .cacheMiss kind :: s.metrics } :=
  ⟨⟨s.caches, s.log, false, rfl, fun _ => rfl⟩, .inl rfl, hs.mirrors, fun h => h,
    fun b hb => by simp at hb, he⟩

/-- In a coherent state a look-up answers what the store answers. -/
lemma resolved_resolve (h : Recalls cache find query remember update) (hs : s.Coherent) :
    Resolved kind query update setting s (resolve kind cache find method query remember setting s).1
      (resolve kind cache find method query remember setting s).2 := by
  obtain ⟨c, hc, hfound⟩ := h.found hs
  rcases hfind : find c with _ | b
  · rw [run_resolve_miss hc hfind, run_bind, run_ask]
    by_cases hrefused : .refuses method ∈ setting.faults
    · rw [if_pos hrefused]
      exact resolved_failure hs fun hfaults => by simp [hfaults] at hrefused
    · rw [if_neg hrefused]
      rcases hquery : query s.store with e | b
      · exact resolved_failure hs fun _ => by rw [hquery]; rfl
      · -- the answer of the store is remembered
        have hmirrors := h.mirrors hs hc hfind hquery
        obtain ⟨log, hlog⟩ : ∃ log, remember b setting
            { s with metrics := .cacheMiss kind :: s.metrics } = (.ok (), _) :=
          h.remembers hs.mirrors.inMemory
        simp only [Except.mapError, run_bind, hlog, run_pure]
        refine ⟨⟨update b s.caches, log, false, rfl, fun _ => rfl⟩, .inr ⟨b, rfl, rfl⟩, hmirrors,
          ?_, ?_, ?_⟩
        · intro hoff
          change update b s.caches = _
          rw [hoff, h.off_update]
        · intro b' hb'
          obtain rfl := Except.ok.inj hb'
          exact hquery
        · intro _
          rw [hquery]
          rfl
  · rw [run_resolve_hit hc hfind]
    exact resolved_hit h hs hc hfind (hfound b hfind)

lemma Resolved.keeps {result : Except ServiceError β} {s' : State}
    (h : Resolved kind query update setting s result s') (hs : s.Coherent) : s.Keeps s' := by
  obtain ⟨caches, log, hit, rfl, -⟩ := h.changes
  exact ⟨rfl, ⟨hs.sound, h.mirrors⟩, .of_eq rfl rfl⟩

/-- What a look-up finds is what the store answers. -/
lemma Resolved.ensures {x : Action β} (hs : s.Coherent)
    (h : Resolved kind query update setting s (x setting s).1 (x setting s).2) :
    x.Ensures setting s
      (fun b s' => s.Keeps s' ∧ (s'.caches = s.caches ∨ s'.caches = update b s.caches) ∧
        query s.store = .ok b)
      (fun _ s' => s.Keeps s') := by
  rw [ensures_iff]
  constructor
  · intro b s' hrun
    rw [hrun] at h
    refine ⟨h.keeps hs, h.caches.imp_right ?_, h.answer b rfl⟩
    rintro ⟨b', hb', hcaches⟩
    rwa [Except.ok.inj hb']
  · intro e s' hrun
    rw [hrun] at h
    exact h.keeps hs

/-- If the store is in order, what it answers is found. -/
lemma Resolved.run_ok {x : Action β} {b : β}
    (h : Resolved kind query update setting s (x setting s).1 (x setting s).2)
    (hfaults : setting.faults = []) (hquery : query s.store = .ok b) :
    x setting s = (.ok b, (x setting s).2) := by
  refine Prod.ext ?_ rfl
  rw [h.result_eq hfaults, hquery]
  rfl

lemma readOnly_resolve (h : Recalls cache find query remember update) :
    ReadOnly (resolve kind cache find method query remember) := by
  refine ⟨fun hs => (resolved_resolve h hs).keeps hs, ?_⟩
  intro setting walks s t hfaults htwin hs
  have ht : t.Coherent :=
    ⟨htwin.store ▸ hs.sound, htwin.off ▸ Caches.mirrors_inMemory false t.store⟩
  have hres : Resolved kind query update setting s
      (resolve kind cache find method query remember setting s).1
      (resolve kind cache find method query remember setting s).2 := resolved_resolve h hs
  have hrest : Resolved kind query update { setting with walks := walks } t
      (resolve kind cache find method query remember { setting with walks := walks } t).1
      (resolve kind cache find method query remember { setting with walks := walks } t).2 :=
    resolved_resolve h ht
  refine ⟨?_, ?_⟩
  · -- both answer what their common store answers
    rw [hres.result_eq hfaults, hrest.result_eq hfaults, htwin.store]
  · -- one look-up is counted for each; that of the twin that is turned off is a miss
    have hmemory := hres.mirrors.inMemory
    have hoff := hrest.off htwin.off
    obtain ⟨caches, log, hit, hs', -⟩ := hres.changes
    obtain ⟨caches', log', hit', ht', hmissed⟩ := hrest.changes
    obtain rfl := hmissed htwin.off
    rw [hs'] at hmemory ⊢
    rw [ht'] at hoff ⊢
    refine { htwin with memory := hmemory, off := hoff, lookups := ?_, no_hits := ?_ }
    · intro kind'
      have hlookups := htwin.lookups kind'
      simp only [Registry.value] at hlookups ⊢
      by_cases hkind : kind = kind'
      · subst hkind
        cases hit <;> simp <;> omega
      · cases hit <;> simp [hkind, hlookups]
    · intro kind'
      have hno := htwin.no_hits kind'
      simp only [Registry.value] at hno ⊢
      simp [hno]

end Resolve

end Access

end DeviceFleet
