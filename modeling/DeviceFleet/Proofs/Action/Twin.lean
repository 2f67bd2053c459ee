/-
# Twin states

Two services get the same requests; one of them has its caches turned off, and its store goes
through its things on walks of its own.  Their states are twins when they agree in everything else
that an answer can depend on, and when what the one has found or missed in its caches the other
has missed.  An action couples twins when it gives the same result on both and leads to twins
again.  Only what is changed along a walk can fail to do so.

Only a look-up tells the two apart, so every other building block couples any twins.  Around
look-ups more has to be known of the state with the caches, which is why the condition `I` is
carried along.
-/
import DeviceFleet.Proofs.Action.Progress
import DeviceFleet.Proofs.Cache.Coherent

namespace DeviceFleet

/-- The state `t` is like `s` except that its caches are turned off. -/
structure State.Twin (s t : State) : Prop where
  /-- The records are the same. -/
  store : t.store = s.store
  /-- Collaborators were called equally often. -/
  calls : t.calls = s.calls
  /-- As many identifiers were taken. -/
  idsTaken : t.idsTaken = s.idsTaken
  /-- The clock was read equally often. -/
  clockReads : t.clockReads = s.clockReads
  /-- The same was asked. -/
  consultations : t.consultations = s.consultations
  /-- The caches of the one are in memory. -/
  memory : s.caches.InMemory
  /-- The caches of the other are in memory, too, but turned off. -/
  off : t.caches = Caches.inMemory false
  /-- Whatever the one found or missed the other missed. -/
  lookups : ∀ kind, s.metrics.value (.cacheHit kind) + s.metrics.value (.cacheMiss kind) =
    t.metrics.value (.cacheMiss kind)
  /-- The other found nothing. -/
  no_hits : ∀ kind, t.metrics.value (.cacheHit kind) = 0

namespace Action

variable {α β : Type} {I J : State → Prop} {x : Action α} {setting : Setting} {s t : State}

/-- Of twins of which the one with the caches satisfies `I`, the action makes twins, with the same
result. -/
def Couples (I : State → Prop) (x : Action α) : Prop :=
  ∀ ⦃setting : Setting⦄ (walks : Nat → Store.Walk) ⦃s t : State⦄,
    setting.faults = [] → s.Twin t → I s →
      (x setting s).1 = (x { setting with walks := walks } t).1 ∧
        (x setting s).2.Twin (x { setting with walks := walks } t).2

/-- The action couples any twins. -/
abbrev Blind (x : Action α) : Prop := Couples (fun _ => True) x

namespace Couples

lemma weaken (h : Couples J x) (hI : ∀ s, I s → J s) : Couples I x :=
  fun _ walks _ _ hfaults htwin hs => h walks hfaults htwin (hI _ hs)

/-- One action after the other: the second may rely on what holds after the first. -/
lemma bind {f : α → Action β} (h : Couples I x)
    (hx : ∀ {setting s}, I s → J (x setting s).2) (hf : ∀ a, Couples J (f a)) :
    Couples I (x >>= f) := by
  intro setting walks s t hfaults htwin hs
  obtain ⟨hresult, htwin'⟩ := h walks hfaults htwin hs
  have hJ : J (x setting s).2 := hx hs
  rw [run_bind, run_bind]
  rcases hxs : x setting s with ⟨r, s'⟩
  rcases hxt : x { setting with walks := walks } t with ⟨r', t'⟩
  rw [hxs, hxt] at hresult htwin'
  rw [hxs] at hJ
  -- both fail, or both go on with the same answer
  obtain rfl : r = r' := hresult
  rcases r with e | a
  · exact ⟨rfl, htwin'⟩
  · exact hf a walks hfaults htwin' hJ

/-- After the last look-up nothing has to be known any more. -/
lemma bind_blind {f : α → Action β} (h : Couples I x) (hf : ∀ a, Blind (f a)) :
    Couples I (x >>= f) :=
  h.bind (fun _ => trivial) hf

lemma map (h : Couples I x) (f : α → β) : Couples I (f <$> x) := by
  intro setting walks s t hfaults htwin hs
  obtain ⟨hresult, htwin'⟩ := h walks hfaults htwin hs
  rw [run_map, run_map]
  exact ⟨congrArg (Except.map f) hresult, htwin'⟩

lemma attempt (h : Couples I x) : Couples I (attempt x) := by
  intro setting walks s t hfaults htwin hs
  obtain ⟨hresult, htwin'⟩ := h walks hfaults htwin hs
  rw [run_attempt, run_attempt]
  exact ⟨congrArg Except.ok hresult, htwin'⟩

lemma forM {f : α → Action Unit} {xs : List α} (hf : ∀ x ∈ xs, Couples I (f x))
    (hI : ∀ x {setting s}, I s → I (f x setting s).2) : Couples I (xs.forM f) := by
  induction xs with
  | nil => exact fun _ _ _ _ _ htwin _ => ⟨rfl, htwin⟩
  | cons x xs ih =>
    refine bind (f := fun _ => xs.forM f) (J := I) (hf x List.mem_cons_self) (hI x) fun _ => ?_
    exact ih fun y hy => hf y (List.mem_cons_of_mem _ hy)

lemma mapM {f : α → Action β} {xs : List α} (hf : ∀ x ∈ xs, Couples I (f x))
    (hI : ∀ x {setting s}, I s → I (f x setting s).2) : Couples I (xs.mapM f) := by
  induction xs with
  | nil => exact fun _ _ _ _ _ htwin _ => ⟨rfl, htwin⟩
  | cons x xs ih =>
    rw [List.mapM_cons]
    have htail : Couples I (xs.mapM f) := ih fun y hy => hf y (List.mem_cons_of_mem _ hy)
    refine bind (J := I) (hf x List.mem_cons_self) (hI x) fun b => ?_
    refine htail.bind_blind fun bs => ?_
    exact fun _ _ _ _ _ htwin _ => ⟨rfl, htwin⟩

/-- A check comes first. -/
lemma check {p : Prop} [Decidable p] {e : ServiceError} {next : Unit → Action α}
    (h : Couples I (next ())) : Couples I (if p then throw e >>= next else next ()) := by
  split
  · exact fun _ _ _ _ _ htwin _ => ⟨rfl, htwin⟩
  · exact h

end Couples

/-! ## The building blocks -/

lemma blind_pure (a : α) : Blind (pure a : Action α) := fun _ _ _ _ _ htwin _ => ⟨rfl, htwin⟩

lemma blind_throw (e : ServiceError) : Blind (throw e : Action α) :=
  fun _ _ _ _ _ htwin _ => ⟨rfl, htwin⟩

lemma blind_report (level : LogLevel) (target message : String)
    (fields : List (String × LogValue)) : Blind (report level target message fields) :=
  fun _ _ _ _ _ htwin _ => ⟨rfl, { htwin with }⟩

lemma Blind.bind {f : α → Action β} (h : Blind x) (hf : ∀ a, Blind (f a)) : Blind (x >>= f) :=
  h.bind_blind hf

lemma Blind.forM {f : α → Action Unit} {xs : List α} (hf : ∀ x ∈ xs, Blind (f x)) :
    Blind (xs.forM f) :=
  Couples.forM hf fun _ _ _ _ => trivial

lemma Blind.mapM {f : α → Action β} {xs : List α} (hf : ∀ x ∈ xs, Blind (f x)) :
    Blind (xs.mapM f) :=
  Couples.mapM hf fun _ _ _ _ => trivial

/-- Twins have the same store, so the answer is the same. -/
lemma blind_ask (method : Store.Method) (f : Store → Except StoreError α) :
    Blind (ask method f) := by
  intro setting walks s t _ htwin _
  rw [run_ask, run_ask, htwin.store]
  split
  · exact ⟨rfl, htwin⟩
  · exact ⟨rfl, htwin⟩

lemma blind_change (method : Store.Method) (f : Store → Store.Outcome α) :
    Blind (change method f) := by
  intro setting walks s t _ htwin _
  rw [run_change, run_change, htwin.store]
  split
  · exact ⟨rfl, htwin⟩
  · exact ⟨rfl, { htwin with store := rfl }⟩

/-- A change along a walk makes twins again if the walk does not matter for the store. -/
lemma twin_changeAlong (method : Store.Method) (f : Store.Walk → Store → Store.Outcome α)
    (walks : Nat → Store.Walk) (hfaults : setting.faults = []) (htwin : s.Twin t)
    (hf : ∀ walk walk', (f walk s.store).2 = (f walk' s.store).2) :
    (changeAlong method f setting s).1 =
        (f (setting.walks s.calls) s.store).1.mapError .ofStore ∧
      (changeAlong method f { setting with walks := walks } t).1 =
        (f (walks s.calls) s.store).1.mapError .ofStore ∧
      (changeAlong method f setting s).2.Twin
        (changeAlong method f { setting with walks := walks } t).2 := by
  have hnone : .refuses method ∉ setting.faults := by simp [hfaults]
  rw [run_changeAlong, run_changeAlong, run_change, run_change, if_neg hnone, if_neg hnone,
    htwin.store, htwin.calls]
  exact ⟨rfl, rfl, { htwin with store := hf _ _, calls := rfl }⟩

lemma blind_storeBatch (method : Store.Method) (f : Store → Store.Outcome (List α)) :
    Blind (storeBatch method f) := by
  intro setting walks s t hfaults htwin _
  rw [run_storeBatch, run_storeBatch]
  split
  · exact ⟨rfl, htwin⟩
  · split
    · exact ⟨rfl, htwin⟩
    · exact blind_change method f walks hfaults htwin trivial

/-- A change of a cache that leaves an empty cache alone if it is turned off. -/
lemma blind_changeThingCache {f : ResourceCache → ResourceCache}
    (hf : f (.empty false) = .empty false) : Blind (changeThingCache f) := by
  intro setting walks s t _ htwin _
  obtain ⟨ct, cp, cg, hs⟩ := htwin.memory
  have ht := htwin.off
  rw [run_changeThingCache (s := s) (c := ct) (by rw [hs]),
    run_changeThingCache (s := t) (c := .empty false) (by rw [ht]; rfl)]
  exact ⟨rfl, { htwin with
    memory := ⟨f ct, cp, cg, by simp [hs]⟩, off := by simp [ht, hf, Caches.inMemory] }⟩

lemma blind_changeProfileCache {f : ResourceCache → ResourceCache}
    (hf : f (.empty false) = .empty false) : Blind (changeProfileCache f) := by
  intro setting walks s t _ htwin _
  obtain ⟨ct, cp, cg, hs⟩ := htwin.memory
  have ht := htwin.off
  rw [run_changeProfileCache (s := s) (c := cp) (by rw [hs]),
    run_changeProfileCache (s := t) (c := .empty false) (by rw [ht]; rfl)]
  exact ⟨rfl, { htwin with
    memory := ⟨ct, f cp, cg, by simp [hs]⟩, off := by simp [ht, hf, Caches.inMemory] }⟩

lemma blind_changeMemberCache {f : MemberCache → MemberCache}
    (hf : f (.empty false) = .empty false) : Blind (changeMemberCache f) := by
  intro setting walks s t _ htwin _
  obtain ⟨ct, cp, cg, hs⟩ := htwin.memory
  have ht := htwin.off
  rw [run_changeMemberCache (s := s) (c := cg) (by rw [hs]),
    run_changeMemberCache (s := t) (c := .empty false) (by rw [ht]; rfl)]
  exact ⟨rfl, { htwin with
    memory := ⟨ct, cp, f cg, by simp [hs]⟩, off := by simp [ht, hf, Caches.inMemory] }⟩

lemma blind_newId : Blind newId := by
  intro setting walks s t _ htwin _
  rw [run_newId, run_newId, htwin.idsTaken]
  exact ⟨rfl, { htwin with idsTaken := rfl }⟩

lemma blind_now : Blind now := by
  intro setting walks s t _ htwin _
  rw [run_now, run_now, htwin.clockReads]
  exact ⟨rfl, { htwin with clockReads := rfl }⟩

/-- The collaborators see the same store and as many calls before, so they reply the same. -/
lemma blind_authorize (request : AuthorizeRequest) : Blind (authorize request) := by
  intro setting walks s t _ htwin _
  rw [run_authorize, run_authorize, htwin.store, htwin.calls]
  exact ⟨rfl, { htwin with
    store := htwin.store ▸ rfl, calls := rfl, consultations := by rw [htwin.consultations] }⟩

lemma blind_identifyCaller (token : String) : Blind (identifyCaller token) := by
  intro setting walks s t _ htwin _
  rw [run_identifyCaller, run_identifyCaller, htwin.store, htwin.calls]
  exact ⟨rfl, { htwin with store := htwin.store ▸ rfl, calls := rfl }⟩

lemma blind_findUsers (ids : List String) : Blind (findUsers ids) := by
  intro setting walks s t _ htwin _
  rw [run_findUsers, run_findUsers, htwin.store, htwin.calls]
  exact ⟨rfl, { htwin with store := htwin.store ▸ rfl, calls := rfl }⟩

end Action

end DeviceFleet
