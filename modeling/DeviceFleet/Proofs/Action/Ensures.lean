/-
# What holds after an action

An action reads its setting, works on a state, and ends with an answer or a failure.  This file
says what each building block of an action does to a state, as equations, and sets up the
assertions in which the operations of the service are then described: `x.Ensures setting s Q E`
says that `x`, started in `s`, ends in a state where `Q` holds of the answer, or in one where `E`
holds of the failure.
-/
import DeviceFleet.Service.Action
import Mathlib.Tactic.Common

namespace DeviceFleet.Action

variable {α β γ : Type} {setting : Setting} {s : State}

/-! ## Runs of the building blocks -/

@[simp] lemma run_pure (a : α) : (pure a : Action α) setting s = (.ok a, s) := rfl

@[simp] lemma run_throw (e : ServiceError) : (throw e : Action α) setting s = (.error e, s) := rfl

@[simp] lemma run_read : (read : Action Setting) setting s = (.ok setting, s) := rfl

@[simp] lemma run_get : (get : Action State) setting s = (.ok s, s) := rfl

@[simp] lemma run_modify (f : State → State) :
    (modify f : Action Unit) setting s = (.ok (), f s) := rfl

lemma run_bind (x : Action α) (f : α → Action β) :
    (x >>= f) setting s = match x setting s with
      | (.ok a, s') => f a setting s'
      | (.error e, s') => (.error e, s') := by
  change (ExceptT.bindCont (fun a => f a setting) (x setting s).1) (x setting s).2 = _
  rcases x setting s with ⟨⟨e⟩ | ⟨a⟩, s'⟩ <;> rfl

lemma run_bind_ok {x : Action α} {f : α → Action β} {a : α} {s' : State}
    (h : x setting s = (.ok a, s')) : (x >>= f) setting s = f a setting s' := by
  rw [run_bind, h]

lemma run_bind_error {x : Action α} {f : α → Action β} {e : ServiceError} {s' : State}
    (h : x setting s = (.error e, s')) : (x >>= f) setting s = (.error e, s') := by
  rw [run_bind, h]

@[simp] lemma run_map (f : α → β) (x : Action α) :
    (f <$> x) setting s = ((x setting s).1.map f, (x setting s).2) := by
  change (ExceptT.bindCont (fun a => (pure (f a) : Action β) setting) (x setting s).1)
    (x setting s).2 = _
  rcases x setting s with ⟨⟨e⟩ | ⟨a⟩, s'⟩ <;> rfl

@[simp] lemma run_discard (x : Action α) :
    discard x setting s = ((x setting s).1.map fun _ => (), (x setting s).2) :=
  run_map (fun _ => ()) x

@[simp] lemma run_attempt (x : Action α) :
    attempt x setting s = (.ok (x setting s).1, (x setting s).2) := rfl

@[simp] lemma run_report (level : LogLevel) (target message : String)
    (fields : List (String × LogValue)) :
    report level target message fields setting s =
      (.ok (), { s with log := ⟨level, target, message, fields⟩ :: s.log }) := rfl

lemma run_guardMethod (method : Store.Method) :
    guardMethod method setting s =
      if .refuses method ∈ setting.faults then (.error (.ofStore (Store.Fault.refusal method)), s)
      else (.ok (), s) := by
  simp only [guardMethod, run_bind, run_read]
  split <;> rfl

lemma run_ask (method : Store.Method) (f : Store → Except StoreError α) :
    ask method f setting s =
      if .refuses method ∈ setting.faults then (.error (.ofStore (Store.Fault.refusal method)), s)
      else ((f s.store).mapError .ofStore, s) := by
  by_cases h : .refuses method ∈ setting.faults
  · simp only [ask, run_bind, run_guardMethod, if_pos h]
  · simp only [ask, run_bind, run_guardMethod, if_neg h, run_get]
    cases f s.store <;> rfl

lemma run_change (method : Store.Method) (f : Store → Store.Outcome α) :
    change method f setting s =
      if .refuses method ∈ setting.faults then (.error (.ofStore (Store.Fault.refusal method)), s)
      else ((f s.store).1.mapError .ofStore, { s with store := (f s.store).2 }) := by
  by_cases h : .refuses method ∈ setting.faults
  · simp only [change, run_bind, run_guardMethod, if_pos h]
  · simp only [change, run_bind, run_guardMethod, if_neg h, run_get, run_modify]
    rcases f s.store with ⟨⟨e⟩ | ⟨a⟩, store⟩ <;> rfl

lemma run_changeAlong (method : Store.Method) (f : Store.Walk → Store → Store.Outcome α) :
    changeAlong method f setting s = change method (f (setting.walks s.calls)) setting s :=
  rfl

lemma run_storeBatch (method : Store.Method) (f : Store → Store.Outcome (List α)) :
    storeBatch method f setting s =
      if .refuses method ∈ setting.faults then (.error (.ofStore (Store.Fault.refusal method)), s)
      else if .storesNothing method ∈ setting.faults then (.ok [], s)
      else change method f setting s := by
  by_cases h : .refuses method ∈ setting.faults
  · simp only [storeBatch, run_bind, run_guardMethod, if_pos h]
  · simp only [storeBatch, run_bind, run_guardMethod, if_neg h, run_read]
    split <;> rfl

lemma run_lookUp (kind : CacheKind) (cache : Caches → Lookaside α) (find : α → Option β) :
    lookUp kind cache find setting s =
      (.ok ((cache s.caches).read find),
        { s with metrics :=
            (cache s.caches).counted kind ((cache s.caches).read find) ++ s.metrics }) := rfl

lemma run_changeThingCache {c : ResourceCache} (h : s.caches.things = .memory c)
    (f : ResourceCache → ResourceCache) :
    changeThingCache f setting s =
      (.ok (), { s with caches := { s.caches with things := .memory (f c) } }) := by
  simp only [changeThingCache, run_bind, run_get, run_modify, h]
  rfl

lemma run_changeProfileCache {c : ResourceCache} (h : s.caches.profiles = .memory c)
    (f : ResourceCache → ResourceCache) :
    changeProfileCache f setting s =
      (.ok (), { s with caches := { s.caches with profiles := .memory (f c) } }) := by
  simp only [changeProfileCache, run_bind, run_get, run_modify, h]
  rfl

lemma run_changeMemberCache {c : MemberCache} (h : s.caches.groups = .memory c)
    (f : MemberCache → MemberCache) :
    changeMemberCache f setting s =
      (.ok (), { s with caches := { s.caches with groups := .memory (f c) } }) := by
  simp only [changeMemberCache, run_bind, run_get, run_modify, h]
  rfl

/-- Waiting changes nothing, and what comes of it depends on the reply alone. -/
lemma run_await (reply : Reply α) :
    await reply setting s =
      if setting.rpcTimeout < reply.delay then (.error (.timeout setting.rpcTimeout), s)
      else (.ok reply.answer, s) := by
  simp only [await, run_bind, run_read]
  split <;> rfl

lemma run_newId :
    newId setting s =
      ((setting.newId s.idsTaken).mapError fun e =>
          .internal s!"failed to generate id: {e.message}",
        { s with idsTaken := s.idsTaken + 1 }) := by
  simp only [newId, run_bind, run_get, run_modify, run_read]
  cases setting.newId s.idsTaken <;> rfl

@[simp] lemma run_now :
    now setting s = (.ok (setting.clock s.clockReads), { s with clockReads := s.clockReads + 1 }) :=
  rfl

/-! ## Assertions -/

/-- Started in `s`, the action ends where `Q` holds of its answer, or where `E` holds of its
failure. -/
def Ensures (x : Action α) (setting : Setting) (s : State) (Q : α → State → Prop)
    (E : ServiceError → State → Prop) : Prop :=
  match x setting s with
  | (.ok a, s') => Q a s'
  | (.error e, s') => E e s'

section Ensures

variable {x : Action α} {Q Q' : α → State → Prop} {E E' : ServiceError → State → Prop}

lemma ensures_iff :
    x.Ensures setting s Q E ↔
      (∀ a s', x setting s = (.ok a, s') → Q a s') ∧
        ∀ e s', x setting s = (.error e, s') → E e s' := by
  constructor
  · intro h
    exact ⟨fun a s' hx => by rwa [Ensures, hx] at h, fun e s' hx => by rwa [Ensures, hx] at h⟩
  · rintro ⟨hQ, hE⟩
    unfold Ensures
    rcases hx : x setting s with ⟨⟨e⟩ | ⟨a⟩, s'⟩
    · exact hE e s' hx
    · exact hQ a s' hx

lemma Ensures.of_ok (h : x.Ensures setting s Q E) {a : α} {s' : State}
    (hx : x setting s = (.ok a, s')) : Q a s' :=
  (ensures_iff.1 h).1 a s' hx

lemma Ensures.of_fst_ok (h : x.Ensures setting s Q E) {a : α} (hx : (x setting s).1 = .ok a) :
    Q a (x setting s).2 :=
  h.of_ok (Prod.ext hx rfl)

lemma Ensures.of_fst_error (h : x.Ensures setting s Q E) {e : ServiceError}
    (hx : (x setting s).1 = .error e) : E e (x setting s).2 :=
  (ensures_iff.1 h).2 e _ (Prod.ext hx rfl)

/-- An action that cannot fail succeeds. -/
lemma Ensures.exists_ok (h : x.Ensures setting s Q E) (hE : ∀ e s', ¬ E e s') :
    ∃ a s', x setting s = (.ok a, s') ∧ Q a s' := by
  rw [ensures_iff] at h
  rcases hx : x setting s with ⟨⟨e⟩ | ⟨a⟩, s'⟩
  · exact absurd (h.2 e s' hx) (hE e s')
  · exact ⟨a, s', rfl, h.1 a s' hx⟩

lemma Ensures.and (h : x.Ensures setting s Q E) (h' : x.Ensures setting s Q' E') :
    x.Ensures setting s (fun a s' => Q a s' ∧ Q' a s') (fun e s' => E e s' ∧ E' e s') := by
  rw [ensures_iff] at h h' ⊢
  exact ⟨fun a s' hx => ⟨h.1 a s' hx, h'.1 a s' hx⟩, fun e s' hx => ⟨h.2 e s' hx, h'.2 e s' hx⟩⟩

/-- What holds of the state however the action ends. -/
lemma Ensures.state {P : State → Prop}
    (h : x.Ensures setting s (fun _ => P) (fun _ => P)) : P (x setting s).2 := by
  unfold Ensures at h
  rcases hx : x setting s with ⟨⟨e⟩ | ⟨a⟩, s'⟩ <;> simpa [hx] using h

lemma ensures_of_state {P : State → Prop} (h : P (x setting s).2) :
    x.Ensures setting s (fun _ => P) (fun _ => P) := by
  unfold Ensures
  rcases hx : x setting s with ⟨⟨e⟩ | ⟨a⟩, s'⟩ <;> simpa [hx] using h

lemma Ensures.mono (h : x.Ensures setting s Q E) (hQ : ∀ a s', Q a s' → Q' a s')
    (hE : ∀ e s', E e s' → E' e s') : x.Ensures setting s Q' E' := by
  rw [ensures_iff] at h ⊢
  exact ⟨fun a s' hx => hQ a s' (h.1 a s' hx), fun e s' hx => hE e s' (h.2 e s' hx)⟩

lemma Ensures.mono_ok (h : x.Ensures setting s Q E) (hQ : ∀ a s', Q a s' → Q' a s') :
    x.Ensures setting s Q' E :=
  h.mono hQ fun _ _ he => he

lemma Ensures.mono_error (h : x.Ensures setting s Q E) (hE : ∀ e s', E e s' → E' e s') :
    x.Ensures setting s Q E' :=
  h.mono (fun _ _ ha => ha) hE

/-- After a failure that changes nothing whatever held before holds. -/
lemma Ensures.failing (h : x.Ensures setting s Q (fun _ s' => s' = s)) (hE : ∀ e, E e s) :
    x.Ensures setting s Q E := by
  refine h.mono_error ?_
  rintro e s' rfl
  exact hE e

lemma ensures_pure {a : α} (h : Q a s) : (pure a : Action α).Ensures setting s Q E := h

lemma ensures_throw {e : ServiceError} (h : E e s) :
    (throw e : Action α).Ensures setting s Q E := h

/-- One action after the other: what the first ensures is what the second starts from. -/
lemma Ensures.bind {f : α → Action β} {R : β → State → Prop} (h : x.Ensures setting s Q E)
    (hf : ∀ a s', Q a s' → (f a).Ensures setting s' R E) :
    (x >>= f).Ensures setting s R E := by
  unfold Ensures at h ⊢
  rw [run_bind]
  rcases hx : x setting s with ⟨⟨e⟩ | ⟨a⟩, s'⟩
  · simpa [hx] using h
  · have hQ : Q a s' := by simpa [hx] using h
    exact hf a s' hQ

lemma Ensures.map {f : α → β} {R : β → State → Prop}
    (h : x.Ensures setting s (fun a => R (f a)) E) : (f <$> x).Ensures setting s R E := by
  unfold Ensures at h ⊢
  rw [run_map]
  rcases hx : x setting s with ⟨⟨e⟩ | ⟨a⟩, s'⟩ <;> rw [hx] at h <;> exact h

lemma Ensures.attempt {R : Except ServiceError α → State → Prop}
    (h : x.Ensures setting s (fun a => R (.ok a)) (fun e => R (.error e))) :
    (attempt x).Ensures setting s R E := by
  unfold Ensures at h ⊢
  rw [run_attempt]
  rcases hx : x setting s with ⟨⟨e⟩ | ⟨a⟩, s'⟩ <;> simpa [hx] using h

lemma ensures_report {level : LogLevel} {target message : String}
    {fields : List (String × LogValue)} {R : Unit → State → Prop}
    (h : R () { s with log := ⟨level, target, message, fields⟩ :: s.log }) :
    (report level target message fields).Ensures setting s R E := h

/-- A check comes first: either it fails, or what follows may rely on it. -/
lemma ensures_check {p : Prop} [Decidable p] {e : ServiceError} {next : Unit → Action α}
    (he : p → E e s) (h : ¬ p → (next ()).Ensures setting s Q E) :
    (if p then throw e >>= next else next ()).Ensures setting s Q E := by
  by_cases hp : p
  · rw [if_pos hp]
    exact he hp
  · rw [if_neg hp]
    exact h hp

/-- A question to the store changes nothing. -/
lemma ensures_ask {method : Store.Method} {f : Store → Except StoreError α} :
    (ask method f).Ensures setting s (fun a s' => s' = s ∧ f s.store = .ok a)
      (fun _ s' => s' = s) := by
  unfold Ensures
  rw [run_ask]
  by_cases hrefused : .refuses method ∈ setting.faults
  · rw [if_pos hrefused]
  · rw [if_neg hrefused]
    rcases f s.store with e | a
    · rfl
    · exact ⟨rfl, rfl⟩

/-- A change of the store either fails, and a request that is refused leaves the store as it was,
or does what the store does. -/
lemma ensures_change {method : Store.Method} {f : Store → Store.Outcome α}
    (hf : ∀ e store, f s.store = (.error e, store) → store = s.store) :
    (change method f).Ensures setting s
      (fun a s' => ∃ store, f s.store = (.ok a, store) ∧ s' = { s with store := store })
      (fun _ s' => s' = s) := by
  unfold Ensures
  rw [run_change]
  by_cases hrefused : .refuses method ∈ setting.faults
  · rw [if_pos hrefused]
  · rw [if_neg hrefused]
    rcases hfs : f s.store with ⟨⟨e⟩ | ⟨a⟩, store⟩
    · obtain rfl := hf e store hfs
      rfl
    · exact ⟨store, rfl, rfl⟩

/-- A change after a walk. -/
lemma ensures_changeAlong {method : Store.Method} {f : Store.Walk → Store → Store.Outcome α}
    (hf : ∀ walk e store, f walk s.store = (.error e, store) → store = s.store) :
    (changeAlong method f).Ensures setting s
      (fun a s' => ∃ walk store, f walk s.store = (.ok a, store) ∧ s' = { s with store := store })
      (fun _ s' => s' = s) := by
  have hchange : (change method (f (setting.walks s.calls))).Ensures setting s
      (fun a s' => ∃ walk store, f walk s.store = (.ok a, store) ∧ s' = { s with store := store })
      (fun _ s' => s' = s) :=
    (ensures_change (hf _)).mono_ok fun _ _ h => ⟨_, h⟩
  exact hchange

/-- A batch is stored, unless the store says that it has stored nothing. -/
lemma ensures_storeBatch {method : Store.Method} {f : Store → Store.Outcome (List α)}
    (hf : ∀ e store, f s.store = (.error e, store) → store = s.store) :
    (storeBatch method f).Ensures setting s
      (fun as s' => (as = [] ∧ s' = s ∧ setting.faults ≠ []) ∨
        ∃ store, f s.store = (.ok as, store) ∧ s' = { s with store := store })
      (fun _ s' => s' = s) := by
  have hchange : (change method f).Ensures setting s _ _ := ensures_change hf
  unfold Ensures at hchange ⊢
  rw [run_storeBatch]
  by_cases hrefused : .refuses method ∈ setting.faults
  · rw [if_pos hrefused]
  · rw [if_neg hrefused]
    by_cases hnothing : .storesNothing method ∈ setting.faults
    · rw [if_pos hnothing]
      exact .inl ⟨rfl, rfl, List.ne_nil_of_mem hnothing⟩
    · rw [if_neg hnothing]
      rcases hrun : change method f setting s with ⟨⟨e⟩ | ⟨as⟩, s'⟩
      · simpa [hrun] using hchange
      · rw [hrun] at hchange
        exact .inr hchange

lemma ensures_changeThingCache {c : ResourceCache} (hc : s.caches.things = .memory c)
    {f : ResourceCache → ResourceCache} {R : Unit → State → Prop}
    (h : R () { s with caches := { s.caches with things := .memory (f c) } }) :
    (changeThingCache f).Ensures setting s R E := by
  unfold Ensures
  rw [run_changeThingCache hc]
  exact h

lemma ensures_changeProfileCache {c : ResourceCache} (hc : s.caches.profiles = .memory c)
    {f : ResourceCache → ResourceCache} {R : Unit → State → Prop}
    (h : R () { s with caches := { s.caches with profiles := .memory (f c) } }) :
    (changeProfileCache f).Ensures setting s R E := by
  unfold Ensures
  rw [run_changeProfileCache hc]
  exact h

lemma ensures_changeMemberCache {c : MemberCache} (hc : s.caches.groups = .memory c)
    {f : MemberCache → MemberCache} {R : Unit → State → Prop}
    (h : R () { s with caches := { s.caches with groups := .memory (f c) } }) :
    (changeMemberCache f).Ensures setting s R E := by
  unfold Ensures
  rw [run_changeMemberCache hc]
  exact h

/-- A loop: `I done` holds once the elements `done` are dealt with. -/
lemma ensures_forM {f : α → Action Unit} {xs : List α} {I : List α → State → Prop}
    (h : I [] s)
    (hf : ∀ done x s', x ∈ xs → I done s' →
      (f x).Ensures setting s' (fun _ => I (done ++ [x])) E) :
    (xs.forM f).Ensures setting s (fun _ => I xs) E := by
  -- the elements `ys` are left, after the elements `done`
  suffices H : ∀ (ys done : List α) (s' : State), xs = done ++ ys → I done s' →
      (ys.forM f).Ensures setting s' (fun _ => I xs) E from H xs [] s rfl h
  intro ys
  induction ys with
  | nil =>
    intro done s' hxs hI
    rw [List.append_nil] at hxs
    subst hxs
    exact ensures_pure hI
  | cons y ys ih =>
    intro done s' hxs hI
    refine Ensures.bind (f := fun _ => ys.forM f) (hf done y s' (by simp [hxs]) hI)
      fun _ s'' hI' => ?_
    exact ih (done ++ [y]) s'' (by simp [hxs]) hI'

/-- A loop with results: `I done` holds once the results are `done`. -/
lemma ensures_mapM {f : α → Action β} {xs : List α} {I : List β → State → Prop}
    (h : I [] s)
    (hf : ∀ done x s', x ∈ xs → I done s' →
      (f x).Ensures setting s' (fun b => I (done ++ [b])) E) :
    (xs.mapM f).Ensures setting s I E := by
  -- the results for the rest come after those in `done`, so the assertion `J` on them is not `I`
  suffices H : ∀ (ys : List α) (done : List β) (s' : State) (J : List β → State → Prop),
      (∀ y ∈ ys, y ∈ xs) → I done s' → (∀ bs s'', I (done ++ bs) s'' → J bs s'') →
      (ys.mapM f).Ensures setting s' J E from
    H xs [] s I (fun _ hy => hy) h (fun bs s'' hI => hI)
  intro ys
  induction ys with
  | nil =>
    intro done s' J _ hI hJ
    rw [List.mapM_nil]
    exact ensures_pure (hJ [] s' (by simpa using hI))
  | cons y ys ih =>
    intro done s' J hys hI hJ
    rw [List.mapM_cons]
    refine (hf done y s' (hys y (by simp)) hI).bind fun b s₁ hI₁ => ?_
    have htail := ih (done ++ [b]) s₁ (fun bs => J (b :: bs)) (fun z hz => hys z (by simp [hz]))
      hI₁ fun bs s₂ hI₂ => hJ (b :: bs) s₂ (by simpa using hI₂)
    exact htail.bind fun bs s₂ hbs => ensures_pure hbs

end Ensures

end DeviceFleet.Action
