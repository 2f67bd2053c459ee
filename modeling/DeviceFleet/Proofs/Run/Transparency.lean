/-
# The caches make no difference

The same operations are carried out on two services that start without records, one with its
caches turned on and one with its caches turned off.  Neither the answers nor the records tell
the two apart; and the second misses as often as the first finds something or misses.

There is one exception, and the caches have no part in it.  Each service goes through its things
on walks of its own.  If profiles cannot be taken out as things use several of them, the refusal
names the one that comes first on the walk.

That the states of the two services are twins is what one operation preserves.  It does so only
because the caches of the first remember nothing but what the store would answer, so coherence is
carried along.
-/
import DeviceFleet.Proofs.Run.Step

namespace DeviceFleet.Service

open DeviceFleet.Action

/-- What comes of carrying out operations one after the other: the outcome of each of them, with
the state after it. -/
def trace (setting : Setting) : List Operation → State → List (Except ServiceError Answer × State)
  | [], _ => []
  | op :: ops, s => op.run setting s :: trace setting ops (op.run setting s).2

/-- The outcomes of an operation on a service with caches and on one without cannot be told apart,
but by the name in a refusal to take out profiles. -/
structure Alike (walks walks' : Nat → Store.Walk) (op : Operation)
    (on off : Except ServiceError Answer × State) : Prop where
  /-- The answers are the same, or the failures are; or both refuse to take out profiles, as things
  use those that they name. -/
  answer : on.1 = off.1 ∨ walks ≠ walks' ∧ ∃ token ids, op = .removeProfiles token ids ∧
    RefusesUsed on.2.store ids on.1 ∧ RefusesUsed off.2.store ids off.1
  /-- The records are the same. -/
  store : on.2.store = off.2.store
  /-- What the one has found or missed in a cache, the other has missed. -/
  lookups : ∀ kind, on.2.metrics.value (.cacheHit kind) + on.2.metrics.value (.cacheMiss kind) =
    off.2.metrics.value (.cacheMiss kind)
  /-- The other has found nothing. -/
  no_hits : ∀ kind, off.2.metrics.value (.cacheHit kind) = 0

variable {setting : Setting} {s t : State} {token : String} {ids : List String}

/-- Two services that have not been used are twins. -/
lemma twin_initial (store : Store) :
    (State.initial store (Caches.inMemory true)).Twin
      (State.initial store (Caches.inMemory false)) where
  store := rfl
  calls := rfl
  idsTaken := rfl
  clockReads := rfl
  consultations := rfl
  memory := (State.Coherent.initial true).mirrors.inMemory
  off := rfl
  lookups _ := rfl
  no_hits _ := rfl

/-- A refusal to take out profiles leaves the records as they were. -/
lemma store_of_refusesUsed (hs : s.Coherent)
    (h : RefusesUsed s.store ids (removeProfiles token ids setting s).1) :
    (removeProfiles token ids setting s).2.store = s.store := by
  obtain ⟨p, -, -, hp⟩ := h
  exact ((ensures_iff.1 (ensures_removeProfiles hs ids)).2 _ _ (Prod.ext hp rfl)).store

/-- Of twins an operation makes twins, and its outcomes on them are alike. -/
lemma alike_run (op : Operation) (walks : Nat → Store.Walk) (hfaults : setting.faults = [])
    (htwin : s.Twin t) (hs : s.Coherent) :
    Alike setting.walks walks op (op.run setting s)
        (op.run { setting with walks := walks } t) ∧
      (op.run setting s).2.Twin (op.run { setting with walks := walks } t).2 := by
  by_cases hop : ∀ token ids, op ≠ .removeProfiles token ids
  · obtain ⟨hresult, htwin'⟩ := couples_run hop walks hfaults htwin hs
    exact ⟨⟨.inl hresult, htwin'.store.symm, htwin'.lookups, htwin'.no_hits⟩, htwin'⟩
  · push Not at hop
    obtain ⟨token, ids, rfl⟩ := hop
    obtain ⟨hresult, htwin'⟩ := twin_removeProfiles token ids walks hfaults htwin hs
    simp only [Operation.run, run_completed]
    refine ⟨⟨?_, htwin'.store.symm, htwin'.lookups, htwin'.no_hits⟩, htwin'⟩
    rcases hresult with hresult | ⟨hwalks, hon, hoff⟩
    · exact .inl (by rw [hresult])
    · -- a refusal leaves the records as they were, so the profiles are in use after it, too
      have hstore := store_of_refusesUsed hs hon
      obtain ⟨p, hp, hpuses, hpe⟩ := hon
      obtain ⟨p', hp', hpuses', hpe'⟩ := hoff
      refine .inr ⟨hwalks, token, ids, rfl, ⟨p, hp, ?_, by rw [hpe]; rfl⟩, p', hp', ?_,
        by rw [hpe']; rfl⟩
      · rwa [hstore]
      · rwa [htwin'.store, hstore]

/-- Twins of which the one with the caches is coherent have traces that are alike. -/
lemma forall₂_alike_trace (walks : Nat → Store.Walk) (hfaults : setting.faults = [])
    (ops : List Operation) (htwin : s.Twin t) (hs : s.Coherent) :
    List.Forall₂ (fun op outcomes => Alike setting.walks walks op outcomes.1 outcomes.2) ops
      ((trace setting ops s).zip (trace { setting with walks := walks } ops t)) := by
  induction ops generalizing s t with
  | nil => exact .nil
  | cons op ops ih =>
    -- coherence of the first service has to be carried along for the next operation
    obtain ⟨halike, htwin'⟩ := alike_run op walks hfaults htwin hs
    have hs' : (op.run setting s).2.Coherent := (follows_run hs op).coherent
    exact .cons halike (ih htwin' hs')

/-- **The caches are transparent.**  Whatever is asked of the service, and whatever its
collaborators answer, it makes no difference whether the caches are turned on.  With the same walks
all answers are the same; with different ones a refusal to take out profiles may name another one
that is in use. -/
theorem trace_initial_alike (collaborators : Collaborators) (rpcTimeout : Nat)
    (walks walks' : Nat → Store.Walk) (ops : List Operation) :
    List.Forall₂ (fun op outcomes => Alike walks walks' op outcomes.1 outcomes.2) ops
      ((trace ⟨collaborators, rpcTimeout, [], walks⟩ ops (.initial ∅ (Caches.inMemory true))).zip
        (trace ⟨collaborators, rpcTimeout, [], walks'⟩ ops
          (.initial ∅ (Caches.inMemory false)))) := by
  let setting : Setting := ⟨collaborators, rpcTimeout, [], walks⟩
  have hfaults : setting.faults = [] := rfl
  exact forall₂_alike_trace walks' hfaults ops (twin_initial ∅) (.initial true)

/-- Two things with a profile each, which both cannot be taken out. -/
def twoUsedOps : List Operation :=
  [.createGroups "owner" "org" [⟨"group", "", "Group", "", ∅, .ofSeconds 0, .ofSeconds 0⟩],
    .createProfiles "owner" [⟨"p1", "group", "P", ∅, ∅⟩, ⟨"p2", "group", "P", ∅, ∅⟩],
    .createThings "owner"
      [⟨"t1", "group", "p1", "T", "k1", ∅⟩, ⟨"t2", "group", "p2", "T", "k2", ∅⟩],
    .removeProfiles "owner" ["p1", "p2"]]

/-- One service goes through its things up and names the first profile, the other goes down and
names the second. -/
theorem refusals_name_different_profiles :
    (trace { permissive with walks := fun _ => .ascending } twoUsedOps
        (.initial ∅ (Caches.inMemory true))).getLast?.map (·.1) =
      some (.error (.profileAssigned "p1")) ∧
    (trace { permissive with walks := fun _ => .descending } twoUsedOps
        (.initial ∅ (Caches.inMemory false))).getLast?.map (·.1) =
      some (.error (.profileAssigned "p2")) := by
  decide +kernel

end DeviceFleet.Service
