/-
# Steps and runs

One operation is one step of the service.  Every step leads from a coherent state to a coherent
one, with an effect of the operation on the records, and whether the caches are turned on makes
no difference to its result.  So every state that is reached from the empty one is coherent.
-/
import DeviceFleet.Proofs.Service.Queries
import DeviceFleet.Proofs.Service.Restore
import Mathlib.Logic.Relation

namespace DeviceFleet.Service

open DeviceFleet.Action

variable {setting : Setting} {s s' : State}

/-! ## One step -/

/-- What is shown of the states that an action ends in holds of the state after the operation. -/
lemma follows_map {α : Type} {op : Operation} {x : Action α} (f : α → Answer)
    (h : x.Ensures setting s (fun _ s' => Follows setting op s s')
      (fun _ s' => Follows setting op s s')) : Follows setting op s ((f <$> x) setting s).2 := by
  rw [run_map]
  exact h.state

lemma follows_completed {op : Operation} {x : Action Unit}
    (h : x.Ensures setting s (fun _ s' => Follows setting op s s')
      (fun _ s' => Follows setting op s s')) :
    Follows setting op s (Operation.completed x setting s).2 :=
  (h.bind fun _ _ h' => ensures_pure (Q := fun _ s' => Follows setting op s s') h').state

lemma run_completed (x : Action Unit) :
    Operation.completed x setting s = ((x setting s).1.map fun _ => .done, (x setting s).2) := by
  rw [Operation.completed, run_bind]
  rcases x setting s with ⟨⟨e⟩ | ⟨⟨⟩⟩, s'⟩ <;> rfl

/-- An operation without an answer succeeds when what it carries out does. -/
lemma completed_ok {x : Action Unit} {answer : Answer}
    (h : (Operation.completed x setting s).1 = .ok answer) :
    x setting s = (.ok (), (Operation.completed x setting s).2) := by
  rw [run_completed] at h ⊢
  rcases hx : x setting s with ⟨⟨e⟩ | ⟨⟨⟩⟩, s'⟩
  · simp [hx, Except.map] at h
  · rfl

/-- It fails as what it carries out does. -/
lemma completed_error {x : Action Unit} {e : ServiceError}
    (h : (Operation.completed x setting s).1 = .error e) : (x setting s).1 = .error e := by
  rw [run_completed] at h
  rcases hx : (x setting s).1 with e' | ⟨⟩
  · simpa [hx, Except.map] using h
  · simp [hx, Except.map] at h

/-- What holds of an action that succeeds holds of the operation that it completes. -/
lemma completed_ensures {x : Action Unit} {Q : State → Prop} {E : ServiceError → State → Prop}
    {answer : Answer} (hx : x.Ensures setting s (fun _ s' => Q s') E)
    (h : (Operation.completed x setting s).1 = .ok answer) :
    Q (Operation.completed x setting s).2 :=
  hx.of_ok (completed_ok h)

/-- A failure that changes no record leads somewhere, too. -/
lemma ensures_follows {α : Type} {op : Operation} {x : Action α} {P : State → Prop}
    (h : x.Ensures setting s (fun _ s' => Follows setting op s s' ∧ P s')
      (fun _ s' => s.Keeps s')) :
    x.Ensures setting s (fun _ s' => Follows setting op s s')
      (fun _ s' => Follows setting op s s') :=
  h.mono (fun _ _ h => h.1) fun _ _ h => .of_keeps h

/-- **Every operation leads from a coherent state to a coherent state, and changes the records
only as its effects say.** -/
lemma follows_run (hs : s.Coherent) (op : Operation) :
    Follows setting op s (op.run setting s).2 := by
  -- the operations that write one by one; all others only read
  by_cases hwrites : op.writes = true
  · cases op with
    | createThings token things =>
      exact follows_map _ ((ensures_createThings hs things).mono_error
        fun _ _ h => .of_keeps h)
    | updateThing token t =>
      exact follows_completed ((ensures_updateThing hs t).mono_error
        fun _ _ h => .of_keeps h)
    | updateThingsMetadata token things =>
      exact follows_completed (ensures_updateThingsMetadata hs things)
    | updateKey token id key => exact follows_completed (ensures_follows (ensures_updateKey hs))
    | removeThings token ids =>
      exact follows_completed (ensures_follows (ensures_removeThings hs ids))
    | createProfiles token profiles =>
      exact follows_map _ ((ensures_createProfiles hs profiles).mono_error
        fun _ _ h => .of_keeps h)
    | updateProfile token p =>
      exact follows_completed ((ensures_updateProfile hs p).mono_error
        fun _ _ h => .of_keeps h)
    | removeProfiles token ids =>
      exact follows_completed (ensures_follows (ensures_removeProfiles hs ids))
    | createGroups token orgId groups => exact follows_map _ (ensures_createGroups hs groups)
    | updateGroup token g =>
      exact follows_map _ ((ensures_updateGroup hs g).mono_error
        fun _ _ h => .of_keeps h)
    | removeGroups token ids =>
      exact follows_completed (ensures_follows (ensures_removeGroups hs ids))
    | createMemberships token groupId members =>
      exact follows_completed ((ensures_createMemberships hs members).mono_error
        fun _ _ h => .of_keeps h)
    | updateMemberships token groupId members =>
      exact follows_completed ((ensures_updateMemberships hs members).mono_error
        fun _ _ h => .of_keeps h)
    | removeMemberships token groupId memberIds =>
      exact follows_completed ((ensures_removeMemberships hs memberIds).mono_error
        fun _ _ h => .of_keeps h)
    | restore token b =>
      exact follows_completed ((ensures_restore hs).mono (fun _ _ h => h.1) fun _ _ h => h)
    | _ => simp [Operation.writes] at hwrites
  · rw [Bool.not_eq_true] at hwrites
    exact .of_keeps ((op.readOnly_run hwrites).keeps hs)

lemma couples_completed {x : Action Unit} (h : Couples State.Coherent x) :
    Couples State.Coherent (Operation.completed x) :=
  h.bind_blind fun _ => blind_pure Answer.done

/-- Whether the caches are turned on makes no difference to the result of an operation.  Taking out
profiles is not among these, as it goes along a walk. -/
lemma couples_run {op : Operation} (hop : ∀ token ids, op ≠ .removeProfiles token ids) :
    Couples State.Coherent op.run := by
  -- as before: those that write one by one, all others at once
  by_cases hwrites : op.writes = true
  · cases op with
    | createThings token things => exact (couples_createThings token things).map _
    | updateThing token t => exact couples_completed (couples_updateThing token t)
    | updateThingsMetadata token things =>
      exact couples_completed (couples_updateThingsMetadata token things)
    | updateKey token id key => exact couples_completed (couples_updateKey token id key)
    | removeThings token ids => exact couples_completed (couples_removeThings token ids)
    | createProfiles token profiles => exact (couples_createProfiles token profiles).map _
    | updateProfile token p => exact couples_completed (couples_updateProfile token p)
    | removeProfiles token ids => exact absurd rfl (hop token ids)
    | createGroups token orgId groups => exact (couples_createGroups token orgId groups).map _
    | updateGroup token g => exact (couples_updateGroup token g).map _
    | removeGroups token ids => exact couples_completed (couples_removeGroups token ids)
    | createMemberships token groupId members =>
      exact couples_completed (couples_createMemberships token groupId members)
    | updateMemberships token groupId members =>
      exact couples_completed (couples_updateMemberships token groupId members)
    | removeMemberships token groupId memberIds =>
      exact couples_completed (couples_removeMemberships token groupId memberIds)
    | restore token b => exact couples_completed (couples_restore token b)
    | _ => simp [Operation.writes] at hwrites
  · rw [Bool.not_eq_true] at hwrites
    exact (op.readOnly_run hwrites).couples

/-! ## Runs -/

/-- One operation leads from `s` to `s'`, in a setting that is admitted for it. -/
def Step (admits : State → Setting → Operation → Prop) (s s' : State) : Prop :=
  ∃ setting op, admits s setting op ∧ (op.run setting s).2 = s'

/-- Any operation is admitted in any setting. -/
def anyCall (_ : State) (_ : Setting) (_ : Operation) : Prop := True

/-- Any number of operations leads from `s` to `s'`. -/
abbrev Leads (admits : State → Setting → Operation → Prop) (s s' : State) : Prop :=
  Relation.ReflTransGen (Step admits) s s'

/-- The state is reached from that of a service without records and with empty caches in memory,
which are turned on or off. -/
def Reachable (admits : State → Setting → Operation → Prop) (enabled : Bool) (s : State) : Prop :=
  Leads admits (State.initial ∅ (Caches.inMemory enabled)) s

variable {admits : State → Setting → Operation → Prop} {enabled : Bool}

lemma Step.coherent (h : Step admits s s') (hs : s.Coherent) : s'.Coherent := by
  obtain ⟨setting, op, -, rfl⟩ := h
  exact (follows_run hs op).coherent

lemma Leads.coherent (h : Leads admits s s') (hs : s.Coherent) : s'.Coherent := by
  induction h with
  | refl => exact hs
  | tail _ hstep ih => exact hstep.coherent ih

/-- **Every reachable state is coherent.** -/
lemma Reachable.coherent (h : Reachable admits enabled s) : s.Coherent :=
  Leads.coherent h (.initial enabled)

/-- One more operation. -/
lemma Reachable.step (h : Reachable admits enabled s) {setting : Setting} {op : Operation}
    (hop : admits s setting op) : Reachable admits enabled (op.run setting s).2 :=
  Relation.ReflTransGen.tail h ⟨setting, op, hop, rfl⟩

/-- The state after some operations in one setting. -/
def after (setting : Setting) (ops : List Operation) (s : State) : State :=
  ops.foldl (fun s op => (op.run setting s).2) s

/-- Operations that are admitted everywhere lead somewhere. -/
lemma leads_after {ops : List Operation} (h : ∀ s, ∀ op ∈ ops, admits s setting op) (s : State) :
    Leads admits s (after setting ops s) := by
  induction ops generalizing s with
  | nil => exact .refl
  | cons op ops ih =>
    have hstep : Step admits s (op.run setting s).2 := ⟨setting, op, h s op List.mem_cons_self, rfl⟩
    exact .head hstep (ih (fun s op hop => h s op (List.mem_cons_of_mem _ hop)) _)

/-! ## A small fleet -/

/-- Whoever asks may do everything, and the token is the name of the caller. -/
def permissive : Setting where
  authorize _ _ _ := ⟨0, .ok ()⟩
  identify _ _ token := ⟨0, .ok ⟨token, ""⟩⟩
  findUsers _ _ _ := ⟨0, .ok []⟩
  newId n := .ok s!"id{n}"
  clock _ := .ofSeconds 0
  rpcTimeout := 1000
  faults := []

/-- A thing in a group. -/
def sensor : Thing := ⟨"sensor", "group", "profile", "Sensor", "secret", ∅⟩

/-- A caller makes a group with a profile and a sensor, which then makes itself known. -/
def smallFleetOps : List Operation :=
  [.createGroups "owner" "org" [⟨"group", "", "Group", "", ∅, .ofSeconds 0, .ofSeconds 0⟩],
    .createProfiles "owner" [⟨"profile", "group", "Profile", ∅, ∅⟩],
    .createThings "owner" [sensor],
    .identify "secret"]

/-- The service after these operations, with its caches turned on. -/
def smallFleet : State := after permissive smallFleetOps (.initial ∅ (Caches.inMemory true))

lemma reachable_smallFleet (h : ∀ s, ∀ op ∈ smallFleetOps, admits s permissive op) :
    Reachable admits true smallFleet :=
  leads_after h _

lemma smallFleet_sensor : smallFleet.store.things["sensor"]? = some sensor := by decide +kernel

end DeviceFleet.Service
