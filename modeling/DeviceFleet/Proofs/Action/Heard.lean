/-
# What the service hears

A reply of a collaborator counts only if it comes in time.  This file says what the service hears
when it asks for permission or asks who a caller is, and what it means that those who reply are
steady: whenever they are asked about one thing and one store, the same is heard.
-/
import DeviceFleet.Proofs.Action.ReadOnly

namespace DeviceFleet

variable {setting : Setting} {s s' : State} {request : AuthorizeRequest} {token : String}
  {identity : Identity}

namespace Setting

/-- What is heard of a reply: the answer, unless it comes too late. -/
def heard {α : Type} (setting : Setting) (reply : Reply α) : Option (Except ClientError α) :=
  if reply.delay ≤ setting.rpcTimeout then some reply.answer else none

lemma heard_eq_some_iff {α : Type} {reply : Reply α} {answer : Except ClientError α} :
    setting.heard reply = some answer ↔
      reply.delay ≤ setting.rpcTimeout ∧ reply.answer = answer := by
  rw [heard]
  by_cases hintime : reply.delay ≤ setting.rpcTimeout
  · simp [hintime]
  · simp [hintime]

/-- What is heard about a caller depends on the question and on the store, and on nothing that has
happened before. -/
structure Steady (setting : Setting) : Prop where
  /-- Permission is granted whenever it is asked for, or never. -/
  authorize : ∀ (m n : Nat) (store : Store) (request : AuthorizeRequest),
    setting.heard (setting.authorize m store request) =
      setting.heard (setting.authorize n store request)
  /-- A token always stands for the same caller. -/
  identify : ∀ (m n : Nat) (store : Store) (token : String),
    setting.heard (setting.identify m store token) = setting.heard (setting.identify n store token)

end Setting

/-- Permission is granted, and in time, if it is asked for next. -/
def Grants (setting : Setting) (s : State) (request : AuthorizeRequest) : Prop :=
  setting.heard (setting.authorize s.calls s.store request) = some (.ok ())

/-- The caller with a token is made known, and in time, if that is asked next. -/
def Identifies (setting : Setting) (s : State) (token : String) (identity : Identity) : Prop :=
  setting.heard (setting.identify s.calls s.store token) = some (.ok identity)

/-- A token stands for one caller. -/
lemma Identifies.unique (h : Identifies setting s token identity) {identity' : Identity}
    (h' : Identifies setting s token identity') : identity = identity' :=
  Except.ok.inj (Option.some.inj (h.symm.trans h'))

namespace Setting.Steady

lemma grants_iff (h : setting.Steady) (hstore : s'.store = s.store) :
    Grants setting s' request ↔ Grants setting s request := by
  rw [Grants, Grants, hstore, h.authorize s'.calls s.calls]

lemma identifies_iff (h : setting.Steady) (hstore : s'.store = s.store) :
    Identifies setting s' token identity ↔ Identifies setting s token identity := by
  rw [Identifies, Identifies, hstore, h.identify s'.calls s.calls]

end Setting.Steady

namespace Action

/-- What is settled as an answer is what is heard as an answer. -/
lemma settle_eq_ok_iff_heard {α : Type} {refused : ClientError → ServiceError} {reply : Reply α}
    {a : α} :
    settle setting.rpcTimeout refused reply = .ok a ↔ setting.heard reply = some (.ok a) := by
  rw [settle_eq_ok_iff, Setting.heard_eq_some_iff]

lemma authorize_eq_ok_iff :
    (authorize request setting s).1 = .ok () ↔ Grants setting s request := by
  rw [run_authorize]
  exact settle_eq_ok_iff_heard

lemma identifyCaller_eq_ok_iff :
    (identifyCaller token setting s).1 = .ok identity ↔ Identifies setting s token identity := by
  rw [run_identifyCaller]
  exact settle_eq_ok_iff_heard

/-- What is known of the state after an action, and of when it succeeds, tells how it ends. -/
lemma ensures_of_ok_iff {α : Type} {x : Action α} {P : State → Prop} {A : α → Prop}
    (hstate : P (x setting s).2) (hok : ∀ a, (x setting s).1 = .ok a ↔ A a) :
    x.Ensures setting s (fun a s' => P s' ∧ A a) (fun _ s' => P s' ∧ ∀ a, ¬ A a) := by
  rw [ensures_iff]
  constructor
  · intro a s' hrun
    rw [hrun] at hstate
    exact ⟨hstate, (hok a).1 (congrArg Prod.fst hrun)⟩
  · intro e s' hrun
    rw [hrun] at hstate
    refine ⟨hstate, fun a ha => ?_⟩
    have hsucceeds := (hok a).2 ha
    simp [hrun] at hsucceeds

/-- Whether a request succeeds tells whether permission is granted. -/
lemma ensures_authorize_grants (request : AuthorizeRequest) :
    (authorize request).Ensures setting s
      (fun _ s' => s.Unchanged s' ∧ Grants setting s request)
      (fun _ s' => s.Unchanged s' ∧ ¬ Grants setting s request) := by
  refine (ensures_of_ok_iff (unchanged_authorize request setting s)
    fun _ => authorize_eq_ok_iff).mono_error ?_
  rintro e s' ⟨hunchanged, hnot⟩
  exact ⟨hunchanged, hnot ()⟩

/-- Whether a caller is made known tells who the caller is. -/
lemma ensures_identifyCaller (token : String) :
    (identifyCaller token).Ensures setting s
      (fun identity s' => s.Unchanged s' ∧ Identifies setting s token identity)
      (fun _ s' => s.Unchanged s' ∧ ∀ identity, ¬ Identifies setting s token identity) :=
  ensures_of_ok_iff (unchanged_identifyCaller token setting s) fun _ => identifyCaller_eq_ok_iff

/-- A store that is in order answers a question that it never refuses to answer. -/
lemma run_query {α : Type} (h : setting.faults = []) (method : Store.Method) (f : Store → α) :
    ask method (fun store => .ok (f store)) setting s = (.ok (f s.store), s) := by
  rw [run_ask, h]
  rfl

/-- A question that the store never refuses to answer fails only if the store is out of order. -/
lemma ensures_query {α : Type} (method : Store.Method) (f : Store → α) :
    (ask method fun store => .ok (f store)).Ensures setting s
      (fun a s' => s' = s ∧ a = f s.store) (fun _ _ => setting.faults ≠ []) := by
  unfold Ensures
  rw [run_ask]
  by_cases hrefused : .refuses method ∈ setting.faults
  · rw [if_pos hrefused]
    exact List.ne_nil_of_mem hrefused
  · rw [if_neg hrefused]
    exact ⟨rfl, rfl⟩

end Action

end DeviceFleet
