/-
# Progress of the service

What an operation asks of others stays on record: the calls are counted, and the requests for
permission are kept with their outcome.  This file says how states follow one another in this
respect, and what it means that permission was granted between two of them.
-/
import DeviceFleet.Proofs.Action.Ensures

namespace DeviceFleet

variable {setting : Setting} {s s' s'' : State} {request : AuthorizeRequest}

/-- The state `s'` comes later than `s`, or is the same. -/
structure State.Precedes (s s' : State) : Prop where
  /-- Calls are only ever made. -/
  calls_le : s.calls ≤ s'.calls
  /-- What was asked stays on record. -/
  consultations : s.consultations <:+ s'.consultations

namespace State.Precedes

lemma refl (s : State) : s.Precedes s := ⟨Nat.le_refl _, List.suffix_refl _⟩

lemma of_eq (hcalls : s'.calls = s.calls) (hasked : s'.consultations = s.consultations) :
    s.Precedes s' :=
  ⟨Nat.le_of_eq hcalls.symm, hasked ▸ List.suffix_refl _⟩

lemma trans (h : s.Precedes s') (h' : s'.Precedes s'') : s.Precedes s'' :=
  ⟨Nat.le_trans h.calls_le h'.calls_le, h.consultations.trans h'.consultations⟩

end State.Precedes

/-- In the state `u`, between `s` and `s'`, the collaborator that grants permissions was asked, and
its answer, in time, was that it grants the request. -/
structure GrantedIn (setting : Setting) (request : AuthorizeRequest) (s u s' : State) : Prop where
  /-- It was asked after `s`. -/
  before : s.Precedes u
  /-- The answer was in time. -/
  in_time : (setting.authorize u.calls u.store request).delay ≤ setting.rpcTimeout
  /-- The request was granted. -/
  answer : (setting.authorize u.calls u.store request).answer = .ok ()
  /-- The call is counted, and the request is on record, in `s'`. -/
  after : State.Precedes
    { u with calls := u.calls + 1, consultations := ⟨request, true⟩ :: u.consultations } s'

/-- Between `s` and `s'` the collaborator that grants permissions granted the request. -/
def Granted (setting : Setting) (s s' : State) (request : AuthorizeRequest) : Prop :=
  ∃ u, GrantedIn setting request s u s'

namespace Granted

/-- What was granted by some state has been granted by every later one. -/
lemma mono_right (h : Granted setting s s' request) (h' : s'.Precedes s'') :
    Granted setting s s'' request := by
  obtain ⟨u, hu⟩ := h
  exact ⟨u, { hu with after := hu.after.trans h' }⟩

lemma mono_left (h' : s.Precedes s') (h : Granted setting s' s'' request) :
    Granted setting s s'' request := by
  obtain ⟨u, hu⟩ := h
  exact ⟨u, { hu with before := h'.trans hu.before }⟩

end Granted

/-- The caller with a token may act on everything, or has a role on the object. -/
def Permits (granted : AuthorizeRequest → Prop) (token : String) (subject : Subject)
    (object : String) (action : Role) : Prop :=
  granted (.root token) ∨ granted (.forObject token object subject action)

namespace Permits

variable {granted granted' : AuthorizeRequest → Prop} {token object : String} {subject : Subject}
  {action : Role}

lemma mono (h : Permits granted token subject object action)
    (hgranted : ∀ request, granted request → granted' request) :
    Permits granted' token subject object action :=
  h.imp (hgranted _) (hgranted _)

lemma later (h : Permits (Granted setting s s') token subject object action)
    (h' : s'.Precedes s'') : Permits (Granted setting s s'') token subject object action :=
  h.mono fun _ hg => hg.mono_right h'

lemma earlier (h' : s.Precedes s')
    (h : Permits (Granted setting s' s'') token subject object action) :
    Permits (Granted setting s s'') token subject object action :=
  h.mono fun _ hg => .mono_left h' hg

end Permits

/-- Between `s` and `s'` neither the store nor a cache has changed. -/
structure State.Unchanged (s s' : State) : Prop where
  /-- The store is the same. -/
  store : s'.store = s.store
  /-- The caches are the same. -/
  caches : s'.caches = s.caches
  /-- Something may have been asked. -/
  precedes : s.Precedes s'

namespace State.Unchanged

lemma refl (s : State) : s.Unchanged s := ⟨rfl, rfl, .refl s⟩

lemma trans (h : s.Unchanged s') (h' : s'.Unchanged s'') : s.Unchanged s'' :=
  ⟨h'.store.trans h.store, h'.caches.trans h.caches, h.precedes.trans h'.precedes⟩

end State.Unchanged

namespace Action

/-! ## Asking collaborators -/

/-- What comes of a reply: it is too late, or it is a refusal, which becomes a failure of the
service, or an answer. -/
def settle {α : Type} (rpcTimeout : Nat) (refused : ClientError → ServiceError) (reply : Reply α) :
    Except ServiceError α :=
  if rpcTimeout < reply.delay then .error (.timeout rpcTimeout) else reply.answer.mapError refused

lemma settle_eq_ok_iff {α : Type} {rpcTimeout : Nat} {refused : ClientError → ServiceError}
    {reply : Reply α} {a : α} :
    settle rpcTimeout refused reply = .ok a ↔ reply.delay ≤ rpcTimeout ∧ reply.answer = .ok a := by
  unfold settle
  split
  · rename_i hlate
    simp only [reduceCtorEq, false_iff, not_and]
    exact fun hle => absurd hle (Nat.not_le.2 hlate)
  · rename_i hintime
    have hle : reply.delay ≤ rpcTimeout := Nat.le_of_not_lt hintime
    rcases reply.answer with e | a' <;> simp [hle, Except.mapError]

/-- The refusal of a permission as a failure of the service. -/
def permissionRefused : ClientError → ServiceError
  | .unauthenticated message => .authentication message
  | e => .authorization e.message

/-- The refusal of the directory of users as a failure of the service. -/
def usersRefused : ClientError → ServiceError
  | .unauthenticated message => .authentication message
  | e => .internal s!"users lookup failed: {e.message}"

lemma run_authorize (request : AuthorizeRequest) :
    authorize request setting s =
      (settle setting.rpcTimeout permissionRefused (setting.authorize s.calls s.store request),
        { s with
          calls := s.calls + 1
          consultations :=
            ⟨request, settle setting.rpcTimeout permissionRefused
              (setting.authorize s.calls s.store request) matches .ok _⟩ :: s.consultations }) := by
  simp only [authorize, run_bind, run_read, run_get, run_modify, run_await, settle]
  rcases setting.authorize s.calls s.store request with ⟨delay, ⟨e⟩ | ⟨⟨⟩⟩⟩
  · by_cases hlate : setting.rpcTimeout < delay
    · simp [hlate]
    · cases e <;> simp [hlate, Except.mapError, permissionRefused]
  · by_cases hlate : setting.rpcTimeout < delay
    · have hnot : ¬ delay ≤ setting.rpcTimeout := Nat.not_le.2 hlate
      simp [hlate, hnot]
    · have hle : delay ≤ setting.rpcTimeout := Nat.le_of_not_lt hlate
      simp [hlate, hle, Except.mapError]

lemma run_identifyCaller (token : String) :
    identifyCaller token setting s =
      (settle setting.rpcTimeout (fun e => .authentication e.message)
        (setting.identify s.calls s.store token), { s with calls := s.calls + 1 }) := by
  simp only [identifyCaller, run_bind, run_read, run_get, run_modify, run_await, settle]
  rcases setting.identify s.calls s.store token with ⟨delay, ⟨e⟩ | ⟨identity⟩⟩ <;>
    by_cases hlate : setting.rpcTimeout < delay <;> simp [hlate, Except.mapError]

lemma run_findUsers (ids : List String) :
    findUsers ids setting s =
      (settle setting.rpcTimeout usersRefused (setting.findUsers s.calls s.store ids),
        { s with calls := s.calls + 1 }) := by
  simp only [findUsers, run_bind, run_read, run_get, run_modify, run_await, settle]
  rcases setting.findUsers s.calls s.store ids with ⟨delay, ⟨e⟩ | ⟨users⟩⟩
  · by_cases hlate : setting.rpcTimeout < delay
    · simp [hlate]
    · cases e <;> simp [hlate, Except.mapError, usersRefused]
  · by_cases hlate : setting.rpcTimeout < delay <;> simp [hlate, Except.mapError]

lemma ensures_authorize (request : AuthorizeRequest) :
    (authorize request).Ensures setting s
      (fun _ s' => s.Unchanged s' ∧ Granted setting s s' request) (fun _ s' => s.Unchanged s') := by
  unfold Ensures
  rw [run_authorize]
  have hunchanged : ∀ c : Consultation, s.Unchanged
      { s with calls := s.calls + 1, consultations := c :: s.consultations } := fun c =>
    ⟨rfl, rfl, Nat.le_succ _, List.suffix_cons c _⟩
  rcases hp : settle setting.rpcTimeout permissionRefused
    (setting.authorize s.calls s.store request) with e | ⟨⟩
  · exact hunchanged _
  · obtain ⟨hintime, hanswer⟩ := settle_eq_ok_iff.1 hp
    exact ⟨hunchanged _, s, .refl s, hintime, hanswer, .of_eq rfl rfl⟩

end Action

end DeviceFleet
