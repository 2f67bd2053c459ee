/-
# What the authority decides

The authority of a session is told about users, about those who administer the platform and about
roles in organizations; the roles in groups it takes from the store.  While it is in order and
replies at once, what it decides about a request is settled by the token alone if the token is
unknown, and else by the roles of the user that the token stands for.
-/
import DeviceFleet.Proofs.Action.Heard
import DeviceFleet.Session.Surroundings

namespace DeviceFleet

/-! ## Roles -/

/-- The member has a stored membership in the group, with at least the role. -/
def Store.HoldsRole (s : Store) (groupId memberId : String) (role : Role) : Prop :=
  ∃ m : Membership,
    s.memberships[(⟨groupId, memberId⟩ : Membership.Key)]? = some m ∧ role ≤ m.role

namespace Authority

/-- The member was given a role in the organization, and the latest one is at least the role. -/
def HoldsOrgRole (a : Authority) (orgId memberId : String) (role : Role) : Prop :=
  ∃ held, a.orgRole? orgId memberId = some held ∧ role ≤ held

variable {a : Authority} {store : Store} {token object memberId : String} {role : Role}

lemma permits_root : a.permits store memberId (.root token) = true ↔ token ∈ a.admins := by
  simp only [permits, AuthorizeRequest.root, Std.ExtTreeSet.contains_iff_mem]

lemma permits_group :
    a.permits store memberId (.forObject token object .group role) = true ↔
      store.HoldsRole object memberId role := by
  simp only [permits, heldRole?, AuthorizeRequest.forObject, Store.findRole, Store.HoldsRole]
  rcases store.memberships[(⟨object, memberId⟩ : Membership.Key)]? with _ | m
  · simp [Except.toOption]
  · simp [Except.toOption]

lemma permits_org :
    a.permits store memberId (.forObject token object .org role) = true ↔
      a.HoldsOrgRole object memberId role := by
  simp only [permits, heldRole?, AuthorizeRequest.forObject, HoldsOrgRole]
  rcases a.orgRole? object memberId with _ | held
  · simp
  · simp

/-! ## Its configuration -/

/-- The authority was set up step by step. -/
inductive Configured : Authority → Prop where
  /-- At first it knows nobody. -/
  | empty : Configured empty
  /-- A token is made to stand for a user. -/
  | addUser {a : Authority} (h : Configured a) (token : String) (identity : Identity) :
      Configured (a.addUser token identity)
  /-- A token is made to stand for a user who administers the platform. -/
  | addAdmin {a : Authority} (h : Configured a) (token : String) (identity : Identity) :
      Configured (a.addAdmin token identity)
  /-- A role in an organization is given. -/
  | setOrgRole {a : Authority} (h : Configured a) (role : OrgRole) : Configured (a.setOrgRole role)
  /-- It is put out of order, or in order again. -/
  | setDown {a : Authority} (h : Configured a) (down : Bool) : Configured { a with down := down }
  /-- It is made to take some time. -/
  | setDelay {a : Authority} (h : Configured a) (delay : Nat) :
      Configured { a with delay := delay }

/-- Those who administer the platform are users. -/
lemma Configured.identity_of_admin (h : Configured a) (hadmin : token ∈ a.admins) :
    ∃ identity, a.identities[token]? = some identity := by
  -- a token that stands for somebody may come to stand for somebody else, but not for nobody
  have hkept : ∀ {a : Authority} {new : String} {identity : Identity},
      (∃ i, a.identities[token]? = some i) →
        ∃ i, (a.addUser new identity).identities[token]? = some i := by
    rintro a new identity ⟨i, hi⟩
    by_cases hnew : new = token
    · exact ⟨identity, by simp [Authority.addUser, hnew]⟩
    · exact ⟨i, by simpa [Authority.addUser, Std.ExtTreeMap.getElem?_insert, hnew] using hi⟩
  induction h with
  | empty => simp [Authority.empty] at hadmin
  | addUser h new identity ih => exact hkept (ih hadmin)
  | addAdmin h new identity ih =>
    by_cases hnew : new = token
    · exact ⟨identity, by simp [Authority.addAdmin, Authority.addUser, hnew]⟩
    · simp only [Authority.addAdmin, Authority.addUser, Std.ExtTreeSet.mem_insert,
        Std.compare_eq_iff_eq, hnew, false_or] at hadmin
      exact hkept (ih hadmin)
  | setOrgRole h role ih => exact ih hadmin
  | setDown h down ih => exact ih hadmin
  | setDelay h delay ih => exact ih hadmin

/-- The authority is in order and replies at once. -/
structure Attending (a : Authority) : Prop where
  /-- It was set up step by step. -/
  configured : a.Configured
  /-- It is in order. -/
  up : a.down = false
  /-- It takes no time. -/
  prompt : a.delay = 0

/-! ## Its decisions -/

variable {request : AuthorizeRequest} {identity : Identity}

lemma Attending.identity_eq_ok_iff (h : a.Attending) :
    a.identity token = .ok identity ↔ a.identities[token]? = some identity := by
  rw [Authority.identity, h.up]
  rcases a.identities[token]? with _ | i
  · simp
  · simp

/-- About an unknown token there is nothing to decide. -/
lemma Attending.decide_unknown (h : a.Attending) (hunknown : a.identities[request.token]? = none) :
    a.decide store request = .error (.unauthenticated "unknown token") := by
  rw [Authority.decide, Authority.identity, h.up, hunknown]
  rfl

/-- A request of a user is granted if the roles of the user permit it. -/
lemma Attending.decide_known (h : a.Attending) (store : Store) (request : AuthorizeRequest)
    (hknown : a.identities[request.token]? = some identity) :
    ∃ message, a.decide store request =
      if a.permits store identity.id request then .ok ()
      else .error (.permissionDenied message) := by
  rw [Authority.decide, h.identity_eq_ok_iff.2 hknown]
  change ∃ message, (if a.permits store identity.id request = true then _ else _) = _
  by_cases hpermits : a.permits store identity.id request = true
  · exact ⟨"", by rw [if_pos hpermits, if_pos hpermits]; rfl⟩
  · simp only [if_neg hpermits]
    exact ⟨_, rfl⟩

lemma Attending.decide_eq_ok_iff (h : a.Attending) :
    a.decide store request = .ok () ↔
      ∃ identity, a.identities[request.token]? = some identity ∧
        a.permits store identity.id request = true := by
  rcases hidentity : a.identities[request.token]? with _ | identity
  · simp [h.decide_unknown hidentity]
  · obtain ⟨message, hdecide⟩ := h.decide_known store request hidentity
    simp [hdecide]

end Authority

/-! ## The surroundings of a session -/

namespace Surroundings

open DeviceFleet.Action

/-- What an operation finds in the surroundings while the store is in order. -/
def setting (w : Surroundings) (rpcTimeout : Nat) : Setting where
  toCollaborators := w.collaborators
  rpcTimeout := rpcTimeout
  faults := []

variable {w : Surroundings} {rpcTimeout : Nat} {s : State} {request : AuthorizeRequest}
  {token : String} {identity : Identity}

lemma steady_setting (w : Surroundings) (rpcTimeout : Nat) : (w.setting rpcTimeout).Steady :=
  ⟨fun _ _ _ _ => rfl, fun _ _ _ _ => rfl⟩

/-- What is said at once is heard. -/
lemma heard_eq {α : Type} (h : w.authority.Attending) (answer : Except ClientError α) :
    (w.setting rpcTimeout).heard ⟨w.authority.delay, answer⟩ = some answer := by
  rw [Setting.heard, h.prompt, if_pos (Nat.zero_le _)]

lemma grants_iff (h : w.authority.Attending) :
    Grants (w.setting rpcTimeout) s request ↔
      ∃ identity, w.authority.identities[request.token]? = some identity ∧
        w.authority.permits s.store identity.id request = true := by
  rw [← h.decide_eq_ok_iff, Grants]
  change (w.setting rpcTimeout).heard
    ⟨w.authority.delay, w.authority.decide s.store request⟩ = _ ↔ _
  rw [heard_eq h, Option.some_inj]

lemma identifies_iff (h : w.authority.Attending) :
    Identifies (w.setting rpcTimeout) s token identity ↔
      w.authority.identities[token]? = some identity := by
  rw [← h.identity_eq_ok_iff, Identifies]
  change (w.setting rpcTimeout).heard ⟨w.authority.delay, w.authority.identity token⟩ = _ ↔ _
  rw [heard_eq h, Option.some_inj]

/-- A request for permission ends as the authority decides. -/
lemma authorize_eq (h : w.authority.Attending) :
    (authorize request (w.setting rpcTimeout) s).1 =
      (w.authority.decide s.store request).mapError permissionRefused := by
  rw [run_authorize]
  change settle rpcTimeout permissionRefused
    ⟨w.authority.delay, w.authority.decide s.store request⟩ = _
  rw [settle, h.prompt, if_neg (Nat.not_lt_zero _)]

end Surroundings

end DeviceFleet
