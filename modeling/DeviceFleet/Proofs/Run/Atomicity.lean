/-
# Failed operations

An operation that fails leaves the records as they were, wherever in its course the failure came
from: a record that is missing, a refusal by a collaborator or by the store, a batch of which some
records were in already.  Three operations are different by intent: they deal with their records
one after the other, and what was done before the failure stays.
-/
import DeviceFleet.Proofs.Run.Step

namespace DeviceFleet.Service

open DeviceFleet.Action

variable {setting : Setting} {s : State} {op : Operation} {enabled : Bool}

/-- Does the operation deal with its records one after the other, so that what was done before a
failure stays? -/
def Operation.stepwise : Operation → Bool
  | .updateThingsMetadata .. | .createGroups .. | .restore .. => true
  | _ => false

/-- The failures of an action are those of the operation that it completes. -/
lemma ensures_completed {x : Action Unit} {Q : Unit → State → Prop}
    {E : ServiceError → State → Prop} (h : x.Ensures setting s Q E) :
    (Operation.completed x).Ensures setting s (fun _ _ => True) E :=
  h.bind fun _ _ _ => ensures_pure trivial

/-- The failures of an action are those of the operation that hands on its answer. -/
lemma ensures_answer {α : Type} {x : Action α} {f : α → Answer} {Q : α → State → Prop}
    {E : ServiceError → State → Prop} (h : x.Ensures setting s Q E) :
    (f <$> x).Ensures setting s (fun _ _ => True) E :=
  Ensures.map (h.mono_ok fun _ _ _ => trivial)

/-- A failure keeps the records, if the operation is not stepwise. -/
lemma ensures_keeps_of_error (hs : s.Coherent) (hop : op.stepwise = false) :
    op.run.Ensures setting s (fun _ _ => True) (fun _ s' => s.Keeps s') := by
  by_cases hwrites : op.writes = true
  · cases op with
    | createThings token things => exact ensures_answer (ensures_createThings hs things)
    | updateThing token t => exact ensures_completed (ensures_updateThing hs t)
    | updateKey token id key => exact ensures_completed (ensures_updateKey hs)
    | removeThings token ids => exact ensures_completed (ensures_removeThings hs ids)
    | createProfiles token profiles => exact ensures_answer (ensures_createProfiles hs profiles)
    | updateProfile token p => exact ensures_completed (ensures_updateProfile hs p)
    | removeProfiles token ids => exact ensures_completed (ensures_removeProfiles hs ids)
    | updateGroup token g => exact ensures_answer (ensures_updateGroup hs g)
    | removeGroups token ids => exact ensures_completed (ensures_removeGroups hs ids)
    | createMemberships token groupId members =>
      exact ensures_completed (ensures_createMemberships hs members)
    | updateMemberships token groupId members =>
      exact ensures_completed (ensures_updateMemberships hs members)
    | removeMemberships token groupId memberIds =>
      exact ensures_completed (ensures_removeMemberships hs memberIds)
    | updateThingsMetadata | createGroups | restore => simp [Operation.stepwise] at hop
    | _ => simp [Operation.writes] at hwrites
  · rw [Bool.not_eq_true] at hwrites
    exact ((op.readOnly_run hwrites).ensures hs).mono_ok fun _ _ _ => trivial

/-- **An operation that fails leaves the records as they were.**  This holds in every reachable
state, whatever the collaborators answer and whether the store is in order or not, for all
operations but the stepwise ones. -/
theorem Reachable.store_of_failed (h : Reachable anyCall enabled s)
    (hop : op.stepwise = false) {e : ServiceError} (hfailed : (op.run setting s).1 = .error e) :
    (op.run setting s).2.store = s.store := by
  have hkeeps := (ensures_iff.1 (ensures_keeps_of_error h.coherent hop)).2 e _
    (Prod.ext hfailed rfl)
  exact hkeeps.store

/-- The second of two new things has the key of the sensor, so the first is taken out again. -/
theorem spare_taken_out_again :
    let op := Operation.createThings "owner"
      [{ sensor with id := "spare", key := "other" }, { sensor with id := "copy" }]
    (op.run permissive smallFleet).1 = .error (.conflict "thing key already in use") ∧
      (op.run permissive smallFleet).2.store = smallFleet.store := by
  intro op
  have hreachable : Reachable anyCall true smallFleet :=
    reachable_smallFleet fun _ _ _ => trivial
  have hfailed : (op.run permissive smallFleet).1 =
      .error (.conflict "thing key already in use") := by decide +kernel
  exact ⟨hfailed, Reachable.store_of_failed hreachable rfl hfailed⟩

end DeviceFleet.Service
