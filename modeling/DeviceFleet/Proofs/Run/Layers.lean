/-
# The layers around the service

The service is called through layers, of which one counts the calls and the other reports them.  The
layers leave the answers, the records and the caches as they are: an operation does the same
whatever was counted and reported before it.  And the counts are exact, since the service itself
counts nothing but look-ups in its caches.
-/
import DeviceFleet.Proofs.Run.KeyRenaming
import DeviceFleet.Proofs.Run.Transparency
import DeviceFleet.Service.Layer

namespace DeviceFleet.Service

/-! ## Names -/

namespace Operation

/-- The names of all operations. -/
def names : List String :=
  ["create_things", "update_thing", "update_things_metadata", "update_key", "view_thing",
    "view_metadata_by_key", "list_things", "list_things_by_org", "list_things_by_group",
    "list_things_by_profile", "remove_things", "identify", "get_pub_conf_by_key",
    "get_group_id_by_thing_id", "get_profile_id_by_thing_id", "create_profiles", "update_profile",
    "view_profile", "view_profile_by_thing", "list_profiles", "list_profiles_by_org",
    "list_profiles_by_group", "remove_profiles", "get_config_by_thing_id",
    "get_group_id_by_profile_id", "create_groups", "update_group", "view_group",
    "view_group_by_thing", "view_group_by_profile", "list_groups", "list_groups_by_org",
    "remove_groups", "create_group_memberships", "list_group_memberships",
    "update_group_memberships", "remove_group_memberships", "backup", "backup_groups_by_org",
    "backup_things_by_org", "backup_profiles_by_org", "backup_things_by_group",
    "backup_profiles_by_group", "backup_group_memberships", "restore", "can_user_access_thing",
    "can_user_access_profile", "can_user_access_group", "can_user_access_org",
    "can_thing_access_group"]

lemma nodup_names : names.Nodup := by decide +kernel

lemma getElem?_names (op : Operation) : names[op.ctorIdx]? = some op.name := by
  cases op <;> rfl

/-- Are two operations of one kind, whatever their arguments? -/
def sameKind (op op' : Operation) : Bool := op.ctorIdx == op'.ctorIdx

/-- Operations have one name exactly if they are of one kind. -/
lemma beq_name (op op' : Operation) : (op.name == op'.name) = op.sameKind op' := by
  have hop := getElem?_names op
  have hop' := getElem?_names op'
  rw [sameKind, Bool.eq_iff_iff, beq_iff_eq, beq_iff_eq]
  constructor
  · intro hname
    obtain ⟨hlt, -⟩ := List.getElem?_eq_some_iff.1 hop
    exact (List.getElem?_inj hlt nodup_names).1 (by rw [hop, hop', hname])
  · intro hkind
    rw [hkind, hop'] at hop
    exact (Option.some.inj hop).symm

end Operation

/-! ## Passing on -/

/-- What comes of calling operations through layers, one after the other.  With each operation comes
how long it takes. -/
def calls (setting : Setting) : List (Operation × UInt64) → List Layer → State → List Called
  | [], _, _ => []
  | (op, micros) :: ops, layers, s =>
    let called := op.call micros layers setting s
    called :: calls setting ops called.layers called.state

/-- Operations, each with whether it succeeds when they are carried out one after the other, without
layers. -/
def verdicts (setting : Setting) : List Operation → State → List (Operation × Bool)
  | [], _ => []
  | op :: ops, s => (op, (op.run setting s).1.isOk) :: verdicts setting ops (op.run setting s).2

variable {setting : Setting} {s t : State}

/-- How often an operation of some name had a verdict. -/
def named (verdicts : List (Operation × Bool)) (method : String) (ok : Bool) : Nat :=
  verdicts.countP fun v => v.1.name == method && v.2 == ok

/-- From some totals and counts to others, calls with some verdicts were counted.  The totals are
words that may wrap around. -/
structure Counted (verdicts : List (Operation × Bool)) (totals : CallTotals) (metrics : Registry)
    (totals' : CallTotals) (metrics' : Registry) : Prop where
  /-- Every call is in the totals. -/
  requests : totals'.requests = totals.requests + .ofNat verdicts.length
  /-- Every failure is in the totals. -/
  errors : totals'.errors = totals.errors + .ofNat (verdicts.countP fun v => !v.2)
  /-- Every call is counted by its name and its verdict. -/
  request : ∀ method ok, metrics'.value (.request method ok) =
    metrics.value (.request method ok) + named verdicts method ok
  /-- Every duration is counted by them, too. -/
  duration : ∀ method ok, metrics'.value (.duration method ok) =
    metrics.value (.duration method ok) + named verdicts method ok

namespace Counted

variable {totals totals' totals'' : CallTotals} {metrics metrics' metrics'' : Registry}
  {v w : List (Operation × Bool)}

lemma nil (totals : CallTotals) (metrics : Registry) :
    Counted [] totals metrics totals metrics where
  requests := (UInt64.add_zero _).symm
  errors := (UInt64.add_zero _).symm
  request _ _ := rfl
  duration _ _ := rfl

lemma append (h : Counted v totals metrics totals' metrics')
    (h' : Counted w totals' metrics' totals'' metrics'') :
    Counted (v ++ w) totals metrics totals'' metrics'' where
  requests := by
    rw [h'.requests, h.requests, List.length_append, UInt64.ofNat_add, UInt64.add_assoc]
  errors := by
    rw [h'.errors, h.errors, List.countP_append, UInt64.ofNat_add, UInt64.add_assoc]
  request method ok := by
    rw [h'.request, h.request, named, named, named, List.countP_append, Nat.add_assoc]
  duration method ok := by
    rw [h'.duration, h.duration, named, named, named, List.countP_append, Nat.add_assoc]

end Counted

/-- What the layers of a service know after calls with some verdicts. -/
structure Exact (verdicts : List (Operation × Bool)) (metrics : Registry) (totals : CallTotals)
    (metrics' : Registry) : Prop where
  /-- All calls are in the totals. -/
  requests : totals.requests.toNat = verdicts.length
  /-- All failures are in the totals. -/
  errors : totals.errors.toNat = verdicts.countP fun v => !v.2
  /-- There are no more failures than calls. -/
  errors_le : totals.errors ≤ totals.requests
  /-- All other calls succeeded. -/
  successes : totals.successes.toNat = totals.requests.toNat - totals.errors.toNat
  /-- Under the name of an operation its answers and its failures were counted, and no others. -/
  request : ∀ (op : Operation) (ok : Bool), metrics'.value (.request op.name ok) =
    metrics.value (.request op.name ok) + verdicts.countP fun v => v.1.sameKind op && v.2 == ok
  /-- So were their durations. -/
  duration : ∀ (op : Operation) (ok : Bool), metrics'.value (.duration op.name ok) =
    metrics.value (.duration op.name ok) + verdicts.countP fun v => v.1.sameKind op && v.2 == ok

/-- What is counted under the name of an operation are the operations of its kind. -/
lemma named_name (verdicts : List (Operation × Bool)) (op : Operation) (ok : Bool) :
    named verdicts op.name ok = verdicts.countP fun v => v.1.sameKind op && v.2 == ok := by
  simp only [named, Operation.beq_name]

/-- As long as the words do not wrap around, the counts are exact. -/
lemma Counted.exact {verdicts : List (Operation × Bool)} {totals : CallTotals}
    {metrics metrics' : Registry} (h : Counted verdicts .zero metrics totals metrics')
    (hlength : verdicts.length < 2 ^ 64) : Exact verdicts metrics totals metrics' := by
  have hfailed : (verdicts.countP fun v => !v.2) ≤ verdicts.length := List.countP_le_length
  have hrequests : totals.requests.toNat = verdicts.length := by
    rw [h.requests, CallTotals.zero, UInt64.zero_add, UInt64.toNat_ofNat_of_lt' hlength]
  have herrors : totals.errors.toNat = verdicts.countP fun v => !v.2 := by
    rw [h.errors, CallTotals.zero, UInt64.zero_add,
      UInt64.toNat_ofNat_of_lt' (Nat.lt_of_le_of_lt hfailed hlength)]
  have hle : totals.errors ≤ totals.requests := by
    rw [UInt64.le_iff_toNat_le, hrequests, herrors]
    exact hfailed
  refine ⟨hrequests, herrors, hle, UInt64.toNat_sub_of_le _ _ hle, fun op ok => ?_, fun op ok => ?_⟩
  · rw [h.request, named_name]
  · rw [h.duration, named_name]

end DeviceFleet.Service
