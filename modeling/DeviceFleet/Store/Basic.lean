/-
# The store

The records of a fleet, each kind as a finite map from what identifies a record to the record,
and the key index, which finds the thing that has a key.  This module has the store, how its
records are listed, and the check that a field is not blank.
-/
import DeviceFleet.Backup
import DeviceFleet.Page
import DeviceFleet.Store.Error
import DeviceFleet.Text.Blank
import Std.Data.ExtTreeMap

namespace DeviceFleet

/-- The records of a fleet. -/
structure Store where
  /-- The things by identifier. -/
  things : Std.ExtTreeMap String Thing
  /-- The identifier of the thing that has a key. -/
  thingKeys : Std.ExtTreeMap String String
  /-- The profiles by identifier. -/
  profiles : Std.ExtTreeMap String Profile
  /-- The groups by identifier. -/
  groups : Std.ExtTreeMap String Group
  /-- The memberships by group and member. -/
  memberships : Std.ExtTreeMap Membership.Key Membership
deriving DecidableEq

/-- What comes of a request to change the store: an answer or a refusal, and the store after it
either way. -/
abbrev Store.Outcome (α : Type) := Except StoreError α × Store

/-- Does the pair `a` come before the pair `b`, or is it the same?  First components count first. -/
def pairLe (a b : String × String) : Bool :=
  (compareLex (compareOn (·.1)) (compareOn (·.2)) a b).isLE

/-- An order in which the store goes through a map.  A map is not kept in an order of its own, so
all that is known of it is that every key comes once. -/
structure Store.Walk where
  /-- The keys as they come, given in ascending order. -/
  arrange : List String → List String
  /-- They are the same keys. -/
  perm : ∀ keys, (arrange keys).Perm keys

namespace Store.Walk

/-- The order in which the keys ascend. -/
def ascending : Walk := ⟨id, fun _ => .refl _⟩

/-- The order in which the keys descend. -/
def descending : Walk := ⟨List.reverse, List.reverse_perm⟩

instance : Inhabited Walk := ⟨ascending⟩

end Store.Walk

namespace Store

/-- The store without records. -/
def empty : Store := ⟨∅, ∅, ∅, ∅, ∅⟩

instance : EmptyCollection Store := ⟨empty⟩

instance : Inhabited Store := ⟨empty⟩

/-- The records of a map by ascending key. -/
def recordsOf {κ α : Type} [Ord κ] [Std.TransOrd κ] (m : Std.ExtTreeMap κ α) : List α :=
  m.toList.map (·.2)

/-- The records of a list by ascending name, those with one name by identifier. -/
def byName {α : Type} (name id : α → String) (items : List α) : List α :=
  items.mergeSort fun a b => pairLe (name a, id a) (name b, id b)

/-- The things that satisfy a condition, by identifier. -/
def thingsWhere (s : Store) (p : Thing → Bool) : List Thing := (recordsOf s.things).filter p

/-- The things in the order of a walk. -/
def thingsAlong (walk : Walk) (s : Store) : List Thing :=
  (walk.arrange s.things.keys).filterMap fun id => s.things[id]?

/-- The profiles that satisfy a condition, by identifier. -/
def profilesWhere (s : Store) (p : Profile → Bool) : List Profile :=
  (recordsOf s.profiles).filter p

/-- The groups that satisfy a condition, by identifier. -/
def groupsWhere (s : Store) (p : Group → Bool) : List Group := (recordsOf s.groups).filter p

/-- The memberships that satisfy a condition, by group and member. -/
def membershipsWhere (s : Store) (p : Membership → Bool) : List Membership :=
  (recordsOf s.memberships).filter p

/-- Refuses a blank field. -/
def require (value field : String) : Except StoreError Unit :=
  if Text.isBlank value then .error (.invalidInput s!"{field} cannot be empty") else .ok ()

@[simp] theorem require_eq_ok_iff {value field : String} :
    require value field = .ok () ↔ Text.isBlank value = false := by
  unfold require; split <;> simp_all

/-- Inserts the records of a batch one after the other.  When one is refused, those of the batch
that are in already, kept in `saved`, are taken out again. -/
def insertEach {α : Type} (insert : α → Store → Outcome Unit) (undo : α → Store → Store)
    (saved : List α) : List α → Store → Outcome Unit
  | [], s => (.ok (), s)
  | x :: xs, s =>
    match insert x s with
    | (.ok (), s) => insertEach insert undo (x :: saved) xs s
    | (.error e, s) => (.error e, saved.foldr undo s)

end Store

end DeviceFleet
