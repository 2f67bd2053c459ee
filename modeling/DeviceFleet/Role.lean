/-
# Roles

The four roles that a membership can grant.  They are ordered, and a role grants whatever a lower
one grants.
-/

namespace DeviceFleet

/-- A role in a group or an organization. -/
inductive Role where
  /-- May look at things. -/
  | viewer
  /-- May also change things. -/
  | editor
  /-- May also manage members. -/
  | admin
  /-- May also remove and export. -/
  | owner
deriving DecidableEq, Repr

namespace Role

/-- The place of a role in the order. -/
def rank : Role → Nat
  | .viewer => 0
  | .editor => 1
  | .admin => 2
  | .owner => 3

instance : LE Role := ⟨fun a b => a.rank ≤ b.rank⟩

instance : LT Role := ⟨fun a b => a.rank < b.rank⟩

instance (a b : Role) : Decidable (a ≤ b) := inferInstanceAs (Decidable (a.rank ≤ b.rank))

instance (a b : Role) : Decidable (a < b) := inferInstanceAs (Decidable (a.rank < b.rank))

/-- Does holding a role satisfy a request for another one? -/
def grants (held required : Role) : Bool := required ≤ held

@[simp] theorem grants_iff {held required : Role} :
    held.grants required = true ↔ required ≤ held := by simp [grants]

/-- The name of a role. -/
def name : Role → String
  | .viewer => "viewer"
  | .editor => "editor"
  | .admin => "admin"
  | .owner => "owner"

instance : ToString Role := ⟨name⟩

/-- The role with a name. -/
def ofName? (s : String) : Option Role :=
  [viewer, editor, admin, owner].find? fun r => r.name == s

@[simp] theorem ofName?_name (r : Role) : ofName? r.name = some r := by cases r <;> rfl

end Role

end DeviceFleet
