/-
# Reverse indices

A reverse index keeps, for each thing pointed at, the set of names that point at it.  A set that
becomes empty is dropped.
-/
import Std.Data.ExtTreeMap
import Std.Data.ExtTreeSet

namespace DeviceFleet

/-- For each target the set of names that point at it. -/
abbrev ReverseIndex := Std.ExtTreeMap String (Std.ExtTreeSet String)

namespace ReverseIndex

instance : DecidableEq ReverseIndex :=
  inferInstanceAs (DecidableEq (Std.ExtTreeMap String (Std.ExtTreeSet String)))

/-- The names that point at a target. -/
def namesOf (index : ReverseIndex) (target : String) : Std.ExtTreeSet String :=
  index.getD target ∅

/-- Adds a name to the set of a target. -/
def add (index : ReverseIndex) (target name : String) : ReverseIndex :=
  index.insert target ((index.namesOf target).insert name)

/-- Takes a name out of the set of a target. -/
def remove (index : ReverseIndex) (target name : String) : ReverseIndex :=
  match index[target]? with
  | none => index
  | some names =>
    let names := names.erase name
    if names.isEmpty then index.erase target else index.insert target names

end ReverseIndex

end DeviceFleet
