/-
# Canonical JSON

The object of a JSON text is a map: the order of its fields does not matter, and of fields with
one name the last one counts.  The canonical form of a value writes every map in one way, its
names ascending.  A value that has it is its own canonical form.
-/
import DeviceFleet.Json.Basic

namespace DeviceFleet.Json

/-- Puts a field among fields with ascending names, in place of one with the same name. -/
def insertField (name : String) (value : Json) : List (String × Json) → List (String × Json)
  | [] => [(name, value)]
  | f :: fs =>
    if name < f.1 then (name, value) :: f :: fs
    else if name = f.1 then (name, value) :: fs
    else f :: insertField name value fs

/-- The fields with ascending names; of those with one name the last one counts. -/
def sortFields (fields : List (String × Json)) : List (String × Json) :=
  fields.foldl (fun sorted f => insertField f.1 f.2 sorted) []

mutual

/-- The canonical form of a value. -/
def canonical : Json → Json
  | .array items => .array (canonicalItems items)
  | .object fields => .object (sortFields (canonicalFields fields))
  | j => j

/-- The canonical forms of the items of a list. -/
def canonicalItems : List Json → List Json
  | [] => []
  | j :: js => canonical j :: canonicalItems js

/-- Fields whose values are in canonical form, in the same order. -/
def canonicalFields : List (String × Json) → List (String × Json)
  | [] => []
  | (k, v) :: fs => (k, canonical v) :: canonicalFields fs

end

/-- Are the names of the fields strictly ascending? -/
def AscendingNames (fields : List (String × Json)) : Prop :=
  fields.Pairwise fun f g => f.1 < g.1

/-- The integers that are written as such: the signed and the unsigned ones of 64 bits. -/
def InRange (n : Int) : Prop := Int64.minValue.toInt ≤ n ∧ n < UInt64.size

instance (n : Int) : Decidable (InRange n) := inferInstanceAs (Decidable (_ ∧ _))

end DeviceFleet.Json
