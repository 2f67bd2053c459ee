/-
# Metadata

The free-form bag of named JSON values that things, profiles and groups carry.  It is a finite
map, so two bags with the same entries are the same bag, and its entries are listed by name.
-/
import DeviceFleet.Json.Canonical
import Std.Data.ExtTreeMap

namespace DeviceFleet

/-- A bag of named JSON values. -/
abbrev Metadata := Std.ExtTreeMap String Json

namespace Metadata

/-- Shallow merge: the entries of `incoming` are put over those of `current`, as a whole each. -/
def merge (current incoming : Metadata) : Metadata := current ∪ incoming

@[simp] theorem getElem?_merge (current incoming : Metadata) (k : String) :
    (current.merge incoming)[k]? = incoming[k]?.or current[k]? :=
  Std.ExtTreeMap.getElem?_union

/-- The bag of some fields; of those with one name the last one counts.  Nested objects are
brought into their canonical form. -/
def ofFields (fields : List (String × Json)) : Metadata :=
  fields.foldl (fun m f => m.insert f.1 f.2.canonical) ∅

/-- The bag as a JSON object, its fields by ascending name. -/
def toJson (m : Metadata) : Json := .object m.toList

/-- The bag that a JSON value describes, if it is an object that a program can hold. -/
def ofJson? : Json → Option Metadata
  | .object fields => if Json.usableFields fields then some (ofFields fields) else none
  | _ => none

end Metadata

end DeviceFleet
