/-
# Records in JSON

A record is written as an object with one field per part, or as a list of its parts in order.
Fields that the record does not have are passed over; one of its own that is written twice makes
the text ambiguous and is refused.
-/
import DeviceFleet.Json.Basic

namespace DeviceFleet.Json

/-- The values of a field. -/
def valuesOf (name : String) (fields : List (String × Json)) : List Json :=
  (fields.filter fun f => f.1 == name).map (·.2)

/-- The value of a part among fields, if it is there; refused when it is there twice. -/
def part? (fields : List (String × Json)) (name : String) : Option (Option Json) :=
  match valuesOf name fields with
  | [] => some none
  | [j] => some (some j)
  | _ => none

/-- The parts of a record in the order of `names`; a part that is left out is absent. -/
def record? (names : List String) : Json → Option (List (Option Json))
  | .object fields => names.mapM (part? fields)
  | .array items =>
    if items.length ≤ names.length then
      some (items.map some ++ List.replicate (names.length - items.length) none)
    else none
  | _ => none

/-- A part that has to be there. -/
def required {α : Type} (read : Json → Option α) (part : Option Json) : Option α :=
  part.bind read

/-- A part that stands for `default` when it is left out. -/
def optional {α : Type} (default : α) (read : Json → Option α) (part : Option Json) : Option α :=
  match part with
  | none => some default
  | some j => read j

/-- Reads a string. -/
def string? : Json → Option String
  | .string s => some s
  | _ => none

/-- Reads a truth value. -/
def bool? : Json → Option Bool
  | .bool b => some b
  | _ => none

/-- Reads a whole number that fits into 64 unsigned bits. -/
def word? : Json → Option Nat
  | .integer n => if 0 ≤ n ∧ n < UInt64.size then some n.toNat else none
  | _ => none

/-- Reads a list. -/
def list? {α : Type} (read : Json → Option α) : Json → Option (List α)
  | .array items => items.mapM read
  | _ => none

/-- Reads a value or `null`. -/
def nullable? {α : Type} (read : Json → Option α) : Json → Option (Option α)
  | .null => some none
  | j => (read j).map some

/-- Reads one of several names, written as a string or as the only field, holding `null`, of an
object. -/
def choice? {α : Type} (ofName? : String → Option α) : Json → Option α
  | .string s => ofName? s
  | .object [(s, .null)] => ofName? s
  | _ => none

end DeviceFleet.Json
