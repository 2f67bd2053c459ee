/-
# JSON values

A JSON value as it is written: the fields of an object are kept in the order of the text and may
repeat.  A number is an integer, or a decimal `± digits · 10 ^ exponent` when it is written with
a fraction or an exponent or lies outside the range of 64-bit integers.

A text can be well-formed and still have parts that stand for nothing that a program can hold, as
numbers that are too large and strings with half of a surrogate pair.  Whoever passes such a part
over does not mind, so it is kept as a value of its own.
-/

namespace DeviceFleet

/-- A JSON value. -/
inductive Json where
  /-- The literal `null`. -/
  | null
  /-- A truth value. -/
  | bool (b : Bool)
  /-- A whole number. -/
  | integer (n : Int)
  /-- A number that is not written as a whole one. -/
  | decimal (negative : Bool) (digits : Nat) (exponent : Int)
  /-- A text. -/
  | string (s : String)
  /-- A list of values. -/
  | array (items : List Json)
  /-- Named values. -/
  | object (fields : List (String × Json))
  /-- What is well-formed and stands for no value. -/
  | unusable
deriving Inhabited, Repr

namespace Json

mutual

/-- Equality of values is decided along their structure. -/
def decEq : (a b : Json) → Decidable (a = b)
  | .null, .null | .unusable, .unusable => isTrue rfl
  | .bool a, .bool b => decidable_of_iff (a = b) (by simp)
  | .integer a, .integer b => decidable_of_iff (a = b) (by simp)
  | .decimal n d e, .decimal n' d' e' =>
    decidable_of_iff (n = n' ∧ d = d' ∧ e = e') (by simp)
  | .string a, .string b => decidable_of_iff (a = b) (by simp)
  | .array a, .array b =>
    match decEqItems a b with
    | isTrue h => isTrue (by rw [h])
    | isFalse h => isFalse (by simpa using h)
  | .object a, .object b =>
    match decEqFields a b with
    | isTrue h => isTrue (by rw [h])
    | isFalse h => isFalse (by simpa using h)
  | .null, .bool _ | .null, .integer _ | .null, .decimal .. | .null, .string _
  | .null, .array _ | .null, .object _ | .null, .unusable
  | .bool _, .null | .bool _, .integer _ | .bool _, .decimal .. | .bool _, .string _
  | .bool _, .array _ | .bool _, .object _ | .bool _, .unusable
  | .integer _, .null | .integer _, .bool _ | .integer _, .decimal .. | .integer _, .string _
  | .integer _, .array _ | .integer _, .object _ | .integer _, .unusable
  | .decimal .., .null | .decimal .., .bool _ | .decimal .., .integer _
  | .decimal .., .string _ | .decimal .., .array _ | .decimal .., .object _
  | .decimal .., .unusable
  | .string _, .null | .string _, .bool _ | .string _, .integer _ | .string _, .decimal ..
  | .string _, .array _ | .string _, .object _ | .string _, .unusable
  | .array _, .null | .array _, .bool _ | .array _, .integer _ | .array _, .decimal ..
  | .array _, .string _ | .array _, .object _ | .array _, .unusable
  | .object _, .null | .object _, .bool _ | .object _, .integer _ | .object _, .decimal ..
  | .object _, .string _ | .object _, .array _ | .object _, .unusable
  | .unusable, .null | .unusable, .bool _ | .unusable, .integer _ | .unusable, .decimal ..
  | .unusable, .string _ | .unusable, .array _ | .unusable, .object _ => isFalse (by simp)

/-- Equality of lists of values. -/
def decEqItems : (a b : List Json) → Decidable (a = b)
  | [], [] => isTrue rfl
  | [], _ :: _ | _ :: _, [] => isFalse (by simp)
  | x :: xs, y :: ys =>
    match decEq x y, decEqItems xs ys with
    | isTrue h, isTrue h' => isTrue (by rw [h, h'])
    | isFalse h, _ => isFalse fun e => h (List.cons.inj e).1
    | _, isFalse h => isFalse fun e => h (List.cons.inj e).2

/-- Equality of lists of fields. -/
def decEqFields : (a b : List (String × Json)) → Decidable (a = b)
  | [], [] => isTrue rfl
  | [], _ :: _ | _ :: _, [] => isFalse (by simp)
  | (k, x) :: xs, (l, y) :: ys =>
    if hk : k = l then
      match decEq x y, decEqFields xs ys with
      | isTrue h, isTrue h' => isTrue (by rw [hk, h, h'])
      | isFalse h, _ => isFalse fun e => h (Prod.mk.inj (List.cons.inj e).1).2
      | _, isFalse h => isFalse fun e => h (List.cons.inj e).2
    else isFalse fun e => hk (Prod.mk.inj (List.cons.inj e).1).1

end

instance : DecidableEq Json := decEq

mutual

/-- Can a program hold the value, with all of its parts? -/
def isUsable : Json → Bool
  | .unusable => false
  | .array items => usableItems items
  | .object fields => usableFields fields
  | _ => true

/-- Can a program hold the items of a list? -/
def usableItems : List Json → Bool
  | [] => true
  | j :: js => isUsable j && usableItems js

/-- Can a program hold the values of fields? -/
def usableFields : List (String × Json) → Bool
  | [] => true
  | (_, v) :: fs => isUsable v && usableFields fs

end

/-- The value of a field, the last one when the name repeats; absent in what is no object. -/
def field? (j : Json) (name : String) : Option Json :=
  match j with
  | .object fields => (fields.reverse.find? fun f => f.1 == name).map (·.2)
  | _ => none

/-- A whole number as a value. -/
def ofNat (n : Nat) : Json := .integer n

/-- An object from the fields that are present. -/
def ofFields (fields : List (String × Option Json)) : Json :=
  .object (fields.filterMap fun f => f.2.map fun v => (f.1, v))

end Json

end DeviceFleet
