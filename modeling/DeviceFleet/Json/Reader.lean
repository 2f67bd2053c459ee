/-
# Reading JSON

The grammar of JSON over its tokens.  The reader takes the tokens one by one and keeps the
containers it is inside of, the innermost first, as frames that hold what is complete of them.
Only 127 containers may be open at a time.  A container within so many others is well-formed all
the same, but it stands for no value, and neither does an object with a name that is no text.
-/
import DeviceFleet.Json.Token

namespace DeviceFleet.Json

/-- A container part way through, newest parts first, that waits for a value. -/
inductive Frame where
  /-- A list with its complete items. -/
  | array (items : List Json)
  /-- An object with its complete fields, unless the name of one of them is no text, and the name
  of the field whose value comes next. -/
  | object (fields : Option (List (String × Json))) (name : Option String)
deriving Repr

/-- What may come next. -/
inductive Reader where
  /-- A value. -/
  | value (outer : List Frame)
  /-- The first item of a list or its end. -/
  | firstItem (outer : List Frame)
  /-- A comma or the end of the list. -/
  | afterItem (items : List Json) (outer : List Frame)
  /-- The first field of an object or its end. -/
  | firstField (outer : List Frame)
  /-- The name of a field. -/
  | fieldName (fields : Option (List (String × Json))) (outer : List Frame)
  /-- The colon after a name. -/
  | colon (fields : Option (List (String × Json))) (name : Option String) (outer : List Frame)
  /-- A comma or the end of the object. -/
  | afterField (fields : Option (List (String × Json))) (outer : List Frame)
  /-- Nothing: the value is complete. -/
  | complete (j : Json)
deriving Repr

namespace Reader

/-- The number of containers that may be open at a time. -/
def maxDepth : Nat := 127

/-- Puts a field before those that are complete. -/
def withField (fields : Option (List (String × Json))) (name : Option String) (j : Json) :
    Option (List (String × Json)) := do
  return (← name, j) :: (← fields)

/-- Hands a complete value to the innermost container. -/
def deliver (j : Json) : List Frame → Reader
  | [] => .complete j
  | .array items :: outer => .afterItem (j :: items) outer
  | .object fields name :: outer => .afterField (withField fields name j) outer

/-- Hands over a container that is closed.  With too many around it, it stands for no value. -/
def close (j : Json) (outer : List Frame) : Reader :=
  deliver (if outer.length < maxDepth then j else .unusable) outer

/-- Hands over an object that is closed. -/
def closeObject (fields : Option (List (String × Json))) (outer : List Frame) : Reader :=
  close (fields.elim .unusable fun fields => .object fields.reverse) outer

/-- Takes the first token of a value. -/
def begin (outer : List Frame) : Token → Option Reader
  | .scalar j => some (deliver j outer)
  | .text s => some (deliver (s.elim .unusable .string) outer)
  | .openBracket => some (.firstItem outer)
  | .openBrace => some (.firstField outer)
  | _ => none

/-- Takes one token. -/
def feed : Reader → Token → Option Reader
  | .value outer, t => begin outer t
  | .firstItem outer, .closeBracket => some (close (.array []) outer)
  | .firstItem outer, t => begin (.array [] :: outer) t
  | .afterItem items outer, .comma => some (.value (.array items :: outer))
  | .afterItem items outer, .closeBracket => some (close (.array items.reverse) outer)
  | .firstField outer, .closeBrace => some (closeObject (some []) outer)
  | .firstField outer, .text s => some (.colon (some []) s outer)
  | .fieldName fields outer, .text s => some (.colon fields s outer)
  | .colon fields name outer, .colon => some (.value (.object fields name :: outer))
  | .afterField fields outer, .comma => some (.fieldName fields outer)
  | .afterField fields outer, .closeBrace => some (closeObject fields outer)
  | _, _ => none

/-- The value of a text that ends here. -/
def finish : Reader → Option Json
  | .complete j => some j
  | _ => none

end Reader

/-- The value that tokens stand for. -/
def ofTokens? (ts : List Token) : Option Json :=
  (ts.foldlM Reader.feed (.value [])).bind Reader.finish

/-- Reads a JSON text. -/
def parse? (text : String) : Option Json := (Token.scan text.toList).bind ofTokens?

end DeviceFleet.Json
