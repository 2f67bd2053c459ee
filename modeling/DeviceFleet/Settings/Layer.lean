/-
# Layers of settings

Settings come from several sources.  What a source says is put in a tree of sections and values:
it holds there from then on, and what the source does not mention stays.  A section without entries
says nothing.  The keys of a source are paths into the tree.

With the YAML reader and the coercions this makes up a library (`Library.reference`).
-/
import DeviceFleet.Settings.Coercion
import DeviceFleet.Settings.Library
import DeviceFleet.Text.Split
import DeviceFleet.Yaml.Block

namespace DeviceFleet

/-- Is the value a map? -/
def Json.isMap : Json → Bool
  | .object _ => true
  | _ => false

namespace Settings

/-- Sets an entry of a section; what is no section is replaced by one. -/
def setEntry (name : String) (value : Json) : Json → Json
  | .object fields => .object (fields.filter (fun f => f.1 ≠ name) ++ [(name, value)])
  | _ => .object [(name, value)]

mutual

/-- A value laid over what is below it, if there is something. -/
def overlay : Json → Option Json → Json
  | .object fields, below => overlayEntries fields (below.getD (.object []))
  | value, _ => value

/-- The entries of a section laid over what is below it. -/
def overlayEntries : List (String × Json) → Json → Json
  | [], below => below
  | (name, value) :: fields, below =>
    overlayEntries fields (setEntry name (overlay value (below.field? name)) below)

end

/-! ## Lists -/

/-- The items of a list; what is no list has none. -/
def itemsOf : Json → List Json
  | .array items => items
  | _ => []

/-- The place in a list that an index stands for. -/
def place (items : List Json) (index : Int) : Nat :=
  if 0 ≤ index then index.toNat else items.length - (-index).toNat

/-- Sets an item of a list, which grows as far as needed; what is no list is replaced by one. -/
def setItem (index : Int) (value : Json) (below : Json) : Json :=
  let items := itemsOf below
  let n := place items index
  .array ((items ++ List.replicate (n + 1 - items.length) Json.null).set n value)

/-! ## Paths -/

/-- Can the character be part of a name in a path? -/
def inName (c : Char) : Bool := c.isAlphanum || c = '_' || c = '-' || c = ' '

/-- The index between brackets, after the opening one, and what follows the closing one. -/
def index? (cs : List Char) : Option (Int × List Char) :=
  let (negative, ds) := match cs.dropWhile (· = ' ') with
    | '-' :: ds => (true, ds)
    | ds => (false, ds)
  let n : Int := Text.digitsValue (ds.takeWhile Char.isDigit)
  match ds.head?.any Char.isDigit, (ds.dropWhile Char.isDigit).dropWhile (· = ' ') with
  | true, ']' :: rest => some (if negative then -n else n, rest)
  | _, _ => none

/-- The steps that a part of a key stands for: names after points and indices in brackets.  Each of
them takes one of `fuel`; the length of the part is enough. -/
def steps? : (fuel : Nat) → List Char → Option (List Step)
  | _, [] => some []
  | fuel + 1, '.' :: cs => do
    let name := cs.takeWhile inName
    if name.isEmpty then none
    else return .entry (String.ofList name) :: (← steps? fuel (cs.dropWhile inName))
  | fuel + 1, '[' :: cs => do
    let (i, rest) ← index? cs
    return .item i :: (← steps? fuel rest)
  | _, _ => none

/-- What a key stands for; a key that is no path is one name. -/
def path (key : String) : String × List Step :=
  let root := key.toList.takeWhile inName
  match steps? key.length (key.toList.dropWhile inName) with
  | some steps => if root.isEmpty then (key, []) else (String.ofList root, steps)
  | none => (key, [])

/-- Puts a value where some steps lead.  A section there is laid over what is below it. -/
def putAt (value : Json) : List Step → Json → Json
  | [], _ => value
  | [.entry name], below => setEntry name (overlay value (below.field? name)) below
  | .entry name :: step :: steps, below =>
    setEntry name (putAt value (step :: steps) ((below.field? name).getD .null)) below
  | .item index :: steps, below =>
    let item := (itemsOf below)[place (itemsOf below) index]?
    setItem index (putAt value steps (item.getD .null)) below

/-! ## The environment -/

/-- The key that a variable of the environment sets, if it holds a setting; its case does not
matter. -/
def variableKey? (style : VariableStyle) (name : String) : Option String :=
  let stem := (Text.lower (style.stem ++ style.stemEnd)).toList
  let cs := (Text.lower name).toList
  if stem.isPrefixOf cs then
    some (Text.replace style.separator "." (String.ofList (cs.drop stem.length)))
  else none

/-! ## The library -/

/-- The entries at the top of a YAML text. -/
def fileEntries? (text : String) : Option (List (String × Json)) :=
  match Yaml.parse? text with
  | some (.object fields) => some fields
  | _ => none

/-- Puts a value in a tree, where its key says. -/
def put (key : String) (value tree : Json) : Json :=
  putAt value (.entry (path key).1 :: (path key).2) tree

/-- The library whose trees are JSON and whose files are written in YAML. -/
@[reducible]
def Library.reference : Library where
  Value := Json
  isTable := Json.isMap
  field? := Json.field?
  empty := .object []
  ofJson := id
  ofText := .string
  entries? := fileEntries?
  key? := variableKey?
  path := Settings.path
  put := Settings.put
  flag? := asFlag?
  number? := asNumber?
  text? := asText?

end Settings

end DeviceFleet
