/-
# The block style of YAML

Maps with one entry a line and lists with one item a line, nested by indentation.  The lines are
first arranged as an outline, in which every line stands above the lines that are indented
further; the outline is then read from the inside out.  The part of YAML that is read here has no
anchors, tags, block scalars or scalars that run over several lines.
-/
import DeviceFleet.Json.Canonical
import DeviceFleet.Text.Split
import DeviceFleet.Yaml.Flow

namespace DeviceFleet.Yaml

/-- A line without its indentation. -/
structure Line where
  /-- How far the line is indented.  A list item counts as indented further than a map entry at the
  same place, since the list of an entry need not be indented. -/
  depth : Nat
  /-- The characters of the line. -/
  content : List Char
deriving DecidableEq, Repr

/-- Do the characters start a list item? -/
def startsItem : List Char → Bool
  | '-' :: cs => endsKey false cs
  | _ => false

/-- A line, or nothing if it holds only a comment. -/
def line? (cs : List Char) : Option Line :=
  let content := trimEnd (cs.dropWhile (· = ' '))
  if isRemark content then none
  else
    let indent := (cs.takeWhile (· = ' ')).length
    some ⟨2 * indent + (if startsItem content then 1 else 0), content⟩

/-- The lines of a text that hold more than a comment. -/
def lines (text : String) : List Line :=
  ((Text.pieces (fun c => c = '\n' || c = '\r') text.toList)).filterMap line?

/-- A line and the lines under it. -/
inductive Outline where
  /-- A line and what is indented further, in order. -/
  | entry (line : Line) (under : List Outline)

namespace Outline

/-- How far the first line is indented. -/
def depth : Outline → Nat
  | .entry line _ => line.depth

end Outline

/-- Puts a line in front: what is indented further goes under it. -/
def attach (line : Line) (rest : List Outline) : List Outline :=
  let deeper (o : Outline) : Bool := line.depth < o.depth
  .entry line (rest.takeWhile deeper) :: rest.dropWhile deeper

/-- The outline of some lines. -/
def outline (ls : List Line) : List Outline := ls.foldr attach []

/-- What a line with the lines under it is. -/
inductive Part where
  /-- An entry of a map. -/
  | field (key : String) (value : Json)
  /-- An item of a list. -/
  | item (value : Json)
  /-- A value by itself. -/
  | lone (value : Json)

namespace Part

/-- The entry of a map that a part is. -/
def field? : Part → Option (String × Json)
  | .field key value => some (key, value)
  | _ => none

/-- The item of a list that a part is. -/
def item? : Part → Option Json
  | .item value => some value
  | _ => none

end Part

/-- The value of parts that stand side by side. -/
def assemble : List Part → Option Json
  | [] => some .null
  | [.lone value] => some value
  | parts => ((parts.mapM Part.field?).map .object).or ((parts.mapM Part.item?).map .array)

/-- The value of the rest of a line. -/
def inline? (cs : List Char) : Option Json :=
  if cs.head?.any fun c => c ∈ ['[', '\x7b', '"', '\''] then flow? cs
  else if startsPlain cs then
    let (s, rest) := spanPlain false ' ' cs
    if isRemark rest && !isUnreadable (trimEnd s) then some (scalar (trimEnd s)) else none
  else none

/-- The key that a line starts with, and what follows the colon. -/
def key? (cs : List Char) : Option (String × List Char) :=
  let named (key rest : List Char) : Option (String × List Char) :=
    match skipBlanks rest with
    | ':' :: rest => if endsKey false rest then some (String.ofList key, rest) else none
    | _ => none
  match cs with
  | '\'' :: rest => (singleQuoted? rest).bind fun r => named r.1 r.2
  | '"' :: rest => (doubleQuoted? rest).bind fun r => named r.1 r.2
  | cs =>
    if startsPlain cs then
      let r := spanPlain false ' ' cs
      named (trimEnd r.1) r.2
    else none

/-- A value that stands in the rest of a line or else under it. -/
def beside (rest : List Char) (under : List Part) : Option Json :=
  if isRemark rest then assemble under
  else if under.isEmpty then inline? (skipBlanks rest)
  else none

/-- What a line with the parts under it is. -/
def partOf (content : List Char) (under : List Part) : Option Part :=
  if startsItem content then (beside content.tail under).map .item
  else
    match key? content with
    | some (key, rest) => (beside rest under).map fun value => .field key value
    | none => if under.isEmpty then (inline? content).map .lone else none

/-- Are all lines indented as far as the first one? -/
def aligned (os : List Outline) : Bool :=
  match os with
  | [] => true
  | o :: os => os.all fun p => p.depth = o.depth

mutual

/-- What a line is. -/
def Outline.part? : Outline → Option Part
  | .entry line under =>
    if aligned under then (Outline.parts? under).bind fun parts => partOf line.content parts
    else none

/-- What some lines are. -/
def Outline.parts? : List Outline → Option (List Part)
  | [] => some []
  | o :: os => (Outline.part? o).bind fun p => (Outline.parts? os).map fun ps => p :: ps

end

/-- Reads a text; a text without lines stands for an empty map.  Of entries with one key the last
one counts. -/
def parse? (text : String) : Option Json :=
  match lines text with
  | [] => some (.object [])
  | l :: ls =>
    let ls := if l.content = ['-', '-', '-'] then ls else l :: ls
    let os := outline ls
    if aligned os then
      (Outline.parts? os).bind fun parts => (assemble parts).map Json.canonical
    else none

end DeviceFleet.Yaml
