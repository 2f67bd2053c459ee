/-
# The flow style of YAML

Quoted scalars, lists in brackets and maps in braces, each on one line.  The line is cut into
pieces; what YAML allows to be left out is filled in, and the rest is read as in JSON.
-/
import DeviceFleet.Json.Reader
import DeviceFleet.Yaml.Scalar

namespace DeviceFleet.Yaml

/-- Is the character a blank or a tab? -/
def isBlank (c : Char) : Bool := c = ' ' || c = '\t'

/-- The text without blanks in front. -/
def skipBlanks (cs : List Char) : List Char := cs.dropWhile isBlank

/-- The text without blanks at the end. -/
def trimEnd (cs : List Char) : List Char := (cs.reverse.dropWhile isBlank).reverse

/-- Is nothing left but a comment? -/
def isRemark (cs : List Char) : Bool :=
  match skipBlanks cs with
  | [] => true
  | c :: _ => c = '#'

/-- Is the character one that structures the flow style? -/
def isFlowMark (c : Char) : Bool := c ∈ [',', '[', ']', '\x7b', '\x7d']

/-! ## Scalars -/

/-- The characters of a scalar in single quotes after the opening one, and what follows the
closing one; two quotes stand for one. -/
def singleQuoted? : List Char → Option (List Char × List Char)
  | '\'' :: '\'' :: cs => (singleQuoted? cs).map fun r => ('\'' :: r.1, r.2)
  | '\'' :: cs => some ([], cs)
  | c :: cs => (singleQuoted? cs).map fun r => (c :: r.1, r.2)
  | [] => none

/-- What a single character after a backslash stands for. -/
def unescape? (c : Char) : Option Char :=
  match c with
  | '0' => some (Char.ofNat 0)
  | 'a' => some '\x07'
  | 'v' => some '\x0b'
  | 'e' => some '\x1b'
  | ' ' => some ' '
  | 'N' => some '\x85'
  | '_' => some '\xa0'
  | c => Json.Token.unescape? c

/-- The character with a code point in hexadecimal digits. -/
def codePoint? (ds : List Char) : Option Char := do
  let n ← based? 16 ds
  if n < 0xD800 ∨ 0xDFFF < n then some (Char.ofNat n) else none

/-- The characters of a scalar in double quotes after the opening one, and what follows the
closing one. -/
def doubleQuoted? : List Char → Option (List Char × List Char)
  | [] => none
  | '"' :: cs => some ([], cs)
  | '\\' :: 'x' :: a :: b :: cs => do
    let c ← codePoint? [a, b]
    let r ← doubleQuoted? cs
    return (c :: r.1, r.2)
  | '\\' :: 'u' :: a :: b :: c :: d :: cs => do
    let c ← codePoint? [a, b, c, d]
    let r ← doubleQuoted? cs
    return (c :: r.1, r.2)
  | '\\' :: c :: cs => do
    let c ← unescape? c
    let r ← doubleQuoted? cs
    return (c :: r.1, r.2)
  | c :: cs => (doubleQuoted? cs).map fun r => (c :: r.1, r.2)

/-- Does a colon before these characters end a key? -/
def endsKey (flow : Bool) : List Char → Bool
  | [] => true
  | c :: _ => isBlank c || (flow && isFlowMark c)

/-- The characters of a plain scalar, and what follows it: a colon that ends a key, a comment, or,
in the flow style, one of its marks.  `before` is the character in front. -/
def spanPlain (flow : Bool) (before : Char) : List Char → List Char × List Char
  | [] => ([], [])
  | c :: cs =>
    if (flow && isFlowMark c) || (c = ':' && endsKey flow cs) || (c = '#' && isBlank before) then
      ([], c :: cs)
    else
      let r := spanPlain flow c cs
      (c :: r.1, r.2)

/-- Can a plain scalar start with these characters? -/
def startsPlain : List Char → Bool
  | [] => false
  | c :: cs =>
    if c ∈ ['-', '?', ':'] then !endsKey false cs
    else !isFlowMark c && !isBlank c &&
      c ∉ ['#', '&', '*', '!', '|', '>', '\'', '"', '%', '@', '\x60']

/-! ## Pieces -/

/-- A piece of a line in the flow style. -/
inductive Piece where
  /-- A mark that JSON has too. -/
  | mark (t : Json.Token)
  /-- A plain scalar. -/
  | plain (cs : List Char)
  /-- A quoted scalar. -/
  | quoted (s : String)
deriving DecidableEq, Repr

/-- The mark that a character is. -/
def mark? (c : Char) : Option Json.Token :=
  match c with
  | '[' => some .openBracket
  | ']' => some .closeBracket
  | '\x7b' => some .openBrace
  | '\x7d' => some .closeBrace
  | ',' => some .comma
  | ':' => some .colon
  | _ => none

/-- The pieces of a line, read with at most `fuel` steps; the length of the line is enough. -/
def linePieces : Nat → List Char → Option (List Piece)
  | 0, cs => if isRemark cs then some [] else none
  | fuel + 1, cs =>
    if isRemark cs then some []
    else
      match skipBlanks cs with
      | [] => some []
      | '\'' :: rest => do
        let (s, rest) ← singleQuoted? rest
        return .quoted (String.ofList s) :: (← linePieces fuel rest)
      | '"' :: rest => do
        let (s, rest) ← doubleQuoted? rest
        return .quoted (String.ofList s) :: (← linePieces fuel rest)
      | c :: rest =>
        if startsPlain (c :: rest) then do
          let (s, rest) := spanPlain true ' ' (c :: rest)
          if isUnreadable (trimEnd s) then none
          else return .plain (trimEnd s) :: (← linePieces fuel rest)
        else do
          let t ← mark? c
          return .mark t :: (← linePieces fuel rest)

namespace Piece

/-- Does the piece end a list or a map? -/
def closes : Piece → Bool
  | .mark .closeBracket | .mark .closeBrace => true
  | _ => false

/-- Does the piece end an entry? -/
def endsEntry (p : Piece) : Bool := p.closes || p = .mark .comma

/-- The token of a scalar that is a value. -/
def valueToken : Piece → Json.Token
  | .mark t => t
  | .quoted s => .text s
  | .plain cs =>
    match scalar cs with
    | .string s => .text s
    | j => .scalar j

/-- The token of a scalar that is a key. -/
def keyToken : Piece → Json.Token
  | .mark t => t
  | .quoted s => .text s
  | .plain cs => .text (String.ofList cs)

end Piece

/-- The tokens of pieces.  A key without a value gets `null`, and a comma before the end of a list
or map is dropped.  `inMaps` tells of each open list or map whether it is a map, the innermost
first, and `fresh` whether an entry starts here. -/
def tokens (inMaps : List Bool) (fresh : Bool) : List Piece → List Json.Token
  | [] => []
  | p :: ps =>
    let ends := match ps with
      | [] => true
      | q :: _ => q.endsEntry
    match p with
    | .mark .openBracket => .openBracket :: tokens (false :: inMaps) true ps
    | .mark .openBrace => .openBrace :: tokens (true :: inMaps) true ps
    | .mark .closeBracket => .closeBracket :: tokens inMaps.tail false ps
    | .mark .closeBrace => .closeBrace :: tokens inMaps.tail false ps
    | .mark .comma =>
      if ps.head?.any Piece.closes then tokens inMaps true ps else .comma :: tokens inMaps true ps
    | .mark .colon =>
      .colon :: ((if ends then [.scalar .null] else []) ++ tokens inMaps false ps)
    | p =>
      if fresh && inMaps.head? = some true then
        p.keyToken :: ((if ends then [.colon, .scalar .null] else []) ++ tokens inMaps false ps)
      else p.valueToken :: tokens inMaps false ps

/-- How many lists and maps are open at a time in some pieces, with some open around them. -/
def nesting (around : Nat) : List Piece → Nat
  | [] => around
  | .mark .openBracket :: ps | .mark .openBrace :: ps => max around (nesting (around + 1) ps)
  | .mark .closeBracket :: ps | .mark .closeBrace :: ps => max around (nesting (around - 1) ps)
  | _ :: ps => nesting around ps

/-- The value of a line in the flow style. -/
def flow? (cs : List Char) : Option Json := do
  let ps ← linePieces cs.length cs
  if nesting 0 ps ≤ Json.Reader.maxDepth then Json.ofTokens? (tokens [] false ps) else none

end DeviceFleet.Yaml
