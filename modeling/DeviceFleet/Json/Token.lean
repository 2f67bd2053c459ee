/-
# JSON tokens

The lexical level of JSON.  The lexer takes a text character by character: it keeps the tokens
that are complete, newest first, and what it has seen of the token it is inside.  A string with half
of a surrogate pair is well-formed and stands for no text, so from there on only its end matters.
-/
import DeviceFleet.Json.Number

namespace DeviceFleet.Json

/-- A token of a JSON text. -/
inductive Token where
  /-- An opening brace. -/
  | openBrace
  /-- A closing brace. -/
  | closeBrace
  /-- An opening bracket. -/
  | openBracket
  /-- A closing bracket. -/
  | closeBracket
  /-- A colon. -/
  | colon
  /-- A comma. -/
  | comma
  /-- A string, with the text that it stands for if there is one. -/
  | text (s : Option String)
  /-- A number or one of the literals. -/
  | scalar (j : Json)
deriving DecidableEq, Repr

namespace Token

/-- What the lexer is inside of.  Characters seen so far are kept newest first; of a string that
stands for no text none are kept. -/
inductive Mode where
  /-- Between tokens. -/
  | between
  /-- Inside a literal. -/
  | word (seen : List Char)
  /-- Inside a number. -/
  | number (seen : List Char)
  /-- Inside a string. -/
  | string (seen : Option (List Char))
  /-- After a backslash inside a string. -/
  | escape (seen : Option (List Char))
  /-- Inside the four digits of a code unit; `high` is a leading surrogate that came before. -/
  | unit (high : Option Nat) (count value : Nat) (seen : Option (List Char))
  /-- After a leading surrogate, where a backslash should follow. -/
  | pairSlash (high : Nat) (seen : Option (List Char))
  /-- After the backslash of a trailing surrogate, where `u` should follow. -/
  | pairLetter (high : Nat) (seen : Option (List Char))
deriving DecidableEq, Repr

/-- A lexer part way through a text. -/
structure Lexer where
  /-- The complete tokens, newest first. -/
  tokens : List Token
  /-- What the lexer is inside of. -/
  mode : Mode
deriving DecidableEq, Repr

/-- The literals. -/
def literal? (cs : List Char) : Option Token :=
  if cs = ['n', 'u', 'l', 'l'] then some (.scalar .null)
  else if cs = ['t', 'r', 'u', 'e'] then some (.scalar (.bool true))
  else if cs = ['f', 'a', 'l', 's', 'e'] then some (.scalar (.bool false))
  else none

/-- The value of a hexadecimal digit. -/
def hexDigit? (c : Char) : Option Nat :=
  if c.isDigit then some (c.toNat - '0'.toNat)
  else if 'a' ≤ c ∧ c ≤ 'f' then some (c.toNat - 'a'.toNat + 10)
  else if 'A' ≤ c ∧ c ≤ 'F' then some (c.toNat - 'A'.toNat + 10)
  else none

/-- Is the character part of a number that has begun? -/
def inNumber (c : Char) : Bool :=
  c.isDigit || c = '.' || c = 'e' || c = 'E' || c = '+' || c = '-'

/-- What a single character after a backslash stands for. -/
def unescape? (c : Char) : Option Char :=
  match c with
  | '"' => some '"'
  | '\\' => some '\\'
  | '/' => some '/'
  | 'b' => some '\x08'
  | 'f' => some '\x0c'
  | 'n' => some '\n'
  | 'r' => some '\r'
  | 't' => some '\t'
  | _ => none

namespace Lexer

/-- Takes a character between tokens. -/
def start (tokens : List Token) (c : Char) : Option Lexer :=
  match c with
  | ' ' | '\n' | '\t' | '\r' => some ⟨tokens, .between⟩
  | '\x7b' => some ⟨.openBrace :: tokens, .between⟩
  | '\x7d' => some ⟨.closeBrace :: tokens, .between⟩
  | '[' => some ⟨.openBracket :: tokens, .between⟩
  | ']' => some ⟨.closeBracket :: tokens, .between⟩
  | ':' => some ⟨.colon :: tokens, .between⟩
  | ',' => some ⟨.comma :: tokens, .between⟩
  | '"' => some ⟨tokens, .string (some [])⟩
  | c =>
    if c = '-' ∨ c.isDigit then some ⟨tokens, .number [c]⟩
    else if c.isAlpha then some ⟨tokens, .word [c]⟩
    else none

/-- Puts a character behind those that were seen of a string. -/
def put (c : Char) (seen : Option (List Char)) : Option (List Char) := seen.map (c :: ·)

/-- What comes after a complete code unit: a leading surrogate waits for its partner, and any that
is left alone spoils the string. -/
def takeUnit (high : Option Nat) (n : Nat) (seen : Option (List Char)) : Mode :=
  match high with
  | none =>
    if 0xD800 ≤ n ∧ n < 0xDC00 then .pairSlash n seen
    else if 0xDC00 ≤ n ∧ n < 0xE000 then .string none
    else .string (put (Char.ofNat n) seen)
  | some h =>
    if 0xDC00 ≤ n ∧ n < 0xE000 then
      .string (put (Char.ofNat (0x10000 + (h - 0xD800) * 0x400 + (n - 0xDC00))) seen)
    else .string none

/-- Takes a character inside a string. -/
def inString (tokens : List Token) (seen : Option (List Char)) (c : Char) : Option Lexer :=
  if c = '"' then
    some ⟨.text (seen.map fun cs => String.ofList cs.reverse) :: tokens, .between⟩
  else if c = '\\' then some ⟨tokens, .escape seen⟩
  else if c.toNat < 0x20 then none
  else some ⟨tokens, .string (put c seen)⟩

/-- Takes a character after a backslash. -/
def inEscape (tokens : List Token) (seen : Option (List Char)) (c : Char) : Option Lexer :=
  if c = 'u' then some ⟨tokens, .unit none 0 0 seen⟩
  else (unescape? c).map fun d => ⟨tokens, .string (put d seen)⟩

/-- Takes one character. -/
def feed (l : Lexer) (c : Char) : Option Lexer :=
  match l.mode with
  | .between => start l.tokens c
  | .word seen =>
    if c.isAlpha then some ⟨l.tokens, .word (c :: seen)⟩
    else (literal? seen.reverse).bind fun t => start (t :: l.tokens) c
  | .number seen =>
    if inNumber c then some ⟨l.tokens, .number (c :: seen)⟩
    else (number? seen.reverse).bind fun j => start (.scalar j :: l.tokens) c
  | .string seen => inString l.tokens seen c
  | .escape seen => inEscape l.tokens seen c
  | .unit high count value seen =>
    (hexDigit? c).map fun d =>
      if count = 3 then ⟨l.tokens, takeUnit high (16 * value + d) seen⟩
      else ⟨l.tokens, .unit high (count + 1) (16 * value + d) seen⟩
  -- without its partner the surrogate spoils the string, which goes on
  | .pairSlash high seen =>
    if c = '\\' then some ⟨l.tokens, .pairLetter high seen⟩ else inString l.tokens none c
  | .pairLetter high seen =>
    if c = 'u' then some ⟨l.tokens, .unit (some high) 0 0 seen⟩ else inEscape l.tokens none c

/-- The tokens of a text that ends here, in order. -/
def finish (l : Lexer) : Option (List Token) :=
  match l.mode with
  | .between => some l.tokens.reverse
  | .word seen => (literal? seen.reverse).map fun t => (t :: l.tokens).reverse
  | .number seen => (number? seen.reverse).map fun j => (.scalar j :: l.tokens).reverse
  | _ => none

end Lexer

/-- The tokens of a text. -/
def scan (cs : List Char) : Option (List Token) :=
  (cs.foldlM Lexer.feed ⟨[], .between⟩).bind Lexer.finish

end Token

end DeviceFleet.Json
