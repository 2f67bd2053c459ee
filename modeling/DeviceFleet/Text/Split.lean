/-
# Splitting texts

A text is cut at every separator.  There is one piece more than there are separators, so pieces
can be empty.  Instead of being cut out, separators can be replaced.
-/

namespace DeviceFleet.Text

/-- The pieces of a text between the characters that satisfy `sep`. -/
def pieces (sep : Char → Bool) : List Char → List (List Char)
  | [] => [[]]
  | c :: cs =>
    match sep c, pieces sep cs with
    | true, ps => [] :: ps
    | false, [] => [[c]]
    | false, p :: ps => (c :: p) :: ps

/-- The text with `replacement` in place of every `pattern`, from left to right, after `skipped`
characters that are replaced already. -/
def replaceFrom (pattern replacement : List Char) : (skipped : Nat) → List Char → List Char
  | _, [] => []
  | skipped + 1, _ :: cs => replaceFrom pattern replacement skipped cs
  | 0, c :: cs =>
    if pattern.isPrefixOf (c :: cs) then
      replacement ++ replaceFrom pattern replacement (pattern.length - 1) cs
    else c :: replaceFrom pattern replacement 0 cs

/-- The text with a replacement in place of every pattern. -/
def replace (pattern replacement : String) (text : String) : String :=
  String.ofList (replaceFrom pattern.toList replacement.toList 0 text.toList)

end DeviceFleet.Text
