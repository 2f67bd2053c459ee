/-
# Texts inside texts

The test whether one text occurs in another as a contiguous piece.
-/

namespace DeviceFleet.Text

/-- Does `piece` occur in `cs` as a contiguous piece? -/
def occursIn (piece : List Char) : List Char → Bool
  | [] => piece.isEmpty
  | c :: cs => piece.isPrefixOf (c :: cs) || occursIn piece cs

/-- Does the text `s` contain the text `piece`? -/
def contains (s piece : String) : Bool := occursIn piece.toList s.toList

theorem occursIn_iff {piece cs : List Char} : occursIn piece cs = true ↔ piece <:+: cs := by
  induction cs with
  | nil => simp [occursIn]
  | cons c cs ih => simp [occursIn, ih, List.infix_cons_iff]

theorem contains_iff {s piece : String} :
    contains s piece = true ↔ piece.toList <:+: s.toList := occursIn_iff

end DeviceFleet.Text
