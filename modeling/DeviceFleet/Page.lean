/-
# Pages

Lists are handed out in pages: a window of an ordered list, together with the length of the whole
list.  A request can keep only the records whose name contains a text, regardless of case.
-/
import DeviceFleet.Text.LowerCase
import DeviceFleet.Text.Search

namespace DeviceFleet

/-- Which part of a list is asked for. -/
structure PageRequest where
  /-- How many records come before the window. -/
  offset : Nat
  /-- How many records the window has room for. -/
  limit : Nat
  /-- A text that the names of the records have to contain. -/
  name : Option String
deriving DecidableEq, Repr

/-- A window of a list. -/
structure Page (α : Type) where
  /-- The records in the window. -/
  items : List α
  /-- The length of the whole list. -/
  total : Nat
  /-- How many records come before the window. -/
  offset : Nat
  /-- How many records the window has room for. -/
  limit : Nat
deriving DecidableEq, Repr

namespace PageRequest

/-- Does a name pass the filter?  Both sides are lower-cased before they are compared. -/
def admits (r : PageRequest) (name : String) : Bool :=
  match r.name with
  | some piece => Text.contains (Text.lower name) (Text.lower piece)
  | none => true

/-- Cuts the window out of a list. -/
def paginate {α : Type} (r : PageRequest) (items : List α) : Page α :=
  ⟨(items.drop r.offset).take r.limit, items.length, r.offset, r.limit⟩

@[simp] theorem total_paginate {α : Type} (r : PageRequest) (items : List α) :
    (r.paginate items).total = items.length := rfl

end PageRequest

namespace Page

/-- Replaces the records of a page by as many others. -/
def withItems {α : Type} (p : Page α) (items : List α) : Page α := { p with items }

end Page

end DeviceFleet
