/-
# The library that settings are loaded with

A program leaves it to a library to read a file of settings, to tell which variables of the
environment hold settings, to put what the sources say in one tree, and to take values as what they
are meant to be.  This is what the program uses of it.
-/
import DeviceFleet.Json.Basic

namespace DeviceFleet.Settings

/-- How variables of the environment that hold settings are named. -/
structure VariableStyle where
  /-- What their names start with, in whatever case. -/
  stem : String
  /-- What stands between that and the rest of a name. -/
  stemEnd : String
  /-- What stands between a section and an entry. -/
  separator : String
deriving DecidableEq, Repr

/-- A step from a value into it. -/
inductive Step where
  /-- To the entry of a table with a name. -/
  | entry (name : String)
  /-- To an item of a list; what is negative counts from the end. -/
  | item (index : Int)
deriving DecidableEq, Repr

/-- A library that settings are loaded with. -/
structure Library where
  /-- What a source can say. -/
  Value : Type
  /-- Is the value a table, as sections are? -/
  isTable : Value → Bool
  /-- The entry of a table with a name. -/
  field? : Value → String → Option Value
  /-- The table without entries. -/
  empty : Value
  /-- What JSON says. -/
  ofJson : Json → Value
  /-- What a text says. -/
  ofText : String → Value
  /-- The entries at the top of the text of a file, if the text can be read and is a map.  They come
  in whatever order. -/
  entries? : String → Option (List (String × Value))
  /-- The key that a variable sets, by its name, if it holds a setting. -/
  key? : VariableStyle → String → Option String
  /-- What a key stands for: a name at the top, and the steps from there. -/
  path : String → String × List Step
  /-- Puts a value in a tree, where its key says. -/
  put : String → Value → Value → Value
  /-- Takes a value as a truth value. -/
  flag? : Value → Option Bool
  /-- Takes a value as a number of 64 unsigned bits. -/
  number? : Value → Option Nat
  /-- Takes a value as a text. -/
  text? : Value → Option String

end DeviceFleet.Settings
