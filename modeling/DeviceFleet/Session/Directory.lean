/-
# Directory

A simple directory of users, and a source of numbered identifiers.
-/
import DeviceFleet.Client
import DeviceFleet.Text.Digits
import DeviceFleet.Text.Search
import Std.Data.ExtTreeMap

namespace DeviceFleet

/-- The directory of users. -/
structure Directory where
  /-- The address of a user. -/
  addresses : Std.ExtTreeMap String String
  /-- Why every look-up is refused, if it is. -/
  refusal : Option ClientError
  /-- How long it takes to reply, in milliseconds. -/
  delay : Nat

namespace Directory

/-- A directory without users that replies at once. -/
def empty : Directory := ⟨∅, none, 0⟩

/-- The refusal of a directory that is out of order. -/
def down : ClientError := .unavailable "users service is down"

/-- Adds a user, in place of one with the same identifier. -/
def add (d : Directory) (user : User) : Directory :=
  { d with addresses := d.addresses.insert user.id user.email }

/-- The user with an identifier. -/
def user? (d : Directory) (id : String) : Option User :=
  d.addresses[id]?.map fun email => ⟨id, email⟩

/-- The users with some identifiers, in their order, that have a piece of text in their
address. -/
def find (d : Directory) (ids : List String) (piece : Option String) :
    Except ClientError (List User) :=
  match d.refusal with
  | some e => .error e
  | none =>
    let fits (user : User) : Bool := match piece with
      | some piece => Text.contains user.email piece
      | none => true
    .ok ((ids.filterMap d.user?).filter fits)

end Directory

/-- A source of numbered identifiers. -/
structure NumberedIds where
  /-- What the identifiers start with. -/
  stem : String
  /-- How many identifiers there are; unlimited when absent. -/
  limit : Option Nat
deriving DecidableEq, Repr

namespace NumberedIds

/-- The identifier after `taken` others. -/
def next (ids : NumberedIds) (taken : Nat) : Except ClientError String :=
  let exhausted := match ids.limit with
    | some limit => decide (limit ≤ taken)
    | none => false
  if exhausted then .error (.unavailable "id service is down")
  else .ok (ids.stem ++ "-" ++ String.ofList (Text.padded 4 (taken + 1)))

end NumberedIds

end DeviceFleet
