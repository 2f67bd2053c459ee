/-
# Caches

The lookaside caches remember what the store would answer.  This module has what they share:
their kinds, the way they fail, and the two ways in which a cache can be out of order.
-/

namespace DeviceFleet

/-- What a cache is about. -/
inductive CacheKind where
  /-- Things: their keys and their groups. -/
  | thing
  /-- Profiles: their groups. -/
  | profile
  /-- Members: the groups that they have a role in. -/
  | group
deriving DecidableEq, Repr

namespace CacheKind

/-- The name of a kind. -/
def name : CacheKind → String
  | .thing => "thing"
  | .profile => "profile"
  | .group => "group"

/-- All kinds. -/
def all : List CacheKind := [.thing, .profile, .group]

end CacheKind

/-- A cache that cannot be used. -/
inductive CacheError where
  /-- The cache does not answer. -/
  | unavailable (message : String)
deriving DecidableEq, Repr

namespace CacheError

/-- The error in words. -/
def message : CacheError → String
  | .unavailable message => s!"cache unavailable: {message}"

end CacheError

/-- A cache in memory, or one that is out of order. -/
inductive Lookaside (α : Type) where
  /-- A cache in memory. -/
  | memory (cache : α)
  /-- Every look-up misses and every change fails. -/
  | failing
  /-- Every look-up fails and every change is lost. -/
  | unreadable
deriving DecidableEq

namespace Lookaside

variable {α β : Type}

/-- A look-up. -/
def read (f : α → Option β) : Lookaside α → Except CacheError (Option β)
  | .memory c => .ok (f c)
  | .failing => .ok none
  | .unreadable => .error (.unavailable "read failure")

/-- A change. -/
def change (f : α → α) : Lookaside α → Except CacheError Unit × Lookaside α
  | .memory c => (.ok (), .memory (f c))
  | .failing => (.error (.unavailable "injected failure"), .failing)
  | .unreadable => (.ok (), .unreadable)

/-- Are look-ups counted? -/
def counts : Lookaside α → Bool
  | .memory _ => true
  | _ => false

end Lookaside

end DeviceFleet
