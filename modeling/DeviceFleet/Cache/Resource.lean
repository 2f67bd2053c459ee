/-
# The cache of a kind of resource

For things and for profiles: which resource a key belongs to, and which group a resource belongs
to.  A reverse index of the keys lets all keys of a resource be forgotten at once; it may keep a
key that has meanwhile been given to another resource.
-/
import DeviceFleet.Cache.Basic
import DeviceFleet.Cache.Index

namespace DeviceFleet

/-- What is remembered about the resources of a kind. -/
structure ResourceCache where
  /-- A cache that is not enabled finds nothing and remembers nothing. -/
  enabled : Bool
  /-- The resource that a key belongs to. -/
  keys : Std.ExtTreeMap String String
  /-- The keys that were remembered for a resource. -/
  keysById : ReverseIndex
  /-- The group that a resource belongs to. -/
  groups : Std.ExtTreeMap String String
deriving DecidableEq

namespace ResourceCache

/-- A cache that remembers nothing yet. -/
def empty (enabled : Bool) : ResourceCache := ⟨enabled, ∅, ∅, ∅⟩

/-- The resource that a key belongs to. -/
def id? (c : ResourceCache) (key : String) : Option String :=
  if c.enabled then c.keys[key]? else none

/-- Remembers the resource of a key. -/
def save (key id : String) (c : ResourceCache) : ResourceCache :=
  if c.enabled then
    { c with keysById := c.keysById.add id key, keys := c.keys.insert key id }
  else c

/-- Forgets every key in the set of a resource. -/
def remove (id : String) (c : ResourceCache) : ResourceCache :=
  { c with
    keysById := c.keysById.erase id
    keys := (c.keysById.namesOf id).toList.foldl (fun keys key => keys.erase key) c.keys }

/-- The group that a resource belongs to. -/
def group? (c : ResourceCache) (id : String) : Option String :=
  if c.enabled then c.groups[id]? else none

/-- Remembers the group of a resource. -/
def saveGroup (id groupId : String) (c : ResourceCache) : ResourceCache :=
  if c.enabled then { c with groups := c.groups.insert id groupId } else c

/-- Forgets the group of a resource. -/
def removeGroup (id : String) (c : ResourceCache) : ResourceCache :=
  { c with groups := c.groups.erase id }

end ResourceCache

end DeviceFleet
