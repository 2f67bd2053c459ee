/-
# Commands of the caches

The requests that the caches take, as data, and what comes of them in a cache that may be out of
order.
-/
import DeviceFleet.Cache.Member
import DeviceFleet.Cache.Resource
import DeviceFleet.Metrics

namespace DeviceFleet

/-- What comes of a request to a cache. -/
structure Lookaside.Outcome (α β : Type) where
  /-- What was found, or a failure; a change finds nothing. -/
  answer : Except CacheError (Option β)
  /-- The cache after the request. -/
  cache : Lookaside α
  /-- What the request counts. -/
  counted : List Series

namespace Lookaside

variable {α β : Type}

/-- Carries out a look-up and counts it. -/
def find (kind : CacheKind) (f : α → Option β) (cache : Lookaside α) : Outcome α β :=
  let answer := cache.read f
  ⟨answer, cache, cache.counted kind answer⟩

/-- Carries out a change. -/
def edit (f : α → α) (cache : Lookaside α) : Outcome α β :=
  let (result, cache) := cache.change f
  ⟨result.map fun _ => none, cache, []⟩

end Lookaside

namespace ResourceCache

/-- A request to a cache of resources. -/
inductive Command where
  /-- Finds the resource that a key belongs to. -/
  | find (key : String)
  /-- Remembers the resource of a key. -/
  | save (key id : String)
  /-- Forgets the keys of a resource. -/
  | remove (id : String)
  /-- Finds the group of a resource. -/
  | findGroup (id : String)
  /-- Remembers the group of a resource. -/
  | saveGroup (id groupId : String)
  /-- Forgets the group of a resource. -/
  | removeGroup (id : String)
deriving DecidableEq, Repr

/-- Carries out a request. -/
def Command.run (kind : CacheKind) (c : Command) (cache : Lookaside ResourceCache) :
    Lookaside.Outcome ResourceCache String :=
  match c with
  | .find key => cache.find kind fun c => c.id? key
  | .save key id => cache.edit (ResourceCache.save key id)
  | .remove id => cache.edit (ResourceCache.remove id)
  | .findGroup id => cache.find kind fun c => c.group? id
  | .saveGroup id groupId => cache.edit (ResourceCache.saveGroup id groupId)
  | .removeGroup id => cache.edit (ResourceCache.removeGroup id)

end ResourceCache

namespace MemberCache

/-- A request to the cache of members. -/
inductive Command where
  /-- Finds the groups of a member. -/
  | find (memberId : String)
  /-- Remembers the groups of a member. -/
  | save (memberId : String) (groupIds : List String)
  /-- Forgets a member. -/
  | remove (memberId : String)
  /-- Forgets the members of a group. -/
  | removeGroup (groupId : String)
deriving DecidableEq, Repr

/-- Carries out a request. -/
def Command.run (c : Command) (cache : Lookaside MemberCache) :
    Lookaside.Outcome MemberCache (List String) :=
  match c with
  | .find memberId => cache.find .group fun c => c.groups? memberId
  | .save memberId groupIds => cache.edit (MemberCache.save memberId groupIds)
  | .remove memberId => cache.edit (MemberCache.remove memberId)
  | .removeGroup groupId => cache.edit (MemberCache.removeGroup groupId)

end MemberCache

end DeviceFleet
