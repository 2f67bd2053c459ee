/-
# The cache of members

Which groups a member has a role in.  A reverse index of the groups lets all members of a group
be forgotten at once; it may keep a member whose list no longer has the group.
-/
import DeviceFleet.Cache.Basic
import DeviceFleet.Cache.Index

namespace DeviceFleet

/-- What is remembered about members. -/
structure MemberCache where
  /-- A cache that is not enabled finds nothing and remembers nothing. -/
  enabled : Bool
  /-- The groups that a member has a role in. -/
  members : Std.ExtTreeMap String (List String)
  /-- The members that were remembered with a group. -/
  membersByGroup : ReverseIndex
deriving DecidableEq

namespace MemberCache

/-- A cache that remembers nothing yet. -/
def empty (enabled : Bool) : MemberCache := ⟨enabled, ∅, ∅⟩

/-- The groups that a member has a role in. -/
def groups? (c : MemberCache) (memberId : String) : Option (List String) :=
  if c.enabled then c.members[memberId]? else none

/-- Remembers the groups of a member. -/
def save (memberId : String) (groupIds : List String) (c : MemberCache) : MemberCache :=
  if c.enabled then
    { c with
      membersByGroup := groupIds.foldl (fun index g => index.add g memberId) c.membersByGroup
      members := c.members.insert memberId groupIds }
  else c

/-- Forgets a member, also in the sets of the groups remembered with it. -/
def remove (memberId : String) (c : MemberCache) : MemberCache :=
  match c.members[memberId]? with
  | none => c
  | some groupIds =>
    { c with
      members := c.members.erase memberId
      membersByGroup := groupIds.foldl (fun index g => index.remove g memberId) c.membersByGroup }

/-- Forgets every member in the set of a group. -/
def removeGroup (groupId : String) (c : MemberCache) : MemberCache :=
  let memberIds := (c.membersByGroup.namesOf groupId).toList
  memberIds.foldl (fun c memberId => c.remove memberId)
    { c with membersByGroup := c.membersByGroup.erase groupId }

end MemberCache

end DeviceFleet
