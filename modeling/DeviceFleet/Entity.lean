/-
# Entities

The records of a fleet.  Things are devices, profiles are their configurations, groups own both,
and memberships give people roles in groups.
-/
import DeviceFleet.Metadata
import DeviceFleet.Role
import DeviceFleet.Time.Instant

namespace DeviceFleet

/-- The kinds of records. -/
inductive EntityKind where
  /-- A device. -/
  | thing
  /-- A device configuration. -/
  | profile
  /-- An owner of things and profiles. -/
  | group
  /-- A role of a member in a group. -/
  | membership
deriving DecidableEq, Repr

namespace EntityKind

/-- The kind in words. -/
def label : EntityKind → String
  | .thing => "thing"
  | .profile => "profile"
  | .group => "group"
  | .membership => "group membership"

instance : ToString EntityKind := ⟨label⟩

/-- All kinds. -/
def all : List EntityKind := [.thing, .profile, .group, .membership]

end EntityKind

/-- A device.  It belongs to the group that its profile belongs to. -/
structure Thing where
  /-- Identifies the device. -/
  id : String
  /-- The group that owns the device. -/
  groupId : String
  /-- The profile that configures the device. -/
  profileId : String
  /-- A name for people. -/
  name : String
  /-- The secret by which the device makes itself known; no other device has it. -/
  key : String
  /-- Free-form values. -/
  metadata : Metadata
deriving DecidableEq

/-- A configuration for devices. -/
structure Profile where
  /-- Identifies the profile. -/
  id : String
  /-- The group that owns the profile. -/
  groupId : String
  /-- A name for people. -/
  name : String
  /-- What the devices of the profile are told. -/
  config : Metadata
  /-- Free-form values. -/
  metadata : Metadata
deriving DecidableEq

/-- A unit of ownership inside an organization. -/
structure Group where
  /-- Identifies the group. -/
  id : String
  /-- The organization that the group belongs to. -/
  orgId : String
  /-- A name for people. -/
  name : String
  /-- A longer text for people. -/
  description : String
  /-- Free-form values. -/
  metadata : Metadata
  /-- When the group was made. -/
  createdAt : Instant
  /-- When the group was last changed. -/
  updatedAt : Instant
deriving DecidableEq

/-- The role of a member in a group. -/
structure Membership where
  /-- Who holds the role. -/
  memberId : String
  /-- The group that the role is held in. -/
  groupId : String
  /-- The role. -/
  role : Role
  /-- The address of the member, looked up when memberships are read and never stored. -/
  email : Option String
  /-- When the role was first given. -/
  createdAt : Instant
  /-- When the role was last changed. -/
  updatedAt : Instant
deriving DecidableEq

namespace Membership

/-- What identifies a membership: a group and a member. -/
structure Key where
  /-- The group. -/
  groupId : String
  /-- The member. -/
  memberId : String
deriving DecidableEq, Repr

namespace Key

/-- Keys are ordered by group, and within a group by member. -/
instance : Ord Key := ⟨compareLex (compareOn (·.groupId)) (compareOn (·.memberId))⟩

instance : Std.TransOrd Key :=
  inferInstanceAs (Std.TransCmp (compareLex (compareOn Key.groupId) (compareOn Key.memberId)))

instance : Std.LawfulEqOrd Key where
  eq_of_compare {a b} h := by
    have h' : (compare a.groupId b.groupId).then (compare a.memberId b.memberId) = .eq := h
    rw [Ordering.then_eq_eq] at h'
    obtain ⟨hg, hm⟩ := h'
    cases a; cases b
    simp_all

/-- The key as it is shown to people. -/
def label (k : Key) : String := k.groupId ++ "/" ++ k.memberId

end Key

/-- The key of a membership. -/
def key (m : Membership) : Key := ⟨m.groupId, m.memberId⟩

/-- A membership given at an instant. -/
def granted (groupId memberId : String) (role : Role) (now : Instant) : Membership :=
  ⟨memberId, groupId, role, none, now, now⟩

end Membership

end DeviceFleet
