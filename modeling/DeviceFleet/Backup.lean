/-
# Backups and small records

The full export of a fleet, and the two records that belong to no list of the store.
-/
import DeviceFleet.Entity

namespace DeviceFleet

/-- Everything that a fleet holds. -/
structure Backup where
  /-- All groups. -/
  groups : List Group
  /-- All things. -/
  things : List Thing
  /-- All profiles. -/
  profiles : List Profile
  /-- All memberships. -/
  memberships : List Membership
deriving DecidableEq

/-- What the path that takes in messages needs to know about their sender. -/
structure PublisherConfig where
  /-- The thing that publishes. -/
  publisherId : String
  /-- The configuration of its profile. -/
  config : Metadata
deriving DecidableEq

/-- A member and the role to give. -/
structure MemberRole where
  /-- The member. -/
  memberId : String
  /-- The role. -/
  role : Role
deriving DecidableEq, Repr

end DeviceFleet
