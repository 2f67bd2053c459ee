/-
# Answers

What the operations of the store and of the service answer, in one type, so that a run of
different operations has one list of answers.
-/
import DeviceFleet.Client
import DeviceFleet.Entity.Encoding

namespace DeviceFleet

/-- The answer of an operation that succeeds. -/
inductive Answer where
  /-- Nothing but that it is done. -/
  | done
  /-- An identifier. -/
  | identifier (id : String)
  /-- Identifiers. -/
  | identifiers (ids : List String)
  /-- Who a caller is. -/
  | identity (identity : Identity)
  /-- A role. -/
  | role (role : Role)
  /-- A bag of values. -/
  | metadata (metadata : Metadata)
  /-- The configuration of a publisher. -/
  | publisher (config : PublisherConfig)
  /-- A thing. -/
  | thing (thing : Thing)
  /-- Things. -/
  | things (things : List Thing)
  /-- A page of things. -/
  | thingPage (page : Page Thing)
  /-- A profile. -/
  | profile (profile : Profile)
  /-- Profiles. -/
  | profiles (profiles : List Profile)
  /-- A page of profiles. -/
  | profilePage (page : Page Profile)
  /-- A group. -/
  | group (group : Group)
  /-- Groups. -/
  | groups (groups : List Group)
  /-- A page of groups. -/
  | groupPage (page : Page Group)
  /-- Memberships. -/
  | memberships (memberships : List Membership)
  /-- A page of memberships. -/
  | membershipPage (page : Page Membership)
  /-- A backup. -/
  | backup (backup : Backup)
deriving DecidableEq

namespace Answer

/-- An answer as JSON; that it is done is written as `null`. -/
def toJson : Answer → Json
  | .done => .null
  | .identifier x => .string x
  | .identifiers xs => .array (xs.map .string)
  | .identity x => .object [("id", .string x.id), ("email", .string x.email)]
  | .role x => x.toJson
  | .metadata x => x.toJson
  | .publisher x => x.toJson
  | .thing x => x.toJson
  | .things xs => .array (xs.map Thing.toJson)
  | .thingPage xs => xs.toJson Thing.toJson
  | .profile x => x.toJson
  | .profiles xs => .array (xs.map Profile.toJson)
  | .profilePage xs => xs.toJson Profile.toJson
  | .group x => x.toJson
  | .groups xs => .array (xs.map Group.toJson)
  | .groupPage xs => xs.toJson Group.toJson
  | .memberships xs => .array (xs.map Membership.toJson)
  | .membershipPage xs => xs.toJson Membership.toJson
  | .backup x => x.toJson

end Answer

end DeviceFleet
