/-
# Records of a fleet in JSON

How the records are written as JSON and read back.  Bags and the description of a group may be
left out and are then empty; the address of a member may be left out or `null`; everything else
has to be there.  Fields that are not known are passed over, whatever stands in them.
-/
import DeviceFleet.Backup
import DeviceFleet.Json.Record
import DeviceFleet.Page
import DeviceFleet.Time.Format

namespace DeviceFleet

open Json (record? required optional string? word? list? nullable? choice?)

variable [Instant.Format]

/-- Reads an instant. -/
def Instant.ofJson? : Json → Option Instant
  | .string s => Instant.Format.parse? s
  | _ => none

/-- An instant as JSON. -/
def Instant.toJson (i : Instant) : Json := .string (Instant.Format.render i)

/-- Reads a role. -/
def Role.ofJson? : Json → Option Role := choice? Role.ofName?

/-- A role as JSON. -/
def Role.toJson (r : Role) : Json := .string r.name

/-- The name of a kind in JSON. -/
def EntityKind.code : EntityKind → String
  | .thing => "thing"
  | .profile => "profile"
  | .group => "group"
  | .membership => "group_membership"

/-- Reads a kind. -/
def EntityKind.ofJson? : Json → Option EntityKind :=
  choice? fun s => EntityKind.all.find? fun k => k.code == s

/-- A kind as JSON. -/
def EntityKind.toJson (k : EntityKind) : Json := .string k.code

namespace Thing

/-- Reads a thing. -/
def ofJson? (j : Json) : Option Thing := do
  match ← record? ["id", "group_id", "profile_id", "name", "key", "metadata"] j with
  | [id, groupId, profileId, name, key, metadata] =>
    return {
      id := ← required string? id
      groupId := ← required string? groupId
      profileId := ← required string? profileId
      name := ← required string? name
      key := ← required string? key
      metadata := ← optional ∅ Metadata.ofJson? metadata }
  | _ => none

/-- A thing as JSON. -/
def toJson (t : Thing) : Json :=
  .object [("id", .string t.id), ("group_id", .string t.groupId),
    ("profile_id", .string t.profileId), ("name", .string t.name), ("key", .string t.key),
    ("metadata", t.metadata.toJson)]

end Thing

namespace Profile

/-- Reads a profile. -/
def ofJson? (j : Json) : Option Profile := do
  match ← record? ["id", "group_id", "name", "config", "metadata"] j with
  | [id, groupId, name, config, metadata] =>
    return {
      id := ← required string? id
      groupId := ← required string? groupId
      name := ← required string? name
      config := ← optional ∅ Metadata.ofJson? config
      metadata := ← optional ∅ Metadata.ofJson? metadata }
  | _ => none

/-- A profile as JSON. -/
def toJson (p : Profile) : Json :=
  .object [("id", .string p.id), ("group_id", .string p.groupId), ("name", .string p.name),
    ("config", p.config.toJson), ("metadata", p.metadata.toJson)]

end Profile

namespace Group

/-- Reads a group. -/
def ofJson? (j : Json) : Option Group := do
  match ← record?
    ["id", "org_id", "name", "description", "metadata", "created_at", "updated_at"] j with
  | [id, orgId, name, description, metadata, createdAt, updatedAt] =>
    return {
      id := ← required string? id
      orgId := ← required string? orgId
      name := ← required string? name
      description := ← optional "" string? description
      metadata := ← optional ∅ Metadata.ofJson? metadata
      createdAt := ← required Instant.ofJson? createdAt
      updatedAt := ← required Instant.ofJson? updatedAt }
  | _ => none

/-- A group as JSON. -/
def toJson (g : Group) : Json :=
  .object [("id", .string g.id), ("org_id", .string g.orgId), ("name", .string g.name),
    ("description", .string g.description), ("metadata", g.metadata.toJson),
    ("created_at", g.createdAt.toJson), ("updated_at", g.updatedAt.toJson)]

end Group

namespace Membership

/-- Reads a membership. -/
def ofJson? (j : Json) : Option Membership := do
  match ← record? ["member_id", "group_id", "role", "email", "created_at", "updated_at"] j with
  | [memberId, groupId, role, email, createdAt, updatedAt] =>
    return {
      memberId := ← required string? memberId
      groupId := ← required string? groupId
      role := ← required Role.ofJson? role
      email := ← optional none (nullable? string?) email
      createdAt := ← required Instant.ofJson? createdAt
      updatedAt := ← required Instant.ofJson? updatedAt }
  | _ => none

/-- A membership as JSON; an absent address is left out. -/
def toJson (m : Membership) : Json :=
  Json.ofFields [("member_id", some (.string m.memberId)),
    ("group_id", some (.string m.groupId)), ("role", some m.role.toJson),
    ("email", m.email.map .string), ("created_at", some m.createdAt.toJson),
    ("updated_at", some m.updatedAt.toJson)]

end Membership

namespace Page

/-- Reads a page. -/
def ofJson? {α : Type} (read : Json → Option α) (j : Json) : Option (Page α) := do
  match ← record? ["items", "total", "offset", "limit"] j with
  | [items, total, offset, limit] =>
    return {
      items := ← required (list? read) items
      total := ← required word? total
      offset := ← required word? offset
      limit := ← required word? limit }
  | _ => none

/-- A page as JSON. -/
def toJson {α : Type} (write : α → Json) (p : Page α) : Json :=
  .object [("items", .array (p.items.map write)), ("total", .ofNat p.total),
    ("offset", .ofNat p.offset), ("limit", .ofNat p.limit)]

end Page

namespace Backup

/-- Reads a backup. -/
def ofJson? (j : Json) : Option Backup := do
  match ← record? ["groups", "things", "profiles", "group_memberships"] j with
  | [groups, things, profiles, memberships] =>
    return {
      groups := ← required (list? Group.ofJson?) groups
      things := ← required (list? Thing.ofJson?) things
      profiles := ← required (list? Profile.ofJson?) profiles
      memberships := ← required (list? Membership.ofJson?) memberships }
  | _ => none

/-- A backup as JSON. -/
def toJson (b : Backup) : Json :=
  .object [("groups", .array (b.groups.map Group.toJson)),
    ("things", .array (b.things.map Thing.toJson)),
    ("profiles", .array (b.profiles.map Profile.toJson)),
    ("group_memberships", .array (b.memberships.map Membership.toJson))]

end Backup

namespace PublisherConfig

/-- Reads the configuration of a publisher. -/
def ofJson? (j : Json) : Option PublisherConfig := do
  match ← record? ["publisher_id", "profile_config"] j with
  | [publisherId, config] =>
    return {
      publisherId := ← required string? publisherId
      config := ← required Metadata.ofJson? config }
  | _ => none

/-- The configuration of a publisher as JSON. -/
def toJson (c : PublisherConfig) : Json :=
  .object [("publisher_id", .string c.publisherId), ("profile_config", c.config.toJson)]

end PublisherConfig

namespace MemberRole

/-- Reads a member and a role. -/
def ofJson? (j : Json) : Option MemberRole := do
  match ← record? ["member_id", "role"] j with
  | [memberId, role] =>
    return { memberId := ← required string? memberId, role := ← required Role.ofJson? role }
  | _ => none

/-- A member and a role as JSON. -/
def toJson (m : MemberRole) : Json :=
  .object [("member_id", .string m.memberId), ("role", m.role.toJson)]

end MemberRole

end DeviceFleet
