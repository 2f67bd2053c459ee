/-
# Descriptions

Texts that describe values to those who look for faults.  Secrets are left out, and so is what is
too large or cannot be shown.
-/
import DeviceFleet.App.Basic
import DeviceFleet.Time.Span

namespace DeviceFleet

/-- What can be described. -/
inductive Description where
  /-- The question whether a user may act on something. -/
  | userAccess (token id : String) (action : Role)
  /-- The question whether the thing with a key belongs to a group. -/
  | thingAccess (key groupId : String)
  /-- A request for permission. -/
  | authorize (request : AuthorizeRequest)
  /-- The parts of the store. -/
  | repositories
  /-- The caches of the service. -/
  | caches
  /-- The cache of things. -/
  | thingCache (cache : ResourceCache)
  /-- The cache of members. -/
  | memberCache (cache : MemberCache)
  /-- The service, which waits so many milliseconds for a collaborator. -/
  | service (rpcTimeout : Nat)
  /-- The service as it was put together. -/
  | app (app : App)
  /-- The registry of metrics. -/
  | metrics
  /-- What requests for permission can be about. -/
  | subjects
  /-- The kinds of records. -/
  | entityKinds

namespace Description

/-- What stands in place of a secret. -/
def redacted : String := Text.quoted "<redacted>"

/-- A record with named values; `whole` tells whether they are all of its values. -/
def record (name : String) (values : List (String × String)) (whole : Bool) : String :=
  let shown := values.map fun v => v.1 ++ ": " ++ v.2
  let parts := if whole then shown else shown ++ [".."]
  name ++ " \x7b " ++ ", ".intercalate parts ++ " \x7d"

/-- A value that may be absent. -/
def option : Option String → String
  | some s => "Some(" ++ s ++ ")"
  | none => "None"

/-- A role. -/
def role : Role → String
  | .viewer => "Viewer"
  | .editor => "Editor"
  | .admin => "Admin"
  | .owner => "Owner"

/-- What a request is about. -/
def subject : Subject → String
  | .root => "Root"
  | .org => "Org"
  | .group => "Group"

/-- The totals of some calls. -/
def totals (t : Service.CallTotals) : String :=
  record "ServiceMetrics"
    [("request_count", toString t.requests), ("error_count", toString t.errors),
      ("total_duration_us", toString t.micros)]
    true

/-- The text of a description. -/
def text : Description → String
  | .userAccess _ id action =>
    record "UserAccessRequest"
      [("token", redacted), ("id", Text.quoted id), ("action", role action)] true
  | .thingAccess _ groupId =>
    record "ThingAccessRequest" [("key", redacted), ("id", Text.quoted groupId)] true
  | .authorize r =>
    record "AuthorizeRequest"
      [("token", redacted), ("object", Text.quoted r.object), ("subject", subject r.subject),
        ("action", option (r.action.map role))]
      true
  | .repositories => record "Repositories" [] false
  | .caches => record "Caches" [] false
  | .thingCache c =>
    record "MemoryResourceCache"
      [("kind", "Thing"), ("enabled", toString c.enabled), ("key_count", toString c.keys.size),
        ("group_count", toString c.groups.size)]
      true
  | .memberCache c =>
    record "MemoryGroupCache"
      [("enabled", toString c.enabled), ("member_count", toString c.members.size),
        ("group_index_size", toString c.membersByGroup.size)]
      true
  | .service rpcTimeout =>
    let waiting := record "AccessConfig" [("rpc_timeout", spanText rpcTimeout)] true
    record "FleetService" [("access", record "AccessEvaluator" [("config", waiting)] false)] false
  | .app a => record "App" [("metrics", option ((Service.Layer.totals? a.layers).map totals))] false
  | .metrics => record "MetricsState" [] false
  | .subjects => " ".intercalate ([.root, .org, .group].map Subject.name)
  | .entityKinds => ", ".intercalate (EntityKind.all.map EntityKind.label)

end Description

end DeviceFleet
