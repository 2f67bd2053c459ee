/-
# Inquiries

The questions about access that the service asks while it works, as data, so that they can also
be asked by themselves.  They go through no layer.
-/
import DeviceFleet.Answer
import DeviceFleet.Service.Access

namespace DeviceFleet.Access

/-- A question about access. -/
inductive Inquiry where
  /-- Which thing has the key? -/
  | identify (key : String)
  /-- Who is the caller? -/
  | identifyCaller (token : String)
  /-- Does the caller administer the platform? -/
  | isAdmin (token : String)
  /-- May the caller act on a thing? -/
  | canAccessThing (token thingId : String) (action : Role)
  /-- May the caller act on a profile? -/
  | canAccessProfile (token profileId : String) (action : Role)
  /-- May the caller act on a group? -/
  | canAccessGroup (token groupId : String) (action : Role)
  /-- May the caller act on an organization? -/
  | canAccessOrg (token orgId : String) (action : Role)
  /-- Does the thing with a key belong to a group? -/
  | canThingAccessGroup (key groupId : String)
  /-- Which group owns a thing? -/
  | groupIdOfThing (thingId : String)
  /-- Which group owns a profile? -/
  | groupIdOfProfile (profileId : String)
  /-- Which groups does a member have a role in? -/
  | groupIdsOfMember (memberId : String)
deriving DecidableEq, Repr

/-- Asks a question that is only answered by yes or by a failure. -/
def affirmed (x : Action Unit) : Action Answer := do
  x
  return .done

/-- Asks a question. -/
def Inquiry.run : Inquiry → Action Answer
  | .identify key => .identifier <$> Access.identify key
  | .identifyCaller token => .identity <$> Action.identifyCaller token
  | .isAdmin token => affirmed (Access.isAdmin token)
  | .canAccessThing token thingId action => affirmed (Access.canAccessThing token thingId action)
  | .canAccessProfile token profileId action =>
    affirmed (Access.canAccessProfile token profileId action)
  | .canAccessGroup token groupId action => affirmed (Access.canAccessGroup token groupId action)
  | .canAccessOrg token orgId action => affirmed (Access.canAccessOrg token orgId action)
  | .canThingAccessGroup key groupId => affirmed (Access.canThingAccessGroup key groupId)
  | .groupIdOfThing thingId => .identifier <$> Access.groupIdOfThing thingId
  | .groupIdOfProfile profileId => .identifier <$> Access.groupIdOfProfile profileId
  | .groupIdsOfMember memberId => .identifiers <$> Access.groupIdsOfMember memberId

end DeviceFleet.Access
