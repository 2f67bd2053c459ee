/-
# Scopes

Which groups a caller sees when a list is asked for.
-/
import DeviceFleet.Service.Access

namespace DeviceFleet.Service

open DeviceFleet.Action DeviceFleet.Access

/-- The groups that the caller has a role in. -/
def memberGroupIds (token : String) : Action (List String) := do
  let identity ← identifyCaller token
  groupIdsOfMember identity.id

/-- The groups of an organization that the caller sees.  Those who administer the platform see
all of them; anyone else has to be allowed to look at the organization, and then sees the groups
in which they have a role themselves. -/
def orgGroupIds (token orgId : String) : Action (List String) := do
  match ← attempt (isAdmin token) with
  | .ok _ => ask .groupIdsOfOrg fun s => .ok (s.groupIdsOfOrg orgId)
  | .error _ =>
    canAccessOrg token orgId .viewer
    let identity ← identifyCaller token
    ask .groupIdsOfOrgMember fun s => .ok (s.groupIdsOfOrgMember orgId identity.id)

/-- The page of everything for those who administer the platform, the page of the caller's own
groups for anyone else. -/
def listScoped {α : Type} (token : String) (everything : Action α)
    (ofGroups : List String → Action α) : Action α := do
  match ← attempt (isAdmin token) with
  | .ok _ => everything
  | .error _ => memberGroupIds token >>= ofGroups

end DeviceFleet.Service
