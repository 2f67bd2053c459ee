/-
# Profiles in the store

Profiles are stored under their identifiers.  A profile cannot be taken out while a thing uses
it.
-/
import DeviceFleet.Store.Basic

namespace DeviceFleet.Store

/-- Stores one profile. -/
def insertProfile (p : Profile) (s : Store) : Outcome Unit :=
  if p.id ∈ s.profiles then (.error (.alreadyExists .profile p.id), s)
  else (.ok (), { s with profiles := s.profiles.insert p.id p })

/-- Takes out one profile. -/
def eraseProfile (id : String) (s : Store) : Store := { s with profiles := s.profiles.erase id }

/-- The fields of a profile that must not be blank. -/
def checkProfile (p : Profile) : Except StoreError Unit := do
  require p.id "profile id"
  require p.groupId "profile group id"

/-- Stores new profiles, all or none. -/
def saveProfiles (s : Store) (profiles : List Profile) : Outcome (List Profile) :=
  match profiles.forM checkProfile with
  | .error e => (.error e, s)
  | .ok () =>
    match insertEach insertProfile (fun p => eraseProfile p.id) [] profiles s with
    | (.ok (), s) => (.ok profiles, s)
    | (.error e, s) => (.error e, s)

/-- Changes the name, the configuration and the metadata of a profile; its group stays. -/
def updateProfile (s : Store) (p : Profile) : Outcome Unit :=
  if p.id ∈ s.profiles then
    let change (stored : Profile) : Profile :=
      { stored with name := p.name, config := p.config, metadata := p.metadata }
    (.ok (), { s with profiles := s.profiles.modify p.id change })
  else (.error (.notFound .profile p.id), s)

/-- The profile with an identifier. -/
def findProfile (s : Store) (id : String) : Except StoreError Profile :=
  match s.profiles[id]? with
  | some p => .ok p
  | none => .error (.notFound .profile id)

/-- The profile of a thing. -/
def findProfileOfThing (s : Store) (thingId : String) : Except StoreError Profile :=
  match s.things[thingId]? with
  | none => .error (.notFound .thing thingId)
  | some t => s.findProfile t.profileId

/-- A page of the profiles that satisfy a condition, by name. -/
def pageOfProfiles (s : Store) (p : Profile → Bool) (r : PageRequest) : Page Profile :=
  r.paginate (byName (·.name) (·.id) (s.profilesWhere fun x => p x && r.admits x.name))

/-- The profiles of some groups. -/
def listProfilesOfGroups (s : Store) (groupIds : List String) (r : PageRequest) : Page Profile :=
  s.pageOfProfiles (fun p => groupIds.contains p.groupId) r

/-- All profiles. -/
def listProfiles (s : Store) (r : PageRequest) : Page Profile :=
  s.pageOfProfiles (fun _ => true) r

/-- Takes out profiles, none if one of them is used by a thing; identifiers that are not stored
are passed over.  The refusal names the profile of the first such thing on the walk. -/
def removeProfiles (walk : Walk) (s : Store) (ids : List String) : Outcome Unit :=
  match (s.thingsAlong walk).find? fun t => ids.contains t.profileId with
  | some t => (.error (.profileAssigned t.profileId), s)
  | none => (.ok (), ids.foldl (fun s id => s.eraseProfile id) s)

/-- All profiles by identifier. -/
def exportProfiles (s : Store) : List Profile := s.profilesWhere fun _ => true

/-- The profiles of some groups by identifier. -/
def exportProfilesOfGroups (s : Store) (groupIds : List String) : List Profile :=
  s.profilesWhere fun p => groupIds.contains p.groupId

end DeviceFleet.Store
