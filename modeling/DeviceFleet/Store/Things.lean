/-
# Things in the store

Things are stored under their identifiers, and the key index has an entry for the key of each.
Keys are unique: a thing is refused when its key is taken, even before its identifier is looked
at.
-/
import DeviceFleet.Store.Basic

namespace DeviceFleet.Store

/-- Stores one thing and its key. -/
def insertThing (t : Thing) (s : Store) : Outcome Unit :=
  if t.key ∈ s.thingKeys then (.error .duplicateKey, s)
  else
    let keyed := { s with thingKeys := s.thingKeys.insert t.key t.id }
    if t.id ∈ s.things then
      (.error (.alreadyExists .thing t.id), { keyed with thingKeys := keyed.thingKeys.erase t.key })
    else (.ok (), { keyed with things := keyed.things.insert t.id t })

/-- Takes out one thing, and its key if the index gives the key to it. -/
def eraseThing (id : String) (s : Store) : Store :=
  match s.things[id]? with
  | none => s
  | some t =>
    { s with
      things := s.things.erase id
      thingKeys := if s.thingKeys[t.key]? = some id then s.thingKeys.erase t.key else s.thingKeys }

/-- The fields of a thing that must not be blank. -/
def checkThing (t : Thing) : Except StoreError Unit := do
  require t.id "thing id"
  require t.key "thing key"
  require t.groupId "thing group id"
  require t.profileId "thing profile id"

/-- Stores new things, all or none. -/
def saveThings (s : Store) (things : List Thing) : Outcome (List Thing) :=
  match things.forM checkThing with
  | .error e => (.error e, s)
  | .ok () =>
    match insertEach insertThing (fun t => eraseThing t.id) [] things s with
    | (.ok (), s) => (.ok things, s)
    | (.error e, s) => (.error e, s)

/-- Changes the name, the profile and the metadata of a thing; group and key stay. -/
def updateThing (s : Store) (t : Thing) : Outcome Unit :=
  if t.id ∈ s.things then
    let change (stored : Thing) : Thing :=
      { stored with name := t.name, profileId := t.profileId, metadata := t.metadata }
    (.ok (), { s with things := s.things.modify t.id change })
  else (.error (.notFound .thing t.id), s)

/-- Gives a thing another key. -/
def updateKey (s : Store) (id key : String) : Outcome Unit :=
  match require key "thing key" with
  | .error e => (.error e, s)
  | .ok () =>
    match s.things[id]? with
    | none => (.error (.notFound .thing id), s)
    | some t =>
      if t.key = key then (.ok (), s)
      else if key ∈ s.thingKeys then (.error .duplicateKey, s)
      else
        let keys := s.thingKeys.insert key id
        (.ok (), { s with
          things := s.things.modify id fun stored => { stored with key := key }
          thingKeys := if keys[t.key]? = some id then keys.erase t.key else keys })

/-- The thing with an identifier. -/
def findThing (s : Store) (id : String) : Except StoreError Thing :=
  match s.things[id]? with
  | some t => .ok t
  | none => .error (.notFound .thing id)

/-- The identifier of the thing with a key. -/
def findThingId (s : Store) (key : String) : Except StoreError String :=
  match s.thingKeys[key]? with
  | some id => .ok id
  | none => .error .keyNotFound

/-- A page of the things that satisfy a condition, by name. -/
def pageOfThings (s : Store) (p : Thing → Bool) (r : PageRequest) : Page Thing :=
  r.paginate (byName (·.name) (·.id) (s.thingsWhere fun t => p t && r.admits t.name))

/-- The things of some groups. -/
def listThingsOfGroups (s : Store) (groupIds : List String) (r : PageRequest) : Page Thing :=
  s.pageOfThings (fun t => groupIds.contains t.groupId) r

/-- The things of a profile. -/
def listThingsOfProfile (s : Store) (profileId : String) (r : PageRequest) : Page Thing :=
  s.pageOfThings (fun t => t.profileId == profileId) r

/-- All things. -/
def listThings (s : Store) (r : PageRequest) : Page Thing := s.pageOfThings (fun _ => true) r

/-- Takes out things; identifiers that are not stored are passed over. -/
def removeThings (s : Store) (ids : List String) : Store :=
  ids.foldl (fun s id => s.eraseThing id) s

/-- All things by identifier. -/
def exportThings (s : Store) : List Thing := s.thingsWhere fun _ => true

/-- The things of some groups by identifier. -/
def exportThingsOfGroups (s : Store) (groupIds : List String) : List Thing :=
  s.thingsWhere fun t => groupIds.contains t.groupId

end DeviceFleet.Store
