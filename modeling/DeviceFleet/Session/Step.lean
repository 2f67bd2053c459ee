/-
# Sessions

A session puts the service on trial: a list of steps is carried out one after the other in a
world that consists of the service with its layers and of its surroundings.  Steps call the
service, ask it about access, look into its caches or its store, or change the surroundings.
-/
import DeviceFleet.Cache.Command
import DeviceFleet.Service.Inquiry
import DeviceFleet.Service.Layer
import DeviceFleet.Session.Surroundings
import DeviceFleet.Store.Command

namespace DeviceFleet.Session

open Service (Layer Operation CallTotals)

/-- The service on trial and its surroundings. -/
structure World where
  /-- The collaborators. -/
  surroundings : Surroundings
  /-- How long a collaborator may take, in milliseconds. -/
  rpcTimeout : Nat
  /-- What is out of order in the store. -/
  faults : List Store.Fault
  /-- The layers around the service, the innermost first. -/
  layers : List Layer
  /-- What the service works on. -/
  state : State

/-- One step of a session. -/
inductive Step where
  /-- Calls the service. -/
  | call (op : Operation)
  /-- Asks about access. -/
  | inquire (inquiry : Access.Inquiry)
  /-- Uses the cache of things. -/
  | thingCache (command : ResourceCache.Command)
  /-- Uses the cache of profiles. -/
  | profileCache (command : ResourceCache.Command)
  /-- Uses the cache of members. -/
  | memberCache (command : MemberCache.Command)
  /-- Adds a user. -/
  | addUser (token : String) (identity : Identity) (listed : Bool)
  /-- Adds a user who administers the platform. -/
  | addAdmin (token : String) (identity : Identity) (listed : Bool)
  /-- Gives a role in an organization. -/
  | setOrgRole (role : OrgRole)
  /-- Lets the authority take some milliseconds. -/
  | setAuthorityDelay (ms : Nat)
  /-- Puts the authority out of order, or in order again. -/
  | setAuthorityDown (down : Bool)
  /-- Lets the directory take some milliseconds. -/
  | setDirectoryDelay (ms : Nat)
  /-- Lets the directory refuse every look-up, or none. -/
  | setDirectoryRefusal (refusal : Option ClientError)
  /-- Puts the store out of order. -/
  | setFaults (faults : List Store.Fault)
  /-- Asks for the totals of the outermost layer that counts. -/
  | totals
  /-- Asks for everything in the store. -/
  | contents

/-- What comes of a step. -/
inductive Finding where
  /-- The outcome of a call or of a question about access. -/
  | outcome (outcome : Except ServiceError Answer)
  /-- What a cache of resources answers. -/
  | resource (answer : Except CacheError (Option String))
  /-- What the cache of members answers. -/
  | member (answer : Except CacheError (Option (List String)))
  /-- The totals, if some layer counts. -/
  | totals (totals : Option CallTotals)
  /-- Everything in the store. -/
  | contents (contents : Backup)

/-- What comes of a step, and what can be seen of how it came about. -/
structure Report where
  /-- What comes of the step. -/
  finding : Finding
  /-- How often permission was asked for. -/
  consulted : Nat
  /-- What was reported, in order. -/
  log : List LogEvent

namespace World

/-- What an operation finds in the world. -/
def setting (w : World) : Setting where
  toCollaborators := w.surroundings.collaborators
  rpcTimeout := w.rpcTimeout
  faults := w.faults

/-- The world with other surroundings. -/
def surround (w : World) (f : Surroundings → Surroundings) : World :=
  { w with surroundings := f w.surroundings }

/-- The world with another authority. -/
def mapAuthority (w : World) (f : Authority → Authority) : World :=
  w.surround fun s => { s with authority := f s.authority }

/-- The world with another directory. -/
def mapDirectory (w : World) (f : Directory → Directory) : World :=
  w.surround fun s => { s with directory := f s.directory }

/-- Calls the service. -/
def call (w : World) (op : Operation) : Finding × World :=
  let called := op.call 0 w.layers w.setting w.state
  (.outcome called.outcome, { w with layers := called.layers, state := called.state })

/-- Asks about access. -/
def inquire (w : World) (inquiry : Access.Inquiry) : Finding × World :=
  let (outcome, state) := inquiry.run w.setting w.state
  (.outcome outcome, { w with state := state })

/-- Takes over the caches that a request leaves, and what it counts. -/
def afterCache (w : World) (caches : Caches) (counted : List Series) : World :=
  { w with state := { w.state with caches := caches, metrics := counted ++ w.state.metrics } }

/-- Uses the cache of things. -/
def useThingCache (w : World) (c : ResourceCache.Command) : Finding × World :=
  let o := c.run .thing w.state.caches.things
  (.resource o.answer, w.afterCache { w.state.caches with things := o.cache } o.counted)

/-- Uses the cache of profiles. -/
def useProfileCache (w : World) (c : ResourceCache.Command) : Finding × World :=
  let o := c.run .profile w.state.caches.profiles
  (.resource o.answer, w.afterCache { w.state.caches with profiles := o.cache } o.counted)

/-- Uses the cache of members. -/
def useMemberCache (w : World) (c : MemberCache.Command) : Finding × World :=
  let o := c.run w.state.caches.groups
  (.member o.answer, w.afterCache { w.state.caches with groups := o.cache } o.counted)

/-- What comes of a step that changes the surroundings. -/
def changed (w : World) : Finding × World := (.outcome (.ok .done), w)

/-- Carries out a step. -/
def perform (w : World) : Step → Finding × World
  | .call op => w.call op
  | .inquire inquiry => w.inquire inquiry
  | .thingCache c => w.useThingCache c
  | .profileCache c => w.useProfileCache c
  | .memberCache c => w.useMemberCache c
  | .addUser token identity listed => (w.surround fun s => s.addUser token identity listed).changed
  | .addAdmin token identity listed =>
    (w.surround fun s => s.addAdmin token identity listed).changed
  | .setOrgRole role => (w.mapAuthority fun a => a.setOrgRole role).changed
  | .setAuthorityDelay ms => (w.mapAuthority fun a => { a with delay := ms }).changed
  | .setAuthorityDown down => (w.mapAuthority fun a => { a with down := down }).changed
  | .setDirectoryDelay ms => (w.mapDirectory fun d => { d with delay := ms }).changed
  | .setDirectoryRefusal refusal => (w.mapDirectory fun d => { d with refusal := refusal }).changed
  | .setFaults faults => { w with faults := faults }.changed
  | .totals => (.totals (Layer.totals? w.layers), w)
  | .contents => (.contents w.state.store.contents, w)

/-- Carries out a step and tells what can be seen of it. -/
def step (w : World) (s : Step) : Report × World :=
  let quiet := { w with state := { w.state with log := [], consultations := [] } }
  let (finding, w) := quiet.perform s
  (⟨finding, w.state.consultations.length, w.state.log.reverse⟩, w)

end World

end DeviceFleet.Session
