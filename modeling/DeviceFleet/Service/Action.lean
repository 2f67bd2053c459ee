/-
# Actions

What an operation of the service does, step by step.  An action reads its setting, works on the
state of the service and either answers or fails; when it fails, what it did before stays done.
-/
import DeviceFleet.Cache.Member
import DeviceFleet.Cache.Resource
import DeviceFleet.Log.Event
import DeviceFleet.Metrics
import DeviceFleet.Service.Error
import DeviceFleet.Store.Method

namespace DeviceFleet

/-- The caches of the service. -/
structure Caches where
  /-- The keys and groups of things. -/
  things : Lookaside ResourceCache
  /-- The groups of profiles. -/
  profiles : Lookaside ResourceCache
  /-- The groups of members. -/
  groups : Lookaside MemberCache
deriving DecidableEq

namespace Caches

/-- Caches in memory that remember nothing yet. -/
def inMemory (enabled : Bool) : Caches :=
  ⟨.memory (.empty enabled), .memory (.empty enabled), .memory (.empty enabled)⟩

end Caches

/-- A request for permission, and whether it was granted in time. -/
structure Consultation where
  /-- What was asked. -/
  request : AuthorizeRequest
  /-- Was it granted? -/
  granted : Bool
deriving DecidableEq, Repr

/-- What an operation finds and cannot change. -/
structure Setting extends Collaborators where
  /-- How long a collaborator may take, in milliseconds. -/
  rpcTimeout : Nat
  /-- What is out of order in the store. -/
  faults : List Store.Fault
  /-- The order in which the store goes through its things.  It may depend on how many calls of
  collaborators came before. -/
  walks : Nat → Store.Walk := fun _ => .ascending

/-- What an operation works on. -/
structure State where
  /-- The records. -/
  store : Store
  /-- The caches. -/
  caches : Caches
  /-- How often collaborators were called. -/
  calls : Nat
  /-- How many identifiers were asked for. -/
  idsTaken : Nat
  /-- How often the clock was read. -/
  clockReads : Nat
  /-- What was asked of the collaborator that grants permissions, the latest first. -/
  consultations : List Consultation
  /-- What was counted. -/
  metrics : Registry
  /-- What was reported, the latest first. -/
  log : List LogEvent

namespace State

/-- The state of a service that has not been used. -/
def initial (store : Store) (caches : Caches) : State := ⟨store, caches, 0, 0, 0, [], [], []⟩

end State

/-- A step, or many, of an operation. -/
abbrev Action := ReaderT Setting (ExceptT ServiceError (StateM State))

namespace Action

variable {α β γ : Type}

/-- Carries out an action and gives its failure, if it fails, as a result. -/
def attempt (x : Action α) : Action (Except ServiceError α) := fun setting state =>
  let (result, state) := x setting state
  (.ok result, state)

/-- Reports something. -/
def report (level : LogLevel) (target message : String) (fields : List (String × LogValue)) :
    Action Unit :=
  modify fun s => { s with log := ⟨level, target, message, fields⟩ :: s.log }

/-! ## The store -/

/-- Fails if requests of the kind are refused. -/
def guardMethod (method : Store.Method) : Action Unit := do
  if .refuses method ∈ (← read).faults then throw (.ofStore (Store.Fault.refusal method))

/-- Asks the store. -/
def ask (method : Store.Method) (f : Store → Except StoreError α) : Action α := do
  guardMethod method
  match f (← get).store with
  | .ok a => return a
  | .error e => throw (.ofStore e)

/-- Changes the store. -/
def change (method : Store.Method) (f : Store → Store.Outcome α) : Action α := do
  guardMethod method
  let (result, store) := f (← get).store
  modify fun s => { s with store := store }
  match result with
  | .ok a => return a
  | .error e => throw (.ofStore e)

/-- Changes the store after a walk through its things. -/
def changeAlong (method : Store.Method) (f : Store.Walk → Store → Store.Outcome α) : Action α := do
  let walk := (← read).walks (← get).calls
  change method (f walk)

/-- Stores a batch of records. -/
def storeBatch (method : Store.Method) (f : Store → Store.Outcome (List α)) :
    Action (List α) := do
  guardMethod method
  if .storesNothing method ∈ (← read).faults then return []
  else change method f

/-! ## The caches -/

/-- Looks something up in a cache and counts whether it was there. -/
def lookUp (kind : CacheKind) (cache : Caches → Lookaside α) (find : α → Option β) :
    Action (Except CacheError (Option β)) := do
  let c := cache (← get).caches
  let found := c.read find
  modify fun s => { s with metrics := c.counted kind found ++ s.metrics }
  return found

/-- Fails if a change of a cache failed. -/
def ofCache (result : Except CacheError Unit) : Action Unit :=
  match result with
  | .ok () => return ()
  | .error e => throw (.cache e)

/-- Changes the cache of things. -/
def changeThingCache (f : ResourceCache → ResourceCache) : Action Unit := do
  let (result, cache) := (← get).caches.things.change f
  modify fun s => { s with caches := { s.caches with things := cache } }
  ofCache result

/-- Changes the cache of profiles. -/
def changeProfileCache (f : ResourceCache → ResourceCache) : Action Unit := do
  let (result, cache) := (← get).caches.profiles.change f
  modify fun s => { s with caches := { s.caches with profiles := cache } }
  ofCache result

/-- Changes the cache of members. -/
def changeMemberCache (f : MemberCache → MemberCache) : Action Unit := do
  let (result, cache) := (← get).caches.groups.change f
  modify fun s => { s with caches := { s.caches with groups := cache } }
  ofCache result

/-! ## The collaborators -/

/-- Waits for a reply, but not for too long. -/
def await (reply : Reply α) : Action (Except ClientError α) := do
  let timeout := (← read).rpcTimeout
  if timeout < reply.delay then throw (.timeout timeout) else return reply.answer

/-- Takes a new identifier. -/
def newId : Action String := do
  let taken := (← get).idsTaken
  modify fun s => { s with idsTaken := taken + 1 }
  match (← read).newId taken with
  | .ok id => return id
  | .error e => throw (.internal s!"failed to generate id: {e.message}")

/-- Reads the clock. -/
def now : Action Instant := do
  let reads := (← get).clockReads
  modify fun s => { s with clockReads := reads + 1 }
  return (← read).clock reads

/-- Asks for permission.  An unknown token makes the caller unknown; any other refusal, or that
the collaborator does not work, means that the caller may not. -/
def authorize (request : AuthorizeRequest) : Action Unit := do
  let setting ← read
  let state ← get
  let reply := setting.authorize state.calls state.store request
  let granted := reply.delay ≤ setting.rpcTimeout && reply.answer matches .ok _
  modify fun s =>
    { s with calls := s.calls + 1, consultations := ⟨request, granted⟩ :: s.consultations }
  match ← await reply with
  | .ok () => return ()
  | .error (.unauthenticated message) => throw (.authentication message)
  | .error e => throw (.authorization e.message)

/-- Asks who the caller with a token is. -/
def identifyCaller (token : String) : Action Identity := do
  let state ← get
  let reply := (← read).identify state.calls state.store token
  modify fun s => { s with calls := s.calls + 1 }
  match ← await reply with
  | .ok identity => return identity
  | .error e => throw (.authentication e.message)

/-- Asks the directory for users. -/
def findUsers (ids : List String) : Action (List User) := do
  let state ← get
  let reply := (← read).findUsers state.calls state.store ids
  modify fun s => { s with calls := s.calls + 1 }
  match ← await reply with
  | .ok users => return users
  | .error (.unauthenticated message) => throw (.authentication message)
  | .error e => throw (.internal s!"users lookup failed: {e.message}")

end Action

end DeviceFleet
