/-
# Layers

What is wrapped around the service.  A layer passes every call on to the service within and sees
its outcome.  It either reports the call or counts it.
-/
import DeviceFleet.Service.CallTotals
import DeviceFleet.Service.Passage

namespace DeviceFleet.Service

/-- A layer around the service. -/
inductive Layer where
  /-- Reports every call. -/
  | logging
  /-- Counts every call. -/
  | metering (totals : CallTotals)
deriving DecidableEq, Repr

/-- The part of the program that reports calls. -/
def callTarget : String := "fleetgate::service"

/-- The report of a call. -/
def callEvent (method : String) : Except ServiceError Answer → LogEvent
  | .ok _ => ⟨.info, callTarget, "request completed", [("method", .text method)]⟩
  | .error e =>
    ⟨.warn, callTarget, "request failed", [("method", .text method), ("error", .plain e.message)]⟩

namespace Layer

/-- A layer that has counted nothing yet. -/
def fresh : Layer := metering .zero

/-- Sees the outcome of a call that took `micros` microseconds. -/
def observe (method : String) (micros : UInt64) (outcome : Except ServiceError Answer)
    (layer : Layer) (state : State) : Layer × State :=
  match layer with
  | .logging => (.logging, { state with log := callEvent method outcome :: state.log })
  | .metering totals =>
    let ok := outcome matches .ok _
    let counted := .duration method ok :: .request method ok :: state.metrics
    (.metering (totals.record ok micros), { state with metrics := counted })

/-- What the layer makes of a call. -/
def passage : Layer → Operation → Passage
  | .logging => loggingPassage
  | .metering _ => meteringPassage

/-- The totals of the outermost layer that counts. -/
def totals? (layers : List Layer) : Option CallTotals :=
  layers.reverse.findSome? fun
    | .metering totals => some totals
    | .logging => none

end Layer

/-- The outcome of an operation, the layers that it was called through, and the state after
it. -/
structure Called where
  /-- The answer or the failure. -/
  outcome : Except ServiceError Answer
  /-- The layers, the innermost first. -/
  layers : List Layer
  /-- The state. -/
  state : State

/-- The service itself, without layers. -/
def bare (setting : Setting) (op : Operation) (state : State) : Called :=
  let (outcome, state) := op.run setting state
  ⟨outcome, [], state⟩

/-- A layer around a service, `inner`, which takes `micros` microseconds for the call. -/
def Layer.around (micros : UInt64) (inner : Operation → State → Called) (layer : Layer)
    (op : Operation) (state : State) : Called :=
  let passage := layer.passage op
  let called := inner passage.inner state
  let (layer, state) := layer.observe passage.method micros called.outcome called.state
  ⟨called.outcome, called.layers ++ [layer], state⟩

/-- Carries out an operation that takes `micros` microseconds through layers, given from the inside
out. -/
def Operation.call (op : Operation) (micros : UInt64) (layers : List Layer) (setting : Setting)
    (state : State) : Called :=
  layers.foldl (Layer.around micros) (bare setting) op state

end DeviceFleet.Service
