import SecretConfig.Error
import SecretConfig.Metrics
import SecretConfig.Store.Payload

set_option autoImplicit false

/-! # Building layers

A build reads every enabled backend once. First the descriptors are resolved, in the order of
their declaration: one that does not resolve is skipped, unless it has to be there
(`Build.plan`). Then the answer to each read becomes a layer or an error (`PlannedRead.layer`):
nothing at the path, or no right to read it, makes a layer that contributes nothing, unless
the backend has to be there; any other fault is an error. The build ends with the first error
in the order of declaration, or with the layers by ascending order (`Build.collect`). -/

namespace SecretConfig

/-- How backends are read. -/
structure BuildOptions where
  /-- Every backend has to be there. -/
  failFast : Bool := false
  /-- How long one read may take. -/
  readTimeout : Duration := 10000
deriving DecidableEq, Repr, Inhabited

/-- A backend that will be read. -/
structure PlannedRead where
  descriptor : Descriptor
  plan : ReadPlan
deriving DecidableEq, Repr, Inhabited

/-- How a backend fared, for the record. -/
inductive ReadOutcome where
  | skipped
  | missing
  | forbidden
  | error
  | success
deriving DecidableEq, Repr, Inhabited

/-- The name of an outcome. -/
def ReadOutcome.name : ReadOutcome → String
  | skipped => "skipped"
  | missing => "missing"
  | forbidden => "forbidden"
  | error => "error"
  | success => "success"

/-- The record of an outcome. -/
def Descriptor.record (d : Descriptor) (o : ReadOutcome) : Metrics.Record :=
  .read d.kind.name o.name

/-- The backend has to be there. -/
def Descriptor.isRequired (d : Descriptor) (o : BuildOptions) : Bool := d.failFast || o.failFast

namespace PlannedRead

/-- The layer of a payload. -/
def contribution (r : PlannedRead) (p : Payload) : Layer :=
  let properties := Properties.flatten p.data
  { source := r.plan.source
    order := r.plan.order
    properties := match r.plan.names with
      | some names => names.apply properties
      | none => properties
    lease := p.lease }

/-- The layer that contributes nothing. -/
def vacant (r : PlannedRead) : Layer := Layer.vacant r.plan.source r.plan.order

/-- The secret that an answer holds. A store may say in two ways that there is none. -/
def secret (r : PlannedRead) : ReadAnswer → Except StoreFault (Option Payload)
  | .ok (some p) => .ok (p.unwrap? r.plan.layout)
  | .ok none => .ok none
  | .error fault => if fault.isNotFound then .ok none else .error fault

/-- What becomes of an answer: a layer or an error, and the outcome for the record. -/
def layer (o : BuildOptions) (r : PlannedRead) (answer : ReadAnswer) :
    Except Error Layer × ReadOutcome :=
  match r.secret answer with
  | .ok (some p) => (.ok (r.contribution p), .success)
  | .ok none =>
    (if r.descriptor.isRequired o then
      .error (.missingSecret r.descriptor.name r.plan.path)
     else .ok r.vacant, .missing)
  | .error fault =>
    if fault.isUnauthorized then
      (if r.descriptor.isRequired o then .error (.store fault) else .ok r.vacant, .forbidden)
    else (.error (Error.ofStore "read" fault), .error)

end PlannedRead

namespace Build

/-- Resolve the enabled descriptors in order, up to the first that has to be there and does not
resolve. The second part records those that are skipped. -/
def plan (registry : Registry) (o : BuildOptions) :
    List Descriptor → Except Error (List PlannedRead) × List Metrics.Record
  | [] => (.ok [], [])
  | d :: rest =>
    if d.enabled then
      match registry.resolve d with
      | .ok p =>
        let (reads, records) := plan registry o rest
        (reads.map (⟨d, p⟩ :: ·), records)
      | .error e =>
        if d.isRequired o then (.error e, [])
        else
          let (reads, records) := plan registry o rest
          (reads, d.record .skipped :: records)
    else plan registry o rest

/-- All layers, or the first error. -/
def allLayers : List (Except Error Layer) → Except Error (List Layer)
  | [] => .ok []
  | .error e :: _ => .error e
  | .ok layer :: rest => (allLayers rest).map (layer :: ·)

/-- The layers by ascending order, or the first error. -/
def collect (outcomes : List (Except Error Layer)) : Except Error (List Layer) :=
  (allLayers outcomes).map Layer.sorted

end Build

end SecretConfig
