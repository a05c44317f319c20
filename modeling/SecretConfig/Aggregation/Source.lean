import SecretConfig.Aggregation.Build
import SecretConfig.Json.Printer
import SecretConfig.Session.Machine

set_option autoImplicit false

/-! # The source of properties

A source publishes the layers of its last successful refresh together with the view merged
from them. Refreshes take turns: one at a time builds, and the others wait in the order of
asking. -/

namespace SecretConfig

/-- The layers of one build and the view merged from them. -/
structure Snapshot where
  layers : List Layer := []
  properties : Properties := Dict.empty
deriving DecidableEq, Inhabited

/-- The snapshot of layers. -/
def Snapshot.ofLayers (layers : List Layer) : Snapshot := ⟨layers, Layer.merge layers⟩

/-- What is read again and again, and what was read last. -/
structure Source where
  descriptors : List Descriptor := []
  options : BuildOptions := {}
  published : Snapshot := {}
  /-- The refresh whose turn it is. -/
  active : Option CallId := none
  /-- The refreshes that wait for their turn. -/
  queue : List CallId := []
deriving DecidableEq, Inhabited

namespace Source

/-- Ask for a turn; it is given at once when nobody has one. -/
def acquire (s : Source) (id : CallId) : Source :=
  match s.active with
  | none => { s with active := some id }
  | some _ => { s with queue := s.queue ++ [id] }

/-- Hand the turn on to the refresh that has waited longest. -/
def release (s : Source) : Source :=
  match s.queue with
  | [] => { s with active := none }
  | id :: rest => { s with active := some id, queue := rest }

/-- Publish the layers of a build and hand the turn on. -/
def publish (s : Source) (layers : List Layer) : Source :=
  { s with published := Snapshot.ofLayers layers }.release

/-- A refresh goes away, whether it has its turn or waits for it. -/
def drop (s : Source) (id : CallId) : Source :=
  if s.active = some id then s.release else { s with queue := s.queue.filter (· ≠ id) }

/-- The value of a property. -/
def get? (s : Source) (key : String) : Option Json := s.published.properties.get? key

/-- The value of a property as a text: a text stands for itself. -/
def getText? (s : Source) (key : String) : Option String :=
  (s.get? key).map fun v => match v with
    | .str t => t
    | v => v.compact

end Source

end SecretConfig
