import SecretConfig.Property.Flatten

set_option autoImplicit false

/-! # Layers and precedence

A layer holds the properties that one backend contributes. `Layer.merge` writes the layers
over each other by ascending order, layers of one order as they stand in the list, so that
a higher order wins and among equals the later. -/

namespace SecretConfig

/-- The lease that a store attaches to a secret; its duration is in milliseconds. -/
structure Lease where
  id : String
  duration : Nat
  renewable : Bool
deriving DecidableEq, Repr, Inhabited

/-- The properties that one backend contributes. -/
structure Layer where
  /-- The name of the backend. -/
  source : String
  /-- The place among the layers; a higher order wins. -/
  order : Int32
  properties : Properties
  lease : Option Lease := none
deriving DecidableEq, Repr, Inhabited

namespace Layer

/-- A layer that contributes nothing. -/
def vacant (source : String) (order : Int32) : Layer := ⟨source, order, Dict.empty, none⟩

/-- The layer contributes nothing. -/
def isVacant (layer : Layer) : Bool := layer.properties.isEmpty

/-- Layers by ascending order; layers of one order keep their places. -/
def sorted (layers : List Layer) : List Layer :=
  layers.mergeSort (fun a b => a.order.toInt ≤ b.order.toInt)

/-- The view of all layers: each writes over those of lower order. -/
def merge (layers : List Layer) : Properties :=
  (sorted layers).foldl (fun acc layer => acc.union layer.properties) Dict.empty

end Layer

end SecretConfig
