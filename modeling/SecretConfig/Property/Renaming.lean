import SecretConfig.Property.Flatten

set_option autoImplicit false

/-! # Renaming properties

A renaming gives some property names a new name and keeps the others. It is applied to all
properties at once: a new name is never renamed again. Of two properties that come to one
name, the one with the greater old name stays. -/

namespace SecretConfig

/-- New names for some property names. -/
structure Renaming where
  targets : Dict String
deriving DecidableEq, Repr, Inhabited

namespace Renaming

/-- The renaming that keeps every name. -/
def identity : Renaming := ⟨Dict.empty⟩

/-- Give `source` the new name `target`, in place of one given before. -/
def withMapping (r : Renaming) (source target : String) : Renaming :=
  ⟨r.targets.insert source target⟩

/-- The renaming with the given pairs, added from left to right. -/
def ofList (pairs : List (String × String)) : Renaming :=
  pairs.foldl (fun r p => r.withMapping p.1 p.2) identity

/-- The new name given to a property name. -/
def target? (r : Renaming) (name : String) : Option String := r.targets.get? name

/-- No name is renamed. -/
def isEmpty (r : Renaming) : Bool := r.targets.isEmpty

/-- The name of a property after the renaming. -/
def rename (r : Renaming) (name : String) : String := (r.target? name).getD name

/-- Rename all properties at once. -/
def apply (r : Renaming) (properties : Properties) : Properties :=
  Dict.ofList (properties.entries.map (fun e => (r.rename e.1, e.2)))

end Renaming

end SecretConfig
