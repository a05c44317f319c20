import SecretConfig.Json.Value

set_option autoImplicit false

/-! # Properties of a document

`flatten` turns the members of a JSON object into properties: a member of an object is named
`parent.child`, an item of an array `parent[index]`. Scalars, empty objects and empty arrays
are the values. Where two places of the document have one name, the later in depth-first
order stays. -/

namespace SecretConfig

/-- Named values, by ascending name. -/
abbrev Properties := Dict Json

namespace Properties

/-- The name of a member of the object called `parent`. -/
def memberName (parent child : String) : String := parent ++ "." ++ child

/-- The name of an item of the array called `parent`. -/
def itemName (parent : String) (index : Nat) : String := parent ++ "[" ++ toString index ++ "]"

mutual

/-- Add the properties of the value called `name`. -/
def addValue (acc : Properties) (name : String) : Json → Properties
  | .obj (field :: rest) => addFields acc name (field :: rest)
  | .arr (item :: rest) => addItems acc name 0 (item :: rest)
  | leaf => acc.insert name leaf

/-- Add the properties of the members of the object called `name`. -/
def addFields (acc : Properties) (name : String) : List (String × Json) → Properties
  | [] => acc
  | (child, v) :: rest => addFields (addValue acc (memberName name child) v) name rest

/-- Add the properties of the items, from `index` on, of the array called `name`. -/
def addItems (acc : Properties) (name : String) (index : Nat) : List Json → Properties
  | [] => acc
  | v :: rest => addItems (addValue acc (itemName name index) v) name (index + 1) rest

end

/-- The properties of the members of an object. -/
def flatten (data : Dict Json) : Properties :=
  data.entries.foldl (fun acc e => addValue acc e.1 e.2) Dict.empty

end Properties

end SecretConfig
