import SecretConfig.Tree

set_option autoImplicit false

/-! # Tables of TOML

A document is a table that its lines fill piece by piece. A table is given once: by a header,
by dotted keys, or between braces. Headers may open tables inside of one that only stands for
a prefix of their path. -/

namespace SecretConfig.Toml

/-- What stands under a key of a table. -/
inductive Node where
  /-- A value, which is complete. -/
  | value (tree : Tree)
  /-- A table. It is `implicit` as long as it is only a prefix of a longer path, and `dotted`
  when dotted keys made it. -/
  | table (implicit dotted : Bool) (fields : List (String × Node))
  /-- The tables that one header opened again and again, the last in front. -/
  | tables (items : List (List (String × Node)))
deriving Inhabited

/-- The fields of a table. -/
abbrev Fields := List (String × Node)

namespace Fields

/-- The node under a key. -/
def get? (key : String) (fields : Fields) : Option Node := fields.lookup key

/-- Put a node under a key. -/
def set (key : String) (node : Node) (fields : Fields) : Fields :=
  if fields.any (fun f => f.1 = key) then
    fields.map fun f => if f.1 = key then (key, node) else f
  else fields ++ [(key, node)]

/-- Change the table at a path. The change sees whether dotted keys made the table. On the
way missing tables are made, and of tables under one header the last is taken. -/
def change? (byDots : Bool) (f : Bool → Fields → Option Fields) :
    List String → Bool → Fields → Option Fields
  | [], dotted, fields => f dotted fields
  | k :: path, _, fields =>
    match get? k fields with
    | none =>
      (change? byDots f path byDots []).map fun sub => set k (.table true byDots sub) fields
    | some (.value _) => none
    | some (.tables []) => none
    | some (.tables (last :: front)) =>
      (change? byDots f path false last).map fun last => set k (.tables (last :: front)) fields
    | some (.table implicit dotted sub) =>
      if byDots ∧ ¬implicit then none
      else (change? byDots f path dotted sub).map fun sub =>
        set k (.table implicit dotted sub) fields

/-- Put a value under a dotted key, given as the keys in front and the last. -/
def assign? (path : List String) (key : String) (v : Tree) (fields : Fields) : Option Fields :=
  change? true (fun dotted fields =>
    if dotted = path.isEmpty ∨ (get? key fields).isSome then none
    else some (set key (.value v) fields)) path false fields

/-- Put a value under a dotted key of the table at a path. -/
def assignAt? (header path : List String) (key : String) (v : Tree) (fields : Fields) :
    Option Fields :=
  change? false (fun _ fields => assign? path key v fields) header false fields

/-- Open a table by its header. -/
def openTable? (path : List String) (key : String) (fields : Fields) : Option Fields :=
  change? false (fun _ fields =>
    match get? key fields with
    | none => some (set key (.table false false []) fields)
    | some (.table true false sub) => some (set key (.table false false sub) fields)
    | some _ => none) path false fields

/-- Open one more table under the header of several. -/
def openNext? (path : List String) (key : String) (fields : Fields) : Option Fields :=
  change? false (fun _ fields =>
    match get? key fields with
    | none => some (set key (.tables [[]]) fields)
    | some (.tables items) => some (set key (.tables ([] :: items)) fields)
    | some _ => none) path false fields

end Fields

mutual

/-- The tree of a node. -/
def Node.tree : Node → Tree
  | .value t => t
  | .table _ _ fields => .map (fieldTrees fields)
  | .tables items => .seq (itemTrees items).reverse true

/-- The trees of fields. -/
def fieldTrees : List (String × Node) → List (String × Tree)
  | [] => []
  | (k, n) :: rest => (k, n.tree) :: fieldTrees rest

/-- The trees of tables. -/
def itemTrees : List (List (String × Node)) → List Tree
  | [] => []
  | fields :: rest => .map (fieldTrees fields) :: itemTrees rest

end

end SecretConfig.Toml
