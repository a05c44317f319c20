import SecretConfig.Tree
import SecretConfig.Yaml.Token

set_option autoImplicit false

/-! # Reading YAML documents

`Yaml.read?` gives the tree of a text that holds one document; a text without any document is
an empty scalar. Scalars keep their text, since it is the field that gives them a type. An
alias stands for the node that its anchor names, and a map with a key that is no scalar fits
nowhere. -/

namespace SecretConfig.Yaml

/-- What is known while nodes are read: the handles of tags and the named nodes so far. -/
structure Names where
  handles : List (String × String) := []
  anchors : List (String × Tree) := []

namespace Names

/-- A tag has a meaning: its handle is known. -/
def knows (n : Names) (handle : String) : Bool :=
  handle ∈ ["", "!", "!!"] || (n.handles.lookup handle).isSome

/-- Name a node. -/
def withAnchor (n : Names) (anchor : Option String) (t : Tree) : Names :=
  match anchor with
  | some a => { n with anchors := (a, t) :: n.anchors }
  | none => n

/-- Name a node that is still being read: it fits nowhere. -/
def withOpenAnchor (n : Names) (anchor : Option String) : Names := n.withAnchor anchor .real

end Names

/-- The node that is left out. -/
def emptyNode : Tree := .scalar "" .plain

/-- The tree of a scalar. A tag takes from a plain scalar the meaning of nothing. -/
def scalarNode (text : String) (style : Style) (tag : Option String) : Tree :=
  .scalar text <|
    if style = .plain then
      (if tag.isSome ∧ tag ≠ some "!!null" then .tagged else .plain)
    else .quoted

/-- The text of a node that stands for a key. -/
def keyText? : Tree → Option String
  | .scalar s _ => some s
  | _ => none

/-- The map of the pairs of nodes. -/
def mapNode (pairs : List (Tree × Tree)) : Tree :=
  match pairs.mapM (fun p => (keyText? p.1).map fun k => (k, p.2)) with
  | some fields => .map fields
  | none => .real

/-- What stands in front of a node: an anchor and a tag, in either order. -/
structure Properties where
  anchor : Option String := none
  tag : Option String := none

/-- Read an anchor and a tag. -/
def readProperties? (n : Names) (ts : List Token) : Option (Properties × List Token) :=
  match ts with
  | .anchor a :: .tag h s :: rest =>
    if n.knows h then some (⟨some a, some (h ++ s)⟩, rest) else none
  | .tag h s :: .anchor a :: rest =>
    if n.knows h then some (⟨some a, some (h ++ s)⟩, rest) else none
  | .anchor a :: rest => some (⟨some a, none⟩, rest)
  | .tag h s :: rest => if n.knows h then some (⟨none, some (h ++ s)⟩, rest) else none
  | _ => some ({}, ts)

/-- What has been read: a value, the tokens behind it and the names. -/
abbrev Read (α : Type) := α × List Token × Names

mutual

/-- A node. A block can begin inside a block only; `indentless` admits the entries of a list
that is not indented deeper than its key. -/
def readNode (block indentless : Bool) : Nat → List Token → Names → Option (Read Tree)
  | 0, _, _ => none
  | fuel + 1, ts, n =>
    match ts with
    | .alias a :: rest => (n.anchors.lookup a).map fun t => (t, rest, n)
    | ts => do
      let (p, ts) ← readProperties? n ts
      let opened := n.withOpenAnchor p.anchor
      let seq := fun (r : Read (List Tree)) =>
        let t := Tree.seq r.1 false
        (t, r.2.1, r.2.2.withAnchor p.anchor t)
      let map := fun (r : Read (List (Tree × Tree))) =>
        let t := mapNode r.1
        (t, r.2.1, r.2.2.withAnchor p.anchor t)
      match ts with
      | .scalar s style :: rest =>
        let t := scalarNode s style p.tag
        return (t, rest, n.withAnchor p.anchor t)
      | .flowSequenceStart :: rest => return seq (← readFlowItems true fuel rest opened [])
      | .flowMappingStart :: rest => return map (← readFlowPairs true fuel rest opened [])
      | .blockSequence :: rest =>
        if block then return seq (← readBlockItems fuel rest opened []) else none
      | .blockMapping :: rest =>
        if block then return map (← readBlockPairs fuel rest opened []) else none
      | .blockEntry :: _ =>
        if indentless then return seq (← readIndentlessItems fuel ts opened [])
        else readLeftOut p ts n
      | _ => readLeftOut p ts n

/-- A node with an anchor or a tag of which nothing else is there. -/
def readLeftOut (p : Properties) (ts : List Token) (n : Names) : Option (Read Tree) :=
  if p.anchor.isSome ∨ p.tag.isSome then
    let t := scalarNode "" .plain p.tag
    some (t, ts, n.withAnchor p.anchor t)
  else none

/-- A node, unless one of some tokens shows that it is left out. -/
def readUnless (stops : List Token) (block indentless : Bool) :
    Nat → List Token → Names → Option (Read Tree)
  | 0, _, _ => none
  | fuel + 1, ts, n =>
    match ts with
    | [] => some (emptyNode, [], n)
    | t :: _ => if t ∈ stops then some (emptyNode, ts, n) else readNode block indentless fuel ts n

/-- The entries of an indented list. -/
def readBlockItems : Nat → List Token → Names → List Tree → Option (Read (List Tree))
  | 0, _, _, _ => none
  | fuel + 1, ts, n, acc =>
    match ts with
    | .blockEntry :: rest => do
      let (t, ts, n) ← readUnless [.blockEntry, .blockEnd] true false fuel rest n
      readBlockItems fuel ts n (t :: acc)
    | .blockEnd :: rest => some (acc.reverse, rest, n)
    | _ => none

/-- The entries of a list that is not indented. -/
def readIndentlessItems : Nat → List Token → Names → List Tree → Option (Read (List Tree))
  | 0, _, _, _ => none
  | fuel + 1, ts, n, acc =>
    match ts with
    | .blockEntry :: rest => do
      let (t, ts, n) ← readUnless [.blockEntry, .key, .value, .blockEnd] true false fuel rest n
      readIndentlessItems fuel ts n (t :: acc)
    | ts => some (acc.reverse, ts, n)

/-- The pairs of an indented map. -/
def readBlockPairs : Nat → List Token → Names → List (Tree × Tree) →
    Option (Read (List (Tree × Tree)))
  | 0, _, _, _ => none
  | fuel + 1, ts, n, acc =>
    match ts with
    | .key :: rest => do
      let (k, ts, n) ← readUnless [.key, .value, .blockEnd] true true fuel rest n
      match ts with
      | .value :: rest =>
        let (v, ts, n) ← readUnless [.key, .value, .blockEnd] true true fuel rest n
        readBlockPairs fuel ts n ((k, v) :: acc)
      | ts => readBlockPairs fuel ts n ((k, emptyNode) :: acc)
    | .blockEnd :: rest => some (acc.reverse, rest, n)
    | _ => none

/-- The items of a list in brackets; an item with a key is a map of one pair. -/
def readFlowItems (first : Bool) : Nat → List Token → Names → List Tree → Option (Read (List Tree))
  | 0, _, _, _ => none
  | fuel + 1, ts, n, acc => do
    if let .flowSequenceEnd :: rest := ts then return (acc.reverse, rest, n)
    let ts ← if first then some ts else
      match ts with
      | .flowEntry :: rest => some rest
      | _ => none
    match ts with
    | .flowSequenceEnd :: rest => return (acc.reverse, rest, n)
    | .key :: rest =>
      let (k, ts, n) ← readUnless [.value, .flowEntry, .flowSequenceEnd] false false fuel rest n
      match ts with
      | .value :: rest =>
        let (v, ts, n) ← readUnless [.flowEntry, .flowSequenceEnd] false false fuel rest n
        readFlowItems false fuel ts n (mapNode [(k, v)] :: acc)
      | ts => readFlowItems false fuel ts n (mapNode [(k, emptyNode)] :: acc)
    | ts =>
      let (t, ts, n) ← readNode false false fuel ts n
      readFlowItems false fuel ts n (t :: acc)

/-- The pairs of a map in braces. -/
def readFlowPairs (first : Bool) :
    Nat → List Token → Names → List (Tree × Tree) →
    Option (Read (List (Tree × Tree)))
  | 0, _, _, _ => none
  | fuel + 1, ts, n, acc => do
    if let .flowMappingEnd :: rest := ts then return (acc.reverse, rest, n)
    let ts ← if first then some ts else
      match ts with
      | .flowEntry :: rest => some rest
      | _ => none
    match ts with
    | .flowMappingEnd :: rest => return (acc.reverse, rest, n)
    | .key :: rest =>
      let (k, ts, n) ← readUnless [.value, .flowEntry, .flowMappingEnd] false false fuel rest n
      match ts with
      | .value :: rest =>
        let (v, ts, n) ← readUnless [.flowEntry, .flowMappingEnd] false false fuel rest n
        readFlowPairs false fuel ts n ((k, v) :: acc)
      | ts => readFlowPairs false fuel ts n ((k, emptyNode) :: acc)
    | ts =>
      let (k, ts, n) ← readNode false false fuel ts n
      readFlowPairs false fuel ts n ((k, emptyNode) :: acc)

end

/-- Read the directives in front of a document; a handle or the version is given once. -/
def readDirectives? : List Token → Names → Bool → Option (List Token × Names × Bool)
  | .versionDirective :: rest, n, versioned =>
    if versioned then none else readDirectives? rest n true
  | .tagDirective h s :: rest, n, versioned =>
    if (n.handles.lookup h).isSome then none
    else readDirectives? rest { n with handles := (h, s) :: n.handles } versioned
  | ts, n, versioned => some (ts, n, versioned || !n.handles.isEmpty)

/-- The tree of the one document of a text. -/
def read? (s : String) : Option Tree := do
  let ts ← tokens? s
  let fuel := 4 * ts.length + 4
  if ts.isEmpty then return emptyNode
  let (ts, n, directed) ← readDirectives? ts {} false
  let (t, rest, _) ← match ts with
    | .documentStart :: rest =>
      match rest with
      | [] => some (emptyNode, [], n)
      | t :: _ =>
        if t ∈ [.documentStart, .documentEnd, .versionDirective] then some (emptyNode, rest, n)
        else readNode true false fuel rest n
    | ts => if directed then none else readNode true false fuel ts n
  if rest.all (· = .documentEnd) then return t else none

end SecretConfig.Yaml
