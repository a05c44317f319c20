import SecretConfig.Json.Document

set_option autoImplicit false

/-! # The bodies of answers

Every answer has one of a few shapes. A record is an object, in which a known member must not
be repeated and an unknown one is skipped, or an array of its members in order. Members that
are left out have a default.

What is skipped need not have a text: a string there may hold a lone surrogate, or bytes that
are no characters. -/

namespace SecretConfig.Vault

open Json (Document)

/-! ## Reading members -/

/-- The members with the given names, of which each may be there once. All keys need a text. -/
def named? (names : List String) (fields : List (Option String × Document)) :
    Option (List (Option Document)) :=
  if fields.all fun f => f.1.isSome then
    names.mapM fun n =>
      match fields.filter (fun f => f.1 = some n) with
      | [] => some none
      | [f] => some (some f.2)
      | _ => none
  else none

/-- The members of a record by the given names. -/
def members? (names : List String) : Document → Option (List (Option Document))
  | .obj fields => named? names fields
  | .arr items =>
    if items.length ≤ names.length then
      some (items.map some ++ List.replicate (names.length - items.length) none)
    else none
  | _ => none

/-- A text. -/
def text? : Document → Option String
  | .str s => s
  | _ => none

/-- A truth value. -/
def bool? : Document → Option Bool
  | .bool b => some b
  | _ => none

/-- A natural number of 64 bits. -/
def nat? : Document → Option Nat
  | .num n =>
    match n.value? with
    | some (.int i) => if 0 ≤ i then some i.toNat else none
    | _ => none
  | _ => none

/-- The values of all items. -/
def texts? : Document → Option (List String)
  | .arr items => items.mapM text?
  | _ => none

/-- A member that takes a default when it is left out. -/
def orDefault {α : Type} (default : α) (read : Document → Option α) :
    Option Document → Option α
  | none => some default
  | some d => read d

/-- A member that may be left out or null. -/
def orNull {α : Type} (read : Document → Option α) : Option Document → Option (Option α)
  | none | some .null => some none
  | some d => (read d).map some

/-- A value that nests at most so deep that the whole body keeps within the limit. -/
def value? (d : Document) : Option Json := if d.depth < Json.maxDepth then d.value? else none

/-! ## The shapes -/

/-- What a login or a renewal grants; times are in seconds. -/
structure AuthBlock where
  clientToken : String := ""
  leaseSeconds : Nat := 0
  renewable : Bool := false
deriving DecidableEq, Repr, Inhabited

/-- What is known about a token. -/
structure TokenLookup where
  ttlSeconds : Nat := 0
  renewable : Bool := false
deriving DecidableEq, Repr, Inhabited

/-- The frame of all answers. -/
structure Envelope where
  data : Option Json := none
  auth : Option AuthBlock := none
  leaseId : String := ""
  leaseSeconds : Nat := 0
  renewable : Bool := false
deriving DecidableEq, Inhabited

/-- Read what a login grants. -/
def AuthBlock.ofDocument? (d : Document) : Option AuthBlock := do
  let [token, lease, renewable] ←
    members? ["client_token", "lease_duration", "renewable"] d | none
  return ⟨← orDefault "" text? token, ← orDefault 0 nat? lease, ← orDefault false bool? renewable⟩

/-- Read an answer. -/
def Envelope.ofDocument? (d : Document) : Option Envelope := do
  let [data, auth, leaseId, lease, renewable] ←
    members? ["data", "auth", "lease_id", "lease_duration", "renewable"] d | none
  return {
    data := ← orNull value? data
    auth := ← orNull AuthBlock.ofDocument? auth
    leaseId := ← orDefault "" text? leaseId
    leaseSeconds := ← orDefault 0 nat? lease
    renewable := ← orDefault false bool? renewable }

/-- Read what is known about a token from the data of an answer. -/
def TokenLookup.ofJson? (v : Json) : Option TokenLookup := do
  let (ttl, renewable) ← match v with
    | .obj fields => some (Entries.get? "ttl" fields, Entries.get? "renewable" fields)
    | .arr items => if items.length ≤ 2 then some (items[0]?, items[1]?) else none
    | _ => none
  let ttlSeconds ← match ttl with
    | none => some 0
    | some (.num (.int i)) => if 0 ≤ i then some i.toNat else none
    | some _ => none
  let renewable ← match renewable with
    | none => some false
    | some (.bool b) => some b
    | some _ => none
  return { ttlSeconds, renewable }

/-- The characters from a place on. A byte that belongs to no character is given as an escape
that has no text, behind a character that may stand nowhere but in a string. -/
def charsFrom (bytes : ByteArray) : Nat → Nat → List Char
  | 0, _ => []
  | fuel + 1, i =>
    if i < bytes.size then
      match bytes.utf8DecodeChar? i with
      | some c => c :: charsFrom bytes fuel (i + c.utf8Size)
      | none =>
        ['\ufffd', '\\', 'u', 'd', 'c', '0', '0'] ++ charsFrom bytes fuel (i + 1)
    else []

/-- The text of a body. -/
def bodyText (bytes : ByteArray) : String :=
  (String.fromUTF8? bytes).getD (String.ofList (charsFrom bytes bytes.size 0))

/-- Read the body of an answer. -/
def Envelope.ofBytes? (bytes : ByteArray) : Option Envelope :=
  (Document.read? (bodyText bytes)).bind ofDocument?

/-- The messages in the body of a refusal; a body of another shape has none. -/
def errorsOf (bytes : ByteArray) : List String :=
  let read := fun d => do
    let [errors] ← members? ["errors"] d | none
    orDefault [] texts? errors
  ((Document.read? (bodyText bytes)).bind read).getD []

end SecretConfig.Vault
