import SecretConfig.Url.Host

set_option autoImplicit false

/-! # Absolute URLs

`Url.parse?` reads an absolute URL the way browsers do: blanks and control characters around
it are dropped, and so are tabs and line breaks inside. The schemes `http`, `https`, `ws`,
`wss` and `ftp` always have a host, whatever the number of slashes in front of it; a `file`
URL may have one; any other scheme has one after two slashes. `Url.text` writes a URL in its
normal form, with the default port left out and dot segments resolved. -/

namespace SecretConfig

/-- An absolute URL. The parts are kept as they are written, percent encoded. -/
structure Url where
  scheme : String
  /-- The user and the password, with the sign that ends them. -/
  user : List Char := []
  /-- The host; a URL with two slashes may have an empty one. -/
  host : Option (List Char) := none
  port : Option Nat := none
  path : List Char
  query : Option (List Char) := none
  fragment : Option (List Char) := none
deriving DecidableEq, Repr, Inhabited

namespace Url

/-! ## Schemes -/

/-- The schemes that always have a host, with the port that each has by default. -/
def defaultPorts : List (String × Nat) :=
  [("http", 80), ("https", 443), ("ws", 80), ("wss", 443), ("ftp", 21)]

/-- The port of a scheme by default. -/
def defaultPort? (scheme : String) : Option Nat := defaultPorts.lookup scheme

/-- The URLs of the scheme have a known shape. -/
def isSpecial (scheme : String) : Bool := (defaultPort? scheme).isSome || scheme = "file"

/-- A character of a scheme after its first. -/
def isSchemeChar (c : Char) : Bool := c.isAlphanum || c ∈ "+-.".toList

/-- The scheme in lower case, and what follows its colon. -/
def scheme? (cs : List Char) : Option (String × List Char) :=
  match cs with
  | c :: _ =>
    if c.isAlpha then
      match cs.dropWhile isSchemeChar with
      | ':' :: rest => some (String.ofList ((cs.takeWhile isSchemeChar).map Char.toLower), rest)
      | _ => none
    else none
  | [] => none

/-! ## Characters -/

/-- A slash, or a backslash where it counts as one. -/
def isSlash (special : Bool) (c : Char) : Bool := c = '/' || (special && c = '\\')

/-- The character ends an authority. -/
def endsAuthority (special : Bool) (c : Char) : Bool := isSlash special c || c = '?' || c = '#'

/-- The character is encoded in a fragment. -/
def isEncodedInFragment (c : Char) : Bool := isControl c || c ∈ " \"<>`".toList

/-- The character is encoded in a query. -/
def isEncodedInQuery (special : Bool) (c : Char) : Bool :=
  isControl c || c ∈ " \"#<>".toList || (special && c = '\'')

/-- The character is encoded in a path. -/
def isEncodedInPath (c : Char) : Bool := isEncodedInFragment c || c ∈ "#?\x7b\x7d".toList

/-- The character is encoded in a user name or a password. -/
def isEncodedInUser (c : Char) : Bool := isEncodedInPath c || c ∈ "/:;=@[\\]^|".toList

/-! ## Authorities -/

/-- Split at the last separator. -/
def splitLast (sep : Char) (cs : List Char) : Option (List Char × List Char) :=
  let tail := cs.reverse.takeWhile (· ≠ sep)
  match cs.reverse.drop tail.length with
  | _ :: front => some (front.reverse, tail.reverse)
  | [] => none

/-- The user and the password in written form: an empty password is left out, and so is the
sign that ends them when both are empty. -/
def userText (cs : List Char) : List Char :=
  let name := encode isEncodedInUser (cs.takeWhile (· ≠ ':'))
  let password := encode isEncodedInUser ((cs.dropWhile (· ≠ ':')).drop 1)
  if name.isEmpty ∧ password.isEmpty then []
  else name ++ (if password.isEmpty then [] else ':' :: password) ++ ['@']

/-- Split the host from its port: a colon in brackets belongs to the host. -/
def splitHost : List Char → Bool → List Char × List Char
  | [], _ => ([], [])
  | c :: rest, inside =>
    if c = ':' ∧ inside = false then ([], c :: rest)
    else
      let (host, port) := splitHost rest (if c = '[' then true else if c = ']' then false else inside)
      (c :: host, port)

/-- The port after a colon: absent when there are no digits. -/
def port? : List Char → Except UrlFault (Option Nat)
  | ':' :: ds =>
    if ds.all Char.isDigit then
      let n := Json.Document.ofDigits (ds.map fun c => c.toNat - '0'.toNat)
      if ds.isEmpty then .ok none else if n < UInt16.size then .ok (some n) else .error .badPort
    else .error .badPort
  | _ => .ok none

/-- The user, host and port of an authority. -/
def authority? (scheme : String) (cs : List Char) :
    Except UrlFault (List Char × List Char × Option Nat) := do
  let special := isSpecial scheme
  let (user, hostPort) := match splitLast '@' cs with
    | some (front, back) => (userText front, back)
    | none => ([], cs)
  let (host, port) := splitHost hostPort false
  if host.isEmpty ∧ (special ∨ !user.isEmpty ∨ !port.isEmpty) then throw .emptyHost
  let host ← if special then host? host else opaqueHost? host
  let port ← port? port
  return (user, host, if port = defaultPort? scheme then none else port)

/-! ## Paths -/

/-- The segment stands for the place it is in. -/
def isSingleDot (s : List Char) : Bool := String.ofList (s.map Char.toLower) ∈ [".", "%2e"]

/-- The segment stands for the place above. -/
def isDoubleDot (s : List Char) : Bool :=
  String.ofList (s.map Char.toLower) ∈ ["..", ".%2e", "%2e.", "%2e%2e"]

/-- Split a path into segments at its slashes. -/
def segments (special : Bool) (cs : List Char) : List (List Char) :=
  splitOn '/' (cs.map fun c => if isSlash special c then '/' else c)

/-- Resolve the dot segments; those done are kept in reverse. A dot segment at the end
leaves an empty one. -/
def resolveDots : List (List Char) → List (List Char) → List (List Char)
  | [], done => done.reverse
  | s :: rest, done =>
    let last := rest.isEmpty
    if isDoubleDot s then resolveDots rest (if last then [] :: done.drop 1 else done.drop 1)
    else if isSingleDot s then resolveDots rest (if last then [] :: done else done)
    else resolveDots rest (encode isEncodedInPath s :: done)

/-- The path in its normal form; one that is not empty starts with a slash. -/
def pathText (special : Bool) (cs : List Char) : List Char :=
  match cs with
  | [] => if special then ['/'] else []
  | c :: rest =>
    let body := if isSlash special c then rest else c :: rest
    (resolveDots (segments special body) []).flatMap ('/' :: ·)

/-! ## Reading and writing -/

/-- The part up to a character, and the part after it where there is one. -/
def splitFirst (sep : Char) (cs : List Char) : List Char × Option (List Char) :=
  match cs.dropWhile (· ≠ sep) with
  | _ :: rest => (cs.takeWhile (· ≠ sep), some rest)
  | [] => (cs, none)

/-- Add the query and the fragment that follow a path. -/
def withTail (u : Url) (special : Bool) (query fragment : Option (List Char)) : Url :=
  { u with
    query := query.map (encode (isEncodedInQuery special))
    fragment := fragment.map (encode isEncodedInFragment) }

/-- The URL of a scheme and what stands between it and the query. -/
def ofBody? (scheme : String) (cs : List Char) : Except UrlFault Url :=
  let special := isSpecial scheme
  let split := fun (rest : List Char) =>
    (rest.takeWhile (fun c => !endsAuthority special c),
     rest.dropWhile (fun c => !endsAuthority special c))
  if scheme = "file" then
    match cs with
    | a :: b :: rest =>
      if isSlash true a ∧ isSlash true b then
        let (host, path) := split rest
        if host.isEmpty then .ok { scheme, host := some [], path := pathText true path }
        else do
          let host ← host? host
          return { scheme, host := some (if host = "localhost".toList then [] else host),
                   path := pathText true path }
      else .ok { scheme, host := some [], path := pathText true cs }
    | _ => .ok { scheme, host := some [], path := pathText true cs }
  else if special then do
    let (authority, path) := split (cs.dropWhile (isSlash true))
    let (user, host, port) ← authority? scheme authority
    return { scheme, user, host := some host, port, path := pathText true path }
  else
    match cs with
    | '/' :: '/' :: rest => do
      let (authority, path) := split rest
      let (user, host, port) ← authority? scheme authority
      return { scheme, user, host := some host, port, path := pathText false path }
    | '/' :: _ => .ok { scheme, path := pathText false cs }
    | _ => .ok { scheme, path := encode isControl cs }

/-- Read an absolute URL. -/
def parse? (s : String) : Except UrlFault Url :=
  let cs := (Text.stripChars (fun c => c.toNat ≤ 0x20) s.toList).filter
    (fun c => c ∉ ['\t', '\n', '\r'])
  match scheme? cs with
  | none => .error .noScheme
  | some (scheme, rest) => do
    let (body, fragment) := splitFirst '#' rest
    let (body, query) := splitFirst '?' body
    let u ← ofBody? scheme body
    return u.withTail (isSpecial scheme) query fragment

/-- The host is there and not empty. -/
def hasHost (u : Url) : Bool := u.host.any (fun h => !h.isEmpty)

/-- The path and the query, as a request names them. -/
def target (u : Url) : String :=
  String.ofList (u.path ++ (u.query.map ('?' :: ·)).getD [])

/-- The URL in its normal form. -/
def text (u : Url) : String :=
  let authority := match u.host with
    | none => []
    | some h =>
      '/' :: '/' :: u.user ++ h ++ (u.port.map fun p => ':' :: (toString p).toList).getD []
  let fragment := (u.fragment.map ('#' :: ·)).getD []
  u.scheme ++ ":" ++ String.ofList authority ++ u.target ++ String.ofList fragment

end Url

end SecretConfig
