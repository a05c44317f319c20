import SecretConfig.Secret

set_option autoImplicit false

/-! # Tokens and session states

Instants and durations are counted in milliseconds, instants from the start of a run. The
clock ends at `Instant.last`; an instant beyond it cannot be computed, and whoever tries ends
with a `ClockFault`.

A lease of zero never ends. A token is expired from the instant at which its lease ends on. -/

namespace SecretConfig

/-- Milliseconds since the start of a run. -/
abbrev Instant := Nat

/-- A length of time in milliseconds. -/
abbrev Duration := Nat

/-- An instant that the clock cannot represent. -/
inductive ClockFault where
  | overflow
deriving DecidableEq, Repr, Inhabited

/-- The last instant of the clock, the millisecond before `2 ^ 63 - 1` seconds. -/
def Instant.last : Instant := (Nat.pow 2 63 - 1) * 1000 - 1

/-- The instant a length of time after another. -/
def Instant.after (start : Instant) (d : Duration) : Except ClockFault Instant :=
  if start + d ≤ Instant.last then .ok (start + d) else .error .overflow

/-- How a token came into being. -/
inductive Origin where
  /-- Issued for a login. -/
  | login
  /-- Configured. -/
  | static
deriving DecidableEq, Repr, Inhabited

/-- The name of an origin. -/
def Origin.name : Origin → String
  | login => "login"
  | static => "static"

/-- A credential for the store. -/
structure Token where
  value : Secret
  /-- How long the token is good for; zero is for ever. -/
  lease : Duration
  /-- The store is willing to renew the token. -/
  renewable : Bool
  issuedAt : Instant
  origin : Origin
deriving DecidableEq, Inhabited

namespace Token

/-- Renewing makes sense: the store is willing and the lease ends. -/
def isRenewable (t : Token) : Bool := t.renewable && t.lease ≠ 0

/-- When the lease ends, if it does. -/
def expiresAt (t : Token) : Except ClockFault (Option Instant) :=
  if t.lease = 0 then .ok none else (Instant.after t.issuedAt t.lease).map some

/-- The lease has ended. -/
def isExpired (t : Token) (now : Instant) : Except ClockFault Bool :=
  t.expiresAt.map fun e => match e with
    | none => false
    | some e => decide (e ≤ now)

/-- What is left of the lease, if it ends. -/
def remaining (t : Token) (now : Instant) : Except ClockFault (Option Duration) :=
  t.expiresAt.map fun e => e.map (· - now)

/-- The same credential with a lease granted now. -/
def renewed (t : Token) (lease : Duration) (renewable : Bool) (now : Instant) : Token :=
  { t with lease, renewable, issuedAt := now }

end Token

/-- The state of a session. -/
inductive SessionState where
  | unauthenticated
  | valid (token : Token)
  /-- A renewal is in flight; the token can be used. -/
  | renewing (token : Token)
  | expired
deriving DecidableEq, Inhabited

namespace SessionState

/-- The token of a state. -/
def token? : SessionState → Option Token
  | valid t | renewing t => some t
  | unauthenticated | expired => none

/-- The name of a state. -/
def name : SessionState → String
  | unauthenticated => "unauthenticated"
  | valid _ => "valid"
  | renewing _ => "renewing"
  | expired => "expired"

/-- The names of all states. -/
def names : List String := ["unauthenticated", "valid", "renewing", "expired"]

end SessionState

end SecretConfig
