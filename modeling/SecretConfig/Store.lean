import SecretConfig.Store.Memory
import SecretConfig.Vault.Client

set_option autoImplicit false

/-! # Stores

A store is a store in memory or a server behind a network. Each operation gives the answer and
the store after it; only a store in memory changes. -/

namespace SecretConfig

/-- Where secrets are kept. -/
inductive Store where
  | memory (store : MemoryStore)
  | remote (client : Vault.Client) (network : Vault.Network)
deriving Inhabited

/-- What a session asks of a store. -/
inductive SessionRequest where
  | login (flow : LoginFlow)
  /-- A login that could not be written down. -/
  | unsent (fault : AuthenticationFault)
  | renewal (token : Token)
  | revocation (token : Token)
deriving DecidableEq, Inhabited

namespace Store

/-! ## Delays -/

/-- How long a login takes. -/
def loginDelay : Store → Duration
  | memory m => m.loginDelay
  | remote _ _ => 0

/-- How long a renewal takes. -/
def renewalDelay : Store → Duration
  | memory m => m.renewalDelay
  | remote _ _ => 0

/-- How long a read of a path takes. -/
def readDelay : Store → String → Duration
  | memory m, path => m.readDelay path
  | remote _ _, _ => 0

/-- How long a request of a session takes. -/
def delay (s : Store) : SessionRequest → Duration
  | .login _ => s.loginDelay
  | .renewal _ => s.renewalDelay
  | .unsent _ | .revocation _ => 0

/-! ## Operations -/

/-- A login. -/
def login (s : Store) (flow : LoginFlow) : Except StoreFault Grant × Store :=
  match s with
  | memory m =>
    let (answer, m) := m.login flow
    (answer, memory m)
  | remote client net => (client.login net flow, s)

/-- A renewal. -/
def renew (s : Store) (t : Token) : Except StoreFault Grant × Store :=
  match s with
  | memory m =>
    let (answer, m) := m.renew t
    (answer, memory m)
  | remote client net => (client.renew net t, s)

/-- A revocation. -/
def revoke (s : Store) (t : Token) : Except StoreFault Unit × Store :=
  match s with
  | memory m => (.ok (), memory (m.revoke t))
  | remote client net => (client.revoke net t, s)

/-- Take note of a path that is about to be read. -/
def recordRead (s : Store) (path : String) : Store :=
  match s with
  | memory m => memory (m.recordRead path)
  | remote _ _ => s

/-- A read. -/
def read (s : Store) (path : String) (t : Token) : ReadAnswer :=
  match s with
  | memory m => m.read path t
  | remote client net => client.read net path t

/-- A write. -/
def write (s : Store) (path : String) (t : Token) (data : Dict Json) :
    Except StoreFault Unit × Store :=
  match s with
  | memory m =>
    let (answer, m) := m.write path t data
    (answer, memory m)
  | remote client net => (client.write net path t data, s)

/-- The answer to a grant. -/
def answerOf : Except StoreFault Grant → Answer
  | .ok g => .granted g
  | .error fault => .refused fault

/-- The answer to a request of a session. -/
def answer (s : Store) : SessionRequest → Answer × Store
  | .login flow =>
    let (outcome, s) := s.login flow
    (answerOf outcome, s)
  | .unsent fault => (.unsent fault, s)
  | .renewal t =>
    let (outcome, s) := s.renew t
    (answerOf outcome, s)
  | .revocation t =>
    match s.revoke t with
    | (.ok _, s) => (.revoked, s)
    | (.error fault, s) => (.refused fault, s)

end Store

end SecretConfig
