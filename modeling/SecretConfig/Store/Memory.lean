import SecretConfig.Auth.Strategy
import SecretConfig.Session.Machine
import SecretConfig.Store.Payload

set_option autoImplicit false

/-! # A store in memory

`MemoryStore` answers like a server with one lease for all tokens. Faults and delays can be
put into it, and it keeps a record of how it was used.

An operation whose answer is delayed has its effect when the answer comes, not when it was
asked for; only the path of a read is recorded at once. The functions below are what happens
at the end of the delay. A token that was revoked is refused from then on. -/

namespace SecretConfig

/-- A store in memory. -/
structure MemoryStore where
  secrets : Dict Payload := Dict.empty
  /-- The lease of issued tokens. -/
  lease : Duration := 60000
  /-- Issued and renewed tokens can be renewed. -/
  renewable : Bool := true
  /-- The lease that a renewal grants, where it is another one. -/
  renewalLease : Option Duration := none
  loginDelay : Duration := 0
  renewalDelay : Duration := 0
  /-- The faults of the next logins, each for one. -/
  loginFailures : List StoreFault := []
  /-- The faults of the next renewals, each for one. -/
  renewalFailures : List StoreFault := []
  /-- The faults of all reads of a path. -/
  readFailures : Dict StoreFault := Dict.empty
  readDelays : Dict Duration := Dict.empty
  /-- How many logins have ended. -/
  logins : Nat := 0
  /-- How many renewals have ended. -/
  renewals : Nat := 0
  /-- The values of revoked tokens in the order of their revocation. -/
  revoked : List String := []
  /-- The paths that were asked for, in order. -/
  reads : List String := []
deriving DecidableEq, Inhabited

namespace MemoryStore

/-- What is put into a store from outside, also while others use it. -/
inductive Script where
  /-- The next login that no other fault waits for fails. -/
  | failLogin (fault : StoreFault)
  /-- So many renewals fail, when those have failed that are to. -/
  | failRenewals (count : Nat) (fault : StoreFault)
  /-- All reads of a path fail from now on. -/
  | failReads (path : String) (fault : StoreFault)
  | delayLogins (d : Duration)
  | delayRenewals (d : Duration)
  | delayReads (path : String) (d : Duration)
  | insert (path : String) (p : Payload)
  | remove (path : String)
deriving Inhabited

/-- The refusal of a token that was revoked. -/
def refusal : StoreFault := .unauthorized "token has been revoked"

/-- The value of the token that the login of a number issues. -/
def issuedValue (n : Nat) : String := "mem-token-" ++ toString n

/-- The value was revoked. -/
def isRevoked (s : MemoryStore) (value : String) : Bool := value ∈ s.revoked

/-- Put a payload at a path. -/
def insert (s : MemoryStore) (path : String) (p : Payload) : MemoryStore :=
  { s with secrets := s.secrets.insert path p }

/-- Put the payload of a value at each path. -/
def withSecrets (s : MemoryStore) (secrets : List (String × Json)) : MemoryStore :=
  secrets.foldl (fun s e => s.insert e.1 (Payload.ofJson e.2)) s

/-- Take away what stands at a path. -/
def remove (s : MemoryStore) (path : String) : MemoryStore :=
  { s with secrets := s.secrets.erase path }

/-- Carry out a step of a script. -/
def script (s : MemoryStore) : Script → MemoryStore
  | .failLogin fault => { s with loginFailures := s.loginFailures ++ [fault] }
  | .failRenewals count fault =>
    { s with renewalFailures := s.renewalFailures ++ List.replicate count fault }
  | .failReads path fault => { s with readFailures := s.readFailures.insert path fault }
  | .delayLogins d => { s with loginDelay := d }
  | .delayRenewals d => { s with renewalDelay := d }
  | .delayReads path d => { s with readDelays := s.readDelays.insert path d }
  | .insert path p => s.insert path p
  | .remove path => s.remove path

/-- Record that a path was asked for. -/
def recordRead (s : MemoryStore) (path : String) : MemoryStore :=
  { s with reads := s.reads ++ [path] }

/-- How long a read of a path takes. -/
def readDelay (s : MemoryStore) (path : String) : Duration := (s.readDelays.get? path).getD 0

/-- A grant with the lease of issued tokens. -/
def grant (s : MemoryStore) (value : String) : Grant := ⟨value, s.lease, s.renewable⟩

/-- A login: the next fault, a configured token unless it was revoked, or a new token. -/
def login (s : MemoryStore) (flow : LoginFlow) : Except StoreFault Grant × MemoryStore :=
  let s := { s with logins := s.logins + 1 }
  match s.loginFailures with
  | fault :: rest => (.error fault, { s with loginFailures := rest })
  | [] =>
    match flow with
    | .static t => (if s.isRevoked t.value then .error refusal else .ok (s.grant t.value), s)
    | .login _ _ _ => (.ok (s.grant (issuedValue s.logins)), s)

/-- A renewal: the next fault, or a lease for a token that can be renewed and was not
revoked. -/
def renew (s : MemoryStore) (t : Token) : Except StoreFault Grant × MemoryStore :=
  let s := { s with renewals := s.renewals + 1 }
  match s.renewalFailures with
  | fault :: rest => (.error fault, { s with renewalFailures := rest })
  | [] =>
    if s.isRevoked t.value.value then (.error refusal, s)
    else if t.renewable then
      (.ok ⟨t.value.value, s.renewalLease.getD s.lease, s.renewable⟩, s)
    else (.error (.invalidRequest "token is not renewable"), s)

/-- Revoke a token. -/
def revoke (s : MemoryStore) (t : Token) : MemoryStore :=
  { s with revoked := s.revoked ++ [t.value.value] }

/-- A read of a path with a token. -/
def read (s : MemoryStore) (path : String) (t : Token) : ReadAnswer :=
  match s.readFailures.get? path with
  | some fault => .error fault
  | none => if s.isRevoked t.value.value then .error refusal else .ok (s.secrets.get? path)

/-- Write an object at a path with a token. -/
def write (s : MemoryStore) (path : String) (t : Token) (data : Dict Json) :
    Except StoreFault Unit × MemoryStore :=
  if s.isRevoked t.value.value then (.error refusal, s)
  else (.ok (), s.insert path ⟨data, none⟩)

end MemoryStore

end SecretConfig
