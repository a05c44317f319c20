set_option autoImplicit false

/-! # Faults of the secret store

What a store can answer in place of a result. Unavailability and running out of time may
clear up on their own, so these two are transient. -/

namespace SecretConfig

/-- Why a store gave no result. -/
inductive StoreFault where
  /-- The credentials or the token were refused. -/
  | unauthorized (message : String)
  /-- Nothing is stored at the path. -/
  | notFound (path : String)
  /-- The store was not reached or could not serve. -/
  | unavailable (message : String)
  /-- No answer came within the time allowed, in milliseconds. -/
  | timeout (operation : String) (duration : Nat)
  /-- The answer makes no sense. -/
  | invalidResponse (message : String)
  /-- The request was refused as malformed. -/
  | invalidRequest (message : String)
deriving DecidableEq, Repr, Inhabited

namespace StoreFault

/-- The text of a fault. -/
def message : StoreFault → String
  | unauthorized m => "Unauthorized: " ++ m
  | notFound p => "Secret not found: " ++ p
  | unavailable m => "Secret store unavailable: " ++ m
  | timeout op ms => "Operation '" ++ op ++ "' timed out after " ++ toString ms ++ "ms"
  | invalidResponse m => "Invalid response from secret store: " ++ m
  | invalidRequest m => "Invalid request: " ++ m

/-- The fault may clear up on its own. -/
def isTransient : StoreFault → Bool
  | unavailable _ | timeout _ _ => true
  | _ => false

/-- The store refused the credentials or the token. -/
def isUnauthorized : StoreFault → Bool
  | unauthorized _ => true
  | _ => false

/-- Nothing was stored at the path. -/
def isNotFound : StoreFault → Bool
  | notFound _ => true
  | _ => false

/-- The greatest count of milliseconds that a fault reports; a greater one is taken modulo its
successor. -/
def maxMillis : Nat := UInt64.size - 1

/-- An operation that did not end within a limit in milliseconds. -/
def timedOutAfter (operation : String) (limit : Nat) : StoreFault :=
  timeout operation (limit % (maxMillis + 1))

end StoreFault

end SecretConfig
