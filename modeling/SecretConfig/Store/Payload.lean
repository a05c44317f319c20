import SecretConfig.Backend.Resolution
import SecretConfig.Property.Layer
import SecretConfig.Store.Fault

set_option autoImplicit false

/-! # Payloads

What a store answers to a successful read: an object, and a lease for secrets that expire. -/

namespace SecretConfig

/-- What a store holds at a path. -/
structure Payload where
  data : Dict Json
  lease : Option Lease := none
deriving DecidableEq, Inhabited

namespace Payload

/-- A payload without a lease; only an object has members. -/
def ofJson (v : Json) : Payload := ⟨v.toDict, none⟩

/-- The secret in a payload: all of it, or the object that is its member `data`. -/
def unwrap? (p : Payload) : PayloadLayout → Option Payload
  | .flat => some p
  | .versioned =>
    match p.data.get? "data" with
    | some (.obj fields) => some ⟨Dict.ofList fields, p.lease⟩
    | _ => none

end Payload

/-- What comes back for a read: a payload, nothing, or a fault. -/
abbrev ReadAnswer := Except StoreFault (Option Payload)

end SecretConfig
