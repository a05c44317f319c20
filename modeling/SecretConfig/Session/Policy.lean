import SecretConfig.Session.Token

set_option autoImplicit false

/-! # When to renew a token

A token is renewed some time before its lease ends, but never sooner than a least interval
after it was issued, and two attempts are at least that interval and at least a second
apart. -/

namespace SecretConfig

/-- When to renew a token. -/
structure RenewalPolicy where
  /-- Renew at all. -/
  enabled : Bool := true
  /-- How long before the end of the lease. -/
  threshold : Duration := 5000
  /-- How long after the issue, or after the attempt before, at the least. -/
  minInterval : Duration := 1000
deriving DecidableEq, Repr, Inhabited

namespace RenewalPolicy

/-- Never renew. -/
def disabled : RenewalPolicy := { enabled := false }

/-- The least distance of two attempts, whatever the policy. -/
def retryFloor : Duration := 1000

/-- The distance kept between two attempts. -/
def retryInterval (p : RenewalPolicy) : Duration := max p.minInterval retryFloor

/-- When to renew a token, if ever. -/
def nextRenewalAt (p : RenewalPolicy) (t : Token) : Except ClockFault (Option Instant) :=
  if p.enabled && t.isRenewable then
    (Instant.after t.issuedAt (max (t.lease - p.threshold) p.minInterval)).map some
  else .ok none

end RenewalPolicy

end SecretConfig
