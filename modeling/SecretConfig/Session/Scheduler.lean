import SecretConfig.Session.Machine
import SecretConfig.Session.Policy

set_option autoImplicit false

/-! # The renewal scheduler

A scheduler keeps a session's token fresh. It looks at the published state, waits until the
policy wants the token renewed, and then makes an attempt: it renews, and it logs in when the
new lease has become both shorter and no longer than the threshold, for then the token is close
to its greatest age. A change of the published state ends the wait, and the scheduler looks
again. Attempts start at least `RenewalPolicy.retryInterval` apart.

A scheduler that was cancelled stops where it would wait; an attempt under way is finished
first. Where several things can end a wait at one instant, any of them may: `Scheduler.wake` says
what follows from each, and nothing here prefers one. -/

namespace SecretConfig

/-- Where a scheduler stands. -/
inductive Scheduler.Phase where
  /-- About to look at the published state. -/
  | looking
  /-- Waiting for an instant, if any, or for a change. -/
  | waiting (fireAt : Option Instant)
  /-- Renewing a token whose lease was `before`; the reply has come or not. -/
  | renewing (before : Option Duration) (reply : Option Reply)
  /-- Logging in again. -/
  | relogging (reply : Option Reply)
  | stopped
deriving DecidableEq, Inhabited

/-- What can end a wait. -/
inductive Scheduler.Cause where
  /-- The scheduler was asked to stop. -/
  | cancelled
  /-- The published state has changed. -/
  | changed
  /-- It is time for an attempt. -/
  | timer
deriving DecidableEq, Repr, Inhabited

/-- A scheduler. -/
structure Scheduler where
  policy : RenewalPolicy
  cancelled : Bool := false
  /-- The version of the session that was last looked at. -/
  seen : Nat := 0
  /-- When the last attempt started. -/
  lastAttempt : Option Instant := none
  phase : Scheduler.Phase := .looking
deriving DecidableEq, Inhabited

namespace Scheduler

/-- The scheduler has come to its end. -/
def isStopped (s : Scheduler) : Bool := s.phase = .stopped

/-- When to make the next attempt while a state is published. -/
def fireAt (s : Scheduler) (state : SessionState) : Except ClockFault (Option Instant) :=
  match state.token? with
  | none => .ok none
  | some t =>
    match s.policy.nextRenewalAt t with
    | .error fault => .error fault
    | .ok none => .ok none
    | .ok (some due) =>
      match s.lastAttempt with
      | none => .ok (some due)
      | some previous =>
        (Instant.after previous s.policy.retryInterval).map fun next => some (max due next)

/-- Look at the published state and start to wait. -/
def look (s : Scheduler) (session : Session) : Scheduler :=
  match s.fireAt session.state with
  | .ok due => { s with seen := session.version, phase := .waiting due }
  | .error _ => { s with seen := session.version, phase := .stopped }

/-- Start an attempt, for which the session is asked to renew its token. -/
def fire (s : Scheduler) (now : Instant) (session : Session) : Scheduler :=
  { s with
      lastAttempt := some now
      phase := .renewing (session.state.token?.map Token.lease) none }

/-- The renewed lease shows that the token is close to its greatest age. -/
def isLastLease (p : RenewalPolicy) (before : Option Duration) (t : Token) : Bool :=
  before.any (fun lease => t.lease < lease) && t.lease ≤ p.threshold

/-- Take a reply of the session. -/
def deliver (s : Scheduler) (reply : Reply) : Scheduler :=
  match s.phase with
  | .renewing before _ => { s with phase := .renewing before (some reply) }
  | .relogging _ => { s with phase := .relogging (some reply) }
  | _ => s

/-- The end of a wait: where the scheduler stands then, and what it asks of the session. `none`
while it does not wait, or the cause is not there. -/
def wake (s : Scheduler) (now : Instant) (session : Session) (cause : Cause) :
    Option (Scheduler × Option Call) :=
  match s.phase, cause with
  | .waiting _, .cancelled =>
    if s.cancelled then some ({ s with phase := .stopped }, none) else none
  | .waiting _, .changed =>
    if s.seen ≠ session.version then some ({ s with phase := .looking }, none) else none
  | .waiting (some due), .timer =>
    if due ≤ now then some (s.fire now session, some .renew) else none
  | _, _ => none

/-- One step of a scheduler that does not wait: where it stands then, and what it asks of the
session. `none` while it has to wait, for the end of its wait or for a reply. -/
def step (s : Scheduler) (session : Session) : Option (Scheduler × Option Call) :=
  match s.phase with
  | .looking => some (s.look session, none)
  | .renewing before (some (.token t)) =>
    if isLastLease s.policy before t then
      some ({ s with phase := .relogging none }, some .login)
    else some ({ s with phase := .looking }, none)
  | .renewing _ (some (.crashed _)) | .relogging (some (.crashed _)) =>
    some ({ s with phase := .stopped }, none)
  | .renewing _ (some _) | .relogging (some _) => some ({ s with phase := .looking }, none)
  | .waiting _ | .renewing _ none | .relogging none | .stopped => none

end Scheduler

end SecretConfig
