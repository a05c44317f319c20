import SecretConfig.Auth.Strategy
import SecretConfig.Session.Token

set_option autoImplicit false

/-! # The session machine

A session owns the current token and publishes its state. Calls on it run concurrently:
`Session.step` is one atomic step of one of them, from one point at which it waits to the
next, and the events of a step say what others can see of it.

* A call that needs the store first takes the guard. Guards are handed on in the order of
  asking, so at most one login, renewal or revocation is in flight (`Session.active`).
* `getToken` takes no guard while the published token is good, and looks again once it has
  it, so callers that arrive during a login share its result.
* A renewal publishes `renewing` before it asks the store and `valid` or `expired` after.
* A login replaces the token; one that was itself issued for a login, and differs, is revoked.
* Every request is given up `Session.timeout` after it was sent.

A call may be dropped wherever it waits. Whatever it published stays. -/

namespace SecretConfig

/-- The identity of a call. -/
abbrev CallId := Nat

/-- What is asked of a session. -/
inductive Call where
  /-- A good token, with a login where there is none. -/
  | getToken
  /-- A login, whatever token there is. -/
  | login
  /-- A fresh lease for the token. -/
  | renew
  /-- The end of the session, with or without revoking its token. -/
  | shutdown (revoke : Bool)
deriving DecidableEq, Repr, Inhabited

/-- How a call ends. -/
inductive Reply where
  | token (t : Token)
  | failed (e : Error)
  | closed
  /-- An instant could not be computed. -/
  | crashed (fault : ClockFault)
deriving DecidableEq, Inhabited

/-- Where the call that holds the guard waits. -/
inductive Phase where
  /-- It was handed the guard and has not gone on yet. -/
  | granted (call : Call)
  /-- For the answer to a login; `forced` when it was asked for as such. -/
  | loggingIn (forced : Bool) (superseded : Option Token) (deadline : Instant)
  /-- For the answer to a renewal. -/
  | renewing (current : Token) (deadline : Instant)
  /-- For the answer to a revocation; the reply is settled already. -/
  | revoking (target : Token) (deadline : Instant) (reply : Reply)
deriving DecidableEq, Inhabited

/-- What a store grants. The value counts for a login only. -/
structure Grant where
  value : String
  lease : Duration
  renewable : Bool
deriving DecidableEq, Repr, Inhabited

/-- What comes back for a request. -/
inductive Answer where
  | granted (grant : Grant)
  | refused (fault : StoreFault)
  /-- The login could not even be written down. -/
  | unsent (fault : AuthenticationFault)
  /-- The token was revoked. -/
  | revoked
deriving DecidableEq, Repr, Inhabited

/-- What others can see of a step. -/
inductive Event where
  | published (state : SessionState)
  | loginSent (id : CallId) (forced : Bool)
  | renewalSent (id : CallId) (token : Token)
  | revocationSent (id : CallId) (token : Token)
  | loginEnded (success : Bool)
  | renewalEnded (success : Bool)
  | returned (id : CallId) (reply : Reply)
deriving DecidableEq, Inhabited

/-- A session with the calls that wait in it. -/
structure Session where
  strategy : Strategy
  /-- How long a request may take. -/
  timeout : Duration
  state : SessionState := .unauthenticated
  /-- How often a state was published. -/
  version : Nat := 0
  /-- The call that holds the guard. -/
  active : Option (CallId × Phase) := none
  /-- The calls that wait for the guard, in the order of asking. -/
  queue : List (CallId × Call) := []
deriving DecidableEq, Inhabited

/-- The token that a grant for a login makes: a configured token keeps its value. -/
def Strategy.accept (strategy : Strategy) (g : Grant) (now : Instant) : Token :=
  match strategy with
  | .token t => ⟨t, g.lease, g.renewable, now, .static⟩
  | _ => ⟨⟨g.value⟩, g.lease, g.renewable, now, .login⟩

namespace Session

/-! ## Parts of a step -/

/-- Publish a state. -/
def publish (s : Session) (state : SessionState) : Session :=
  { s with state, version := s.version + 1 }

/-- The published token while it is good. -/
def usable (s : Session) (now : Instant) : Except ClockFault (Option Token) :=
  match s.state.token? with
  | none => .ok none
  | some t => (t.isExpired now).map fun e => if e then none else some t

/-- Hand the guard on to the call that has waited longest. -/
def release (s : Session) : Session :=
  match s.queue with
  | [] => { s with active := none }
  | (id, call) :: rest => { s with active := some (id, .granted call), queue := rest }

/-- Ask for the guard; it is granted at once when nobody holds it. -/
def acquire (s : Session) (id : CallId) (call : Call) : Session :=
  match s.active with
  | none => { s with active := some (id, .granted call) }
  | some _ => { s with queue := s.queue ++ [(id, call)] }

/-- End the call that holds the guard. -/
def finish (s : Session) (id : CallId) (reply : Reply) : Session × List Event :=
  (s.release, [.returned id reply])

/-- Send a login. -/
def startLogin (s : Session) (now : Instant) (id : CallId) (forced : Bool) :
    Session × List Event :=
  ({ s with active := some (id, .loggingIn forced s.state.token? (now + s.timeout)) },
    [.loginSent id forced])

/-- Send a revocation, after which the call ends with a settled reply. -/
def startRevocation (s : Session) (now : Instant) (id : CallId) (target : Token)
    (reply : Reply) : Session × List Event :=
  ({ s with active := some (id, .revoking target (now + s.timeout) reply) },
    [.revocationSent id target])

/-- A call goes on with the guard in hand. -/
def proceed (s : Session) (now : Instant) (id : CallId) : Call → Session × List Event
  | .getToken =>
    match s.usable now with
    | .error fault => s.finish id (.crashed fault)
    | .ok (some t) => s.finish id (.token t)
    | .ok none =>
      if s.state.token?.isSome then
        let (s, events) := (s.publish .expired).startLogin now id false
        (s, .published .expired :: events)
      else s.startLogin now id false
  | .login => s.startLogin now id true
  | .renew =>
    match s.state.token? with
    | none => s.finish id (.failed (.renewal .noSession))
    | some current =>
      if current.isRenewable then
        ({ s.publish (.renewing current) with
            active := some (id, .renewing current (now + s.timeout)) },
          [.published (.renewing current), .renewalSent id current])
      else s.finish id (.token current)
  | .shutdown revoke =>
    let closed := s.publish .unauthenticated
    match s.state.token? with
    | some t =>
      if revoke && t.origin = .login then
        let (s, events) := closed.startRevocation now id t .closed
        (s, .published .unauthenticated :: events)
      else
        let (s, events) := closed.finish id .closed
        (s, .published .unauthenticated :: events)
    | none =>
      let (s, events) := closed.finish id .closed
      (s, .published .unauthenticated :: events)

/-- A login succeeded. -/
def loggedIn (s : Session) (now : Instant) (id : CallId) (superseded : Option Token)
    (g : Grant) : Session × List Event :=
  let t := s.strategy.accept g now
  let s := s.publish (.valid t)
  let (s, events) := match superseded with
    | some old =>
      if old.origin = .login ∧ old.value ≠ t.value then s.startRevocation now id old (.token t)
      else s.finish id (.token t)
    | none => s.finish id (.token t)
  (s, .published (.valid t) :: .loginEnded true :: events)

/-- A login failed. -/
def loginFailed (s : Session) (id : CallId) (fault : AuthenticationFault) :
    Session × List Event :=
  let (s, events) := s.finish id (.failed (.authentication fault))
  (s, .loginEnded false :: events)

/-- A renewal succeeded. -/
def renewed (s : Session) (now : Instant) (id : CallId) (current : Token) (g : Grant) :
    Session × List Event :=
  let t := current.renewed g.lease g.renewable now
  let (s, events) := (s.publish (.valid t)).finish id (.token t)
  (s, .published (.valid t) :: .renewalEnded true :: events)

/-- A renewal failed: the token stays while its lease lasts. -/
def renewalFailed (s : Session) (now : Instant) (id : CallId) (current : Token)
    (fault : StoreFault) : Session × List Event :=
  match current.isExpired now with
  | .error clock =>
    let (s, events) := s.finish id (.crashed clock)
    (s, .renewalEnded false :: events)
  | .ok expired =>
    let state := if expired then .expired else .valid current
    let (s, events) := (s.publish state).finish id (.failed (.renewal (.store fault)))
    (s, .renewalEnded false :: .published state :: events)

/-! ## The steps -/

/-- What happens next. -/
inductive Label where
  /-- A call is made. -/
  | begin (id : CallId) (call : Call)
  /-- The call that was handed the guard goes on. -/
  | proceed (id : CallId)
  /-- The store answers the call. -/
  | answer (id : CallId) (a : Answer)
  /-- The call has waited for the store long enough. -/
  | expire (id : CallId)
  /-- The call is dropped where it waits. -/
  | drop (id : CallId)
deriving DecidableEq, Repr, Inhabited

/-- A call is made: a good token is handed out at once. -/
def begin (s : Session) (now : Instant) (id : CallId) (call : Call) : Session × List Event :=
  match call with
  | .getToken =>
    match s.usable now with
    | .error fault => (s, [.returned id (.crashed fault)])
    | .ok (some t) => (s, [.returned id (.token t)])
    | .ok none => (s.acquire id call, [])
  | _ => (s.acquire id call, [])

/-- The store answers the call that holds the guard. -/
def answer (s : Session) (now : Instant) (id : CallId) :
    Phase → Answer → Option (Session × List Event)
  | .loggingIn _ superseded _, .granted g => some (s.loggedIn now id superseded g)
  | .loggingIn _ _ _, .refused f => some (s.loginFailed id (.loginFailed s.strategy.method f))
  | .loggingIn _ _ _, .unsent f => some (s.loginFailed id f)
  | .renewing current _, .granted g => some (s.renewed now id current g)
  | .renewing current _, .refused f => some (s.renewalFailed now id current f)
  | .revoking _ _ reply, .revoked | .revoking _ _ reply, .refused _ => some (s.finish id reply)
  | _, _ => none

/-- The call that holds the guard gives up waiting for the store. -/
def expire (s : Session) (now : Instant) (id : CallId) :
    Phase → Option (Session × List Event)
  | .loggingIn _ _ deadline =>
    if deadline ≤ now then
      some (s.loginFailed id (.loginTimedOut s.strategy.method s.timeout))
    else none
  | .renewing current deadline =>
    if deadline ≤ now then
      some (s.renewalFailed now id current (.timedOutAfter "renew" s.timeout))
    else none
  | .revoking _ deadline reply => if deadline ≤ now then some (s.finish id reply) else none
  | .granted _ => none

/-- One atomic step at an instant, with what others can see of it; `none` when the step
cannot happen. -/
def step (s : Session) (now : Instant) : Label → Option (Session × List Event)
  | .begin id call => some (s.begin now id call)
  | .proceed id =>
    match s.active with
    | some (holder, .granted call) =>
      if holder = id then some (s.proceed now id call) else none
    | _ => none
  | .answer id a =>
    match s.active with
    | some (holder, phase) => if holder = id then s.answer now id phase a else none
    | none => none
  | .expire id =>
    match s.active with
    | some (holder, phase) => if holder = id then s.expire now id phase else none
    | none => none
  | .drop id =>
    match s.active with
    | some (holder, _) =>
      if holder = id then some (s.release, [])
      else some ({ s with queue := s.queue.filter (fun c => c.1 ≠ id) }, [])
    | none => some ({ s with queue := s.queue.filter (fun c => c.1 ≠ id) }, [])

end Session

end SecretConfig
