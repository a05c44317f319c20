import SecretConfig.Metrics
import SecretConfig.Agent.Task

set_option autoImplicit false

/-! # The running agent

An agent is a session, a source of properties and the tasks at work on them, over one store.
What a session does shows as events, and `Agent.absorb` is what they lead to: requests to the
store, records among the metrics, and replies to tasks. Every task and every request in flight
is known by the identity of a call. -/

namespace SecretConfig

/-- A request of the session that is in flight. -/
structure PendingRequest where
  caller : CallId
  request : SessionRequest
  readyAt : Instant
deriving DecidableEq, Inhabited

/-- A running agent. -/
structure Agent where
  now : Instant := 0
  /-- The files that logins may read. -/
  files : Files
  store : Store
  session : Session
  registry : Registry
  source : Source := {}
  metrics : Metrics := {}
  /-- The requests of the session in flight. -/
  requests : List PendingRequest := []
  /-- What runs. -/
  tasks : List (CallId × Task) := []
  /-- The identity that the next call gets. -/
  nextId : CallId := 0

namespace Agent

/-! ## Tasks -/

/-- The task of an identity. -/
def task? (s : Agent) (id : CallId) : Option Task :=
  (s.tasks.find? fun e => e.1 = id).map Prod.snd

/-- Change the task of an identity. -/
def modifyTask (s : Agent) (id : CallId) (f : Task → Task) : Agent :=
  { s with tasks := s.tasks.map fun e => if e.1 = id then (id, f e.2) else e }

/-- Replace the task of an identity. -/
def setTask (s : Agent) (id : CallId) (t : Task) : Agent := s.modifyTask id fun _ => t

/-- Put a task into a stage. -/
def park (s : Agent) (id : CallId) (goal : Goal) (stage : Stage) : Agent :=
  s.setTask id (.work goal stage)

/-- End a task. -/
def finish (s : Agent) (id : CallId) (goal : Goal) (outcome : Outcome) : Agent :=
  s.park id goal (.ended s.now outcome)

/-- When and how a task ended. -/
def result? (s : Agent) (id : CallId) : Option (Instant × Outcome) :=
  match s.task? id with
  | some (.work _ (.ended endedAt outcome)) => some (endedAt, outcome)
  | _ => none

/-- The scheduler of an identity. -/
def scheduler? (s : Agent) (id : CallId) : Option Scheduler :=
  match s.task? id with
  | some (.scheduler sched) => some sched
  | _ => none

/-- The scheduler of an identity has stopped, or there is none. -/
def isStopped (s : Agent) (id : CallId) : Bool := (s.scheduler? id).all Scheduler.isStopped

/-! ## Events of the session -/

/-- Send a request of the session to the store. -/
def send (s : Agent) (id : CallId) (request : SessionRequest) : Agent :=
  { s with requests := s.requests ++ [⟨id, request, s.now + s.store.delay request⟩] }

/-- The request for the login of a strategy. -/
def loginRequest (s : Agent) (strategy : Strategy) : SessionRequest :=
  match strategy.flow s.files with
  | .ok flow => .login flow
  | .error fault => .unsent fault

/-- What an event of the session leads to. -/
def absorb (s : Agent) : Event → Agent
  | .published state => { s with metrics := s.metrics.add (.state state.name) }
  | .loginSent id _ => s.send id (s.loginRequest s.session.strategy)
  | .renewalSent id t => s.send id (.renewal t)
  | .revocationSent id t => s.send id (.revocation t)
  | .loginEnded success =>
    { s with metrics := s.metrics.add (.login (if success then "success" else "failure")) }
  | .renewalEnded success =>
    { s with metrics := s.metrics.add (.renewal (if success then "success" else "failure")) }
  | .returned id reply => s.modifyTask id (Task.deliver reply)

/-- One step of the session, and all that it leads to. -/
def stepSession (s : Agent) (label : Session.Label) : Option Agent :=
  (s.session.step s.now label).map fun (session, events) =>
    events.foldl absorb { s with session }

/-- Make a call on the session. -/
def ask (s : Agent) (id : CallId) (call : Call) : Agent :=
  (s.stepSession (.begin id call)).getD s

/-- Forget the requests of a call. -/
def forget (s : Agent) (id : CallId) : Agent :=
  { s with requests := s.requests.filter fun r => r.caller ≠ id }

/-! ## Schedulers -/

/-- Start a scheduler, which gets an identity. -/
def startScheduler (s : Agent) (policy : RenewalPolicy) : Agent × CallId :=
  ({ s with
      tasks := s.tasks ++ [(s.nextId, .scheduler { policy })]
      nextId := s.nextId + 1 }, s.nextId)

/-- Ask a scheduler to stop. -/
def cancel (s : Agent) (id : CallId) : Agent :=
  s.modifyTask id fun t => match t with
    | .scheduler sched => .scheduler { sched with cancelled := true }
    | other => other

/-- Give up a call wherever it waits in the session, with its request. -/
def abandon (s : Agent) (id : CallId) : Agent :=
  ((s.stepSession (.drop id)).getD s).forget id

/-- Stop a scheduler at once; an attempt under way is given up. -/
def abort (s : Agent) (id : CallId) : Agent :=
  (s.abandon id).modifyTask id fun t => match t with
    | .scheduler sched => .scheduler { sched with phase := .stopped }
    | other => other

end Agent

end SecretConfig
