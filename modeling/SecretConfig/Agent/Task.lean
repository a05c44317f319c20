import SecretConfig.Aggregation.Source
import SecretConfig.Session.Scheduler
import SecretConfig.Store

set_option autoImplicit false

/-! # Tasks

A task works towards a goal, and between two of its steps it waits in a stage. A build waits
first for a token and then for all of its reads, which run at the same time; a refresh waits
for its turn before it builds. A start logs in, starts a scheduler and refreshes; when the
refresh fails it stops everything again. A scheduler is a task without end. -/

namespace SecretConfig

/-- What a task is to do. -/
inductive Goal where
  /-- A call on the session. -/
  | call (call : Call)
  /-- The layers of descriptors. -/
  | layers (options : BuildOptions) (descriptors : List Descriptor)
  /-- The properties merged from the layers of descriptors. -/
  | properties (options : BuildOptions) (descriptors : List Descriptor)
  /-- A refresh of the source. -/
  | refresh
  /-- A login, a scheduler if the policy wants one, and a first refresh. -/
  | start (policy : RenewalPolicy) (revoke : Bool)
  /-- The first refresh of a start. -/
  | load (scheduler : Option CallId) (revoke : Bool)
  /-- The end of the scheduler and of the session, after a failure if there was one. -/
  | stop (scheduler : Option CallId) (revoke : Bool) (failure : Option Error)
  /-- The end of a scheduler, which may take some time to finish an attempt. -/
  | stopScheduler (scheduler : CallId) (grace : Duration)
  /-- Let time pass. -/
  | pause (d : Duration)
  /-- A login of its own, apart from the session. -/
  | login (strategy : Strategy)
  | renew (token : Token)
  | revoke (token : Token)
  | read (path : String) (token : Token)
  | write (path : String) (token : Token) (data : Dict Json)
deriving DecidableEq, Inhabited

/-- How a task ends. -/
inductive Outcome where
  | done
  | token (t : Token)
  | layers (ls : List Layer)
  | properties (ps : Properties)
  | payload (p : Option Payload)
  /-- Everything runs, with a scheduler if there is one. -/
  | started (scheduler : Option CallId)
  | failed (e : Error)
  | refused (fault : StoreFault)
  | crashed
deriving DecidableEq, Inhabited

/-- One of the reads of a build. -/
structure ReadSlot where
  read : PlannedRead
  readyAt : Instant
  deadline : Instant
  outcome : Option (Except Error Layer) := none
deriving Inhabited

/-- Where a task waits. -/
inductive Stage where
  /-- For a reply of the session. -/
  | calling (reply : Option Reply)
  /-- For its turn at the source. -/
  | queued
  /-- For a token to read with. -/
  | obtaining (options : BuildOptions) (reads : List PlannedRead) (reply : Option Reply)
  /-- For its reads. -/
  | reading (options : BuildOptions) (token : Token) (slots : List ReadSlot)
  /-- For a scheduler to stop, but not beyond an instant. -/
  | stopping (scheduler : CallId) (deadline : Instant)
  /-- For the session to end. -/
  | closing (reply : Option Reply)
  /-- For an instant. -/
  | waiting (readyAt : Instant)
  | ended (endedAt : Instant) (outcome : Outcome)
deriving Inhabited

/-- Something that runs. -/
inductive Task where
  | work (goal : Goal) (stage : Stage)
  | scheduler (s : Scheduler)
deriving Inhabited

namespace Reply

/-- How a task ends with a reply. -/
def outcome : Reply → Outcome
  | token t => .token t
  | failed e => .failed e
  | closed => .done
  | crashed _ => .crashed

end Reply

namespace Stage

/-- Take a reply of the session. -/
def deliver (reply : Reply) : Stage → Stage
  | calling _ => calling (some reply)
  | obtaining o reads _ => obtaining o reads (some reply)
  | closing _ => closing (some reply)
  | other => other

/-- The instants that the stage waits for. -/
def timers : Stage → List Instant
  | reading _ _ slots =>
    (slots.filter fun r => r.outcome.isNone).flatMap fun r => [r.readyAt, r.deadline]
  | stopping _ deadline => [deadline]
  | waiting readyAt => [readyAt]
  | _ => []

end Stage

namespace Task

/-- Take a reply of the session. -/
def deliver (reply : Reply) : Task → Task
  | work goal stage => work goal (stage.deliver reply)
  | scheduler s => scheduler (s.deliver reply)

/-- The instants that the task waits for. -/
def timers : Task → List Instant
  | work _ stage => stage.timers
  | scheduler s =>
    match s.phase with
    | .waiting (some due) => [due]
    | _ => []

end Task

end SecretConfig
