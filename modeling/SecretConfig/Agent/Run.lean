import SecretConfig.Agent.Step

set_option autoImplicit false

/-! # Running an agent to quiescence

Of all runs, `Agent.run` takes the one in which the clock moves only when nothing else can
happen, and then to the next instant that something waits for. A task that can go on does so
until it waits; otherwise the first in the list goes on. The end of a wait goes by a request to
stop before a change, and by a change before the timer; other runs go by them in other orders. -/

namespace SecretConfig.Agent

/-- The moves that may be open to a task, in order of preference. -/
def movesOf (s : Agent) (id : CallId) : List Move :=
  let reads := match s.task? id with
    | some (.work _ (.reading _ _ slots)) => (List.range slots.length).map (Move.read id)
    | _ => []
  [.proceed id, .answer id, .expire id] ++ reads ++
    [.resume id, .wake id .cancelled, .wake id .changed, .wake id .timer]

/-- The first of some moves that can happen, and the agent after it. -/
def firstStep (s : Agent) (moves : List Move) : Option Agent := moves.findSome? s.step

/-- One move of the first of some tasks that can go on. -/
def firstTask (s : Agent) : List CallId → Option (CallId × Agent)
  | [] => none
  | id :: rest =>
    match s.firstStep (s.movesOf id) with
    | some next => some (id, next)
    | none => s.firstTask rest

/-- All instants that something waits for. -/
def timers (s : Agent) : List Instant :=
  let deadlines := match s.session.active with
    | some (_, .loggingIn _ _ deadline) | some (_, .renewing _ deadline)
    | some (_, .revoking _ deadline _) => [deadline]
    | _ => []
  deadlines ++ s.requests.map PendingRequest.readyAt ++ s.tasks.flatMap fun e => e.2.timers

/-- The next instant that something waits for. -/
def nextTimer? (s : Agent) : Option Instant :=
  (s.timers.filter fun t => s.now < t).min?

/-- Make moves at the present instant until none is left, beginning with those of a task. -/
def settle : Nat → CallId → Agent → Agent
  | 0, _, s => s
  | fuel + 1, current, s =>
    match s.firstTask (current :: s.tasks.map Prod.fst) with
    | some (id, next) => settle fuel id next
    | none => s

/-- Run until a task has ended and nothing can happen at that instant. Each round of the fuel
is one instant. -/
def run (moves : Nat) : Nat → CallId → Agent → Agent
  | 0, _, s => s
  | fuel + 1, main, s =>
    let s := settle moves main s
    if (s.result? main).isSome then s
    else
      match s.nextTimer? with
      | some t => run moves fuel main { s with now := t }
      | none => s

/-- More moves at one instant, and more instants, than a run of reasonable length has. -/
def patience : Nat := 1000000000

/-- Run a task to its end, and all else that can happen until then. -/
def complete (s : Agent) (id : CallId) : Agent := run patience patience id s

/-- Start a task and run it to its end. -/
def carryOut (s : Agent) (goal : Goal) : Agent × Option Outcome :=
  let (s, id) := s.spawn goal
  let s := s.complete id
  (s, (s.result? id).map Prod.snd)

end SecretConfig.Agent
