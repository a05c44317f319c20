import SecretConfig.Agent

set_option autoImplicit false

/-! # Steps of the agent

`Agent.step` is one move of a running agent: the session goes on, the store answers, a
request is given up, a read ends, a task goes on from where it waits, or the wait of a scheduler
ends. Any order of moves is a run. An answer that is there counts, even when the time for it is
over by now. -/

namespace SecretConfig

/-- How long a stopping agent waits for its scheduler. -/
def Agent.stopGrace : Duration := 5000

/-- What can happen to an agent. -/
inductive Move where
  /-- The call that was handed the guard of the session goes on. -/
  | proceed (id : CallId)
  /-- The store answers the request of a call. -/
  | answer (id : CallId)
  /-- The request of a call is given up. -/
  | expire (id : CallId)
  /-- A read of a build ends. -/
  | read (id : CallId) (index : Nat)
  /-- A task goes on. -/
  | resume (id : CallId)
  /-- The wait of a scheduler ends. -/
  | wake (id : CallId) (cause : Scheduler.Cause)
  /-- The clock moves on. -/
  | pass (t : Instant)
deriving DecidableEq, Repr, Inhabited

namespace Agent

/-! ## Entering a goal -/

/-- Record metrics. -/
def record (s : Agent) (records : List Metrics.Record) : Agent :=
  { s with metrics := records.foldl Metrics.add s.metrics }

/-- Begin a call on the session and wait for it. -/
def enterCall (s : Agent) (id : CallId) (goal : Goal) (call : Call) : Agent :=
  (s.park id goal (.calling none)).ask id call

/-- End the session and wait for that. -/
def enterClosing (s : Agent) (id : CallId) (goal : Goal) (revoke : Bool) : Agent :=
  (s.park id goal (.closing none)).ask id (.shutdown revoke)

/-- Ask a scheduler to stop and wait for that. -/
def enterStopping (s : Agent) (id : CallId) (goal : Goal) (scheduler : CallId)
    (grace : Duration) : Agent :=
  (s.park id goal (.stopping scheduler (s.now + grace))).cancel scheduler

/-- Stop the scheduler, if there is one, and then the session. -/
def enterStop (s : Agent) (id : CallId) (scheduler : Option CallId) (revoke : Bool)
    (failure : Option Error) : Agent :=
  let goal := Goal.stop scheduler revoke failure
  match scheduler with
  | some target => s.enterStopping id goal target stopGrace
  | none => s.enterClosing id goal revoke

/-- Ask for a turn at the source and wait for it. -/
def enterQueue (s : Agent) (id : CallId) (goal : Goal) : Agent :=
  { s.park id goal .queued with source := s.source.acquire id }

/-- The end of the builds of a goal. -/
def finishBuild (s : Agent) (id : CallId) (goal : Goal)
    (result : Except Error (List Layer)) : Agent :=
  match goal, result with
  | .layers _ _, .ok ls => s.finish id goal (.layers ls)
  | .properties _ _, .ok ls => s.finish id goal (.properties (Layer.merge ls))
  | .refresh, .ok ls =>
    { s with source := s.source.publish ls }.finish id goal (.properties (Layer.merge ls))
  | .refresh, .error e => { s with source := s.source.release }.finish id goal (.failed e)
  | .load scheduler _, .ok ls =>
    { s with source := s.source.publish ls }.finish id goal (.started scheduler)
  | .load scheduler revoke, .error e =>
    { s with source := s.source.release }.enterStop id scheduler revoke (some e)
  | _, .ok _ => s.finish id goal .done
  | _, .error e => s.finish id goal (.failed e)

/-- Plan the reads of a build and ask for a token to read with. -/
def enterBuild (s : Agent) (id : CallId) (goal : Goal) (o : BuildOptions)
    (descriptors : List Descriptor) : Agent :=
  let (planned, records) := Build.plan s.registry o descriptors
  let s := s.record records
  match planned with
  | .error e => s.finishBuild id goal (.error e)
  | .ok [] => s.finishBuild id goal (.ok [])
  | .ok (r :: reads) => (s.park id goal (.obtaining o (r :: reads) none)).ask id .getToken

/-- Take up a goal. -/
def enter (s : Agent) (id : CallId) (goal : Goal) : Agent :=
  match goal with
  | .call call => s.enterCall id goal call
  | .layers o ds | .properties o ds => s.enterBuild id goal o ds
  | .refresh | .load _ _ => s.enterQueue id goal
  | .start _ _ => s.enterCall id goal .login
  | .stop scheduler revoke failure => s.enterStop id scheduler revoke failure
  | .stopScheduler scheduler grace => s.enterStopping id goal scheduler grace
  | .pause d => s.park id goal (.waiting (s.now + d))
  | .login strategy =>
    s.park id goal (.waiting (s.now + s.store.delay (s.loginRequest strategy)))
  | .renew _ => s.park id goal (.waiting (s.now + s.store.renewalDelay))
  | .revoke _ | .write _ _ _ => s.park id goal (.waiting s.now)
  | .read path _ =>
    let s := { s with store := s.store.recordRead path }
    s.park id goal (.waiting (s.now + s.store.readDelay path))

/-- Start a task, which gets an identity. -/
def spawn (s : Agent) (goal : Goal) : Agent × CallId :=
  let id := s.nextId
  let s := { s with
    tasks := s.tasks ++ [(id, Task.work goal (.waiting s.now))]
    nextId := id + 1 }
  (s.enter id goal, id)

/-- Drop a task where it waits. -/
def drop (s : Agent) (id : CallId) : Agent :=
  let s := s.abandon id
  { s with
    source := s.source.drop id
    tasks := s.tasks.filter fun e => e.1 ≠ id }

/-! ## Going on -/

/-- Send the reads of a build, in the order of declaration. -/
def sendReads (s : Agent) (id : CallId) (goal : Goal) (o : BuildOptions) (t : Token)
    (reads : List PlannedRead) : Agent :=
  let record (store : Store) (r : PlannedRead) : Store := store.recordRead r.plan.path
  let s := { s with store := reads.foldl record s.store }
  s.park id goal (.reading o t (reads.map fun r =>
    { read := r, readyAt := s.now + s.store.readDelay r.plan.path,
      deadline := s.now + o.readTimeout }))

/-- What comes of a read that can end now. -/
def answerTo (s : Agent) (o : BuildOptions) (t : Token) (r : ReadSlot) : Option ReadAnswer :=
  if r.readyAt ≤ s.now then some (s.store.read r.read.plan.path t)
  else if r.deadline ≤ s.now then some (.error (.timedOutAfter "read" o.readTimeout))
  else none

/-- End a read of a build. -/
def stepRead (s : Agent) (id : CallId) (index : Nat) : Option Agent :=
  match s.task? id with
  | some (.work goal (.reading o t slots)) =>
    match slots[index]? with
    | some r =>
      if r.outcome.isSome then none
      else (s.answerTo o t r).map fun answer =>
        let (layer, outcome) := r.read.layer o answer
        (s.record [r.read.descriptor.record outcome]).park id goal
          (.reading o t (slots.set index { r with outcome := some layer }))
    | none => none
  | _ => none

/-- How a login apart from the session ends. -/
def loginOutcome (strategy : Strategy) (now : Instant) : Except StoreFault Grant → Outcome
  | .ok g => .token (strategy.accept g now)
  | .error fault => .refused fault

/-- The answer to a request that a task made for itself. -/
def perform (s : Agent) (id : CallId) (goal : Goal) : Agent :=
  match goal with
  | .login strategy =>
    match strategy.flow s.files with
    | .error fault => s.finish id goal (.failed (.authentication fault))
    | .ok flow =>
      let (answer, store) := s.store.login flow
      { s with store }.finish id goal (loginOutcome strategy s.now answer)
  | .renew t =>
    match s.store.renew t with
    | (.ok g, store) =>
      { s with store }.finish id goal (.token (t.renewed g.lease g.renewable s.now))
    | (.error fault, store) => { s with store }.finish id goal (.refused fault)
  | .revoke t =>
    match s.store.revoke t with
    | (.ok _, store) => { s with store }.finish id goal .done
    | (.error fault, store) => { s with store }.finish id goal (.refused fault)
  | .read path t =>
    match s.store.read path t with
    | .ok p => s.finish id goal (.payload p)
    | .error fault => s.finish id goal (.refused fault)
  | .write path t data =>
    match s.store.write path t data with
    | (.ok _, store) => { s with store }.finish id goal .done
    | (.error fault, store) => { s with store }.finish id goal (.refused fault)
  | _ => s.finish id goal .done

/-- A start goes on after its login. -/
def loggedIn (s : Agent) (id : CallId) (goal : Goal) (policy : RenewalPolicy) (revoke : Bool)
    (reply : Reply) : Agent :=
  match reply with
  | .token _ =>
    if policy.enabled then
      let (s, scheduler) := s.startScheduler policy
      s.enterQueue id (.load (some scheduler) revoke)
    else s.enterQueue id (.load none revoke)
  | other => s.finish id goal other.outcome

/-- What follows when the scheduler has stopped. -/
def schedulerStopped (s : Agent) (id : CallId) (goal : Goal) : Agent :=
  match goal with
  | .stop _ revoke _ => s.enterClosing id goal revoke
  | _ => s.finish id goal .done

/-- How a stop ends. -/
def stopOutcome : Goal → Reply → Outcome
  | .stop _ _ _, .crashed _ => .crashed
  | .stop _ _ (some e), _ => .failed e
  | _, _ => .done

/-- A task goes on from the stage in which it waits. -/
def resumeWork (s : Agent) (id : CallId) (goal : Goal) (stage : Stage) : Option Agent :=
  match stage with
  | .calling (some reply) =>
    match goal with
    | .start policy revoke => some (s.loggedIn id goal policy revoke reply)
    | _ => some (s.finish id goal reply.outcome)
  | .queued =>
    if s.source.active = some id then
      some (s.enterBuild id goal s.source.options s.source.descriptors)
    else none
  | .obtaining o reads (some reply) =>
    match reply with
    | .token t => some (s.sendReads id goal o t reads)
    | .failed e => some (s.finishBuild id goal (.error e))
    | other => some ({ s with source := s.source.drop id }.finish id goal other.outcome)
  | .reading _ _ slots =>
    if slots.all fun r => r.outcome.isSome then
      some (s.finishBuild id goal (Build.collect (slots.filterMap ReadSlot.outcome)))
    else none
  | .stopping scheduler deadline =>
    if s.isStopped scheduler then some (s.schedulerStopped id goal)
    else if deadline ≤ s.now then some ((s.abort scheduler).schedulerStopped id goal)
    else none
  | .closing (some reply) => some (s.finish id goal (stopOutcome goal reply))
  | .waiting readyAt => if readyAt ≤ s.now then some (s.perform id goal) else none
  | .calling none | .obtaining _ _ none | .closing none | .ended _ _ => none

/-- A scheduler goes on: where it stands then, and what it asks of the session. -/
def turn (s : Agent) (id : CallId) (next : Scheduler × Option Call) : Agent :=
  let s := s.setTask id (.scheduler next.1)
  match next.2 with
  | some call => s.ask id call
  | none => s

/-- A task goes on. -/
def stepTask (s : Agent) (id : CallId) : Option Agent :=
  match s.task? id with
  | some (.work goal stage) => s.resumeWork id goal stage
  | some (.scheduler sched) => (sched.step s.session).map (s.turn id)
  | none => none

/-- The wait of a scheduler ends. -/
def stepWake (s : Agent) (id : CallId) (cause : Scheduler.Cause) : Option Agent :=
  match s.task? id with
  | some (.scheduler sched) => (sched.wake s.now s.session cause).map (s.turn id)
  | _ => none

/-- The store answers the request of a call. -/
def stepAnswer (s : Agent) (id : CallId) : Option Agent :=
  match s.requests.find? fun r => r.caller = id with
  | some r =>
    if r.readyAt ≤ s.now then
      let (answer, store) := s.store.answer r.request
      { s.forget id with store }.stepSession (.answer id answer)
    else none
  | none => none

/-- The request of a call is given up. -/
def stepExpire (s : Agent) (id : CallId) : Option Agent :=
  match s.requests.find? fun r => r.caller = id with
  | some r => if r.readyAt ≤ s.now then none else (s.forget id).stepSession (.expire id)
  | none => none

/-- One move; `none` when it cannot happen. -/
def step (s : Agent) : Move → Option Agent
  | .proceed id => s.stepSession (.proceed id)
  | .answer id => s.stepAnswer id
  | .expire id => s.stepExpire id
  | .read id index => s.stepRead id index
  | .resume id => s.stepTask id
  | .wake id cause => s.stepWake id cause
  | .pass t => if s.now ≤ t then some { s with now := t } else none

end Agent

end SecretConfig
