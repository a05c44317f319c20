import SecretConfig.Proofs.Agent.Building

set_option autoImplicit false

/-! # Turns at the source

A refresh waits for its turn at the source and then builds: it plans its reads, obtains a token,
sends the reads and waits for them. In the end it publishes what it has built, or gives its turn up.

`Moment.Turn` says once what can come of that when the task of an identity goes on, is taken up or
is dropped, with what becomes of the source. All other acts leave the source as it is, and the
builds of all other tasks go on as before (`Spares`). -/

namespace SecretConfig

/-- The goal is a refresh of the source, by itself or in a start, and waits for its turn. -/
def Goal.takesTurn : Goal → Bool
  | refresh | load _ _ => true
  | _ => false

/-- A refresh ends like this when it has published what it built. -/
def Outcome.isRefreshed : Outcome → Bool
  | properties _ | started _ => true
  | _ => false

theorem Reply.isRefreshed_outcome (reply : Reply) : reply.outcome.isRefreshed = false := by
  cases reply <;> rfl

namespace Task

variable {t : Task} {goal : Goal} {stage : Stage}

/-- A refresh that builds: it has had its turn, and waits for a token or for its reads. -/
def isBuilding : Task → Bool
  | work goal (.obtaining _ _ _) | work goal (.reading _ _ _) => goal.takesTurn
  | _ => false

/-- A refresh that has succeeded. -/
def isRefreshed : Task → Bool
  | work goal (.ended _ outcome) => goal.takesTurn && outcome.isRefreshed
  | _ => false

/-- A task that is no refresh, or one that neither builds nor has succeeded. -/
def isAside (t : Task) : Bool := !t.isBuilding && !t.isRefreshed

theorem isAside_deliver (h : t.isAside = true) (reply : Reply) :
    (t.deliver reply).isAside = true := by
  cases t with
  | scheduler s => rfl
  | work goal stage => cases stage <;> exact h

theorem isBuilding_takeReplies (t : Task) (id : CallId) (events : List Event) :
    (t.takeReplies id events).isBuilding = t.isBuilding := by
  refine takeReplies_keeps (P := fun u => u.isBuilding = t.isBuilding) rfl ?_ id events
  intro u reply hu
  rw [← hu]
  cases u with
  | scheduler s => rfl
  | work goal stage => cases stage <;> rfl

theorem isAside_of_goal (h : goal.takesTurn = false) (stage : Stage) :
    (work goal stage).isAside = true := by
  cases stage <;> simp [isAside, isBuilding, isRefreshed, h]

theorem isAside_ended (goal : Goal) (endedAt : Instant) {outcome : Outcome}
    (h : outcome.isRefreshed = false) : (work goal (.ended endedAt outcome)).isAside = true := by
  simp [isAside, isBuilding, isRefreshed, h]

end Task

namespace Agent

variable {start s s' : Agent} {m : Moment} {id caller : CallId} {goal : Goal} {stage : Stage}
  {o : BuildOptions} {a : Act} {e : Error} {ls : List Layer}

/-! ## Refreshes among the tasks -/

/-- The refresh of an identity builds. -/
def Refreshes (s : Agent) (id : CallId) : Prop := ∃ t, s.task? id = some t ∧ t.isBuilding = true

/-- The refresh of an identity has succeeded. -/
def HasRefreshed (s : Agent) (id : CallId) : Prop :=
  ∃ t, s.task? id = some t ∧ t.isRefreshed = true

/-- The task of an identity is no refresh that builds or has succeeded. -/
def Aside (s : Agent) (id : CallId) : Prop := ∀ t, s.task? id = some t → t.isAside = true

theorem Aside.not_refreshes (h : s.Aside id) : ¬ s.Refreshes id := by
  rintro ⟨t, ht, builds⟩
  have haside := h t ht
  simp [Task.isAside, builds] at haside

theorem Aside.not_hasRefreshed (h : s.Aside id) : ¬ s.HasRefreshed id := by
  rintro ⟨t, ht, refreshed⟩
  have haside := h t ht
  simp [Task.isAside, refreshed] at haside

theorem aside_park (s : Agent) (id : CallId) (h : (Task.work goal stage).isAside = true) :
    (s.park id goal stage).Aside id := by
  intro t ht
  rw [park, setTask, task?_modifyTask, if_pos rfl] at ht
  obtain ⟨-, -, rfl⟩ := Option.map_eq_some_iff.1 ht
  exact h

theorem aside_finish (s : Agent) (id : CallId) (goal : Goal) {outcome : Outcome}
    (h : outcome.isRefreshed = false) : (s.finish id goal outcome).Aside id :=
  s.aside_park id (Task.isAside_ended goal s.now h)

theorem Keeps.aside (h : s.Keeps id s') (aside : s.Aside id) : s'.Aside id := by
  intro t' ht'
  cases ht : s.task? id with
  | none =>
      obtain ⟨-, policy, endures⟩ := h.started t' ht ht'
      cases endures
      rfl
  | some t =>
      obtain ⟨u, hu, endures⟩ := h.task t ht
      obtain rfl := Option.some.inj (ht'.symm.trans hu)
      cases endures with
      | work goal stage => exact aside _ ht
      | scheduler endures => rfl

theorem Aside.ask (h : s.Aside id) (call : Call) : (s.ask id call).Aside id := by
  intro t' ht'
  obtain ⟨session, events, -, absorbs⟩ := absorbs_ask s id call
  rw [absorbs.task?] at ht'
  obtain ⟨t, ht, rfl⟩ := Option.map_eq_some_iff.1 ht'
  exact Task.takeReplies_keeps (P := fun t => t.isAside = true) (h t ht)
    (fun t reply haside => Task.isAside_deliver haside reply) id events

theorem aside_enterStop (s : Agent) (id : CallId) (scheduler : Option CallId) (revoke : Bool)
    (failure : Option Error) : (s.enterStop id scheduler revoke failure).Aside id := by
  cases scheduler with
  | none => exact (s.aside_park id (Task.isAside_of_goal rfl _)).ask _
  | some target =>
      exact (keeps_cancel _ id target).aside (s.aside_park id (Task.isAside_of_goal rfl _))

/-- The build of an identity, if there is one, was under way before; at most it has heard
replies. -/
def Spares (s : Agent) (id : CallId) (s' : Agent) : Prop :=
  ∀ t', s'.task? id = some t' → t'.isBuilding = true →
    ∃ t events, s.task? id = some t ∧ t' = t.takeReplies id events

theorem Keeps.spares (h : s.Keeps id s') : s.Spares id s' := by
  intro t' ht' builds
  cases ht : s.task? id with
  | none =>
      obtain ⟨-, policy, endures⟩ := h.started t' ht ht'
      cases endures
      exact nomatch builds
  | some t =>
      obtain ⟨u, hu, endures⟩ := h.task t ht
      obtain rfl := Option.some.inj (ht'.symm.trans hu)
      cases endures with
      | work goal stage => exact ⟨_, [], rfl, rfl⟩
      | scheduler endures => exact nomatch builds

/-! ## What is done to the source -/

@[simp] theorem source_ask (s : Agent) (id : CallId) (call : Call) :
    (s.ask id call).source = s.source := by
  obtain ⟨session, events, -, absorbs⟩ := absorbs_ask s id call
  exact absorbs.source

@[simp] theorem source_abort (s : Agent) (id : CallId) : (s.abort id).source = s.source := by
  obtain ⟨session, -, absorbs⟩ := absorbs_abandon s id
  exact absorbs.source

@[simp] theorem source_enterStop (s : Agent) (id : CallId) (scheduler : Option CallId)
    (revoke : Bool) (failure : Option Error) :
    (s.enterStop id scheduler revoke failure).source = s.source := by
  cases scheduler with
  | none => exact source_ask _ id _
  | some target => rfl

@[simp] theorem source_schedulerStopped (s : Agent) (id : CallId) (goal : Goal) :
    (s.schedulerStopped id goal).source = s.source := by
  cases goal with
  | stop scheduler revoke failure => exact source_ask _ id _
  | _ => rfl

theorem Source.drop_of_active {source : Source} (h : source.active = some id) :
    source.drop id = source.release := by
  rw [Source.drop, if_pos h]

/-- What a build of its own does is no matter of the source. -/
theorem finishBuild_apart (s : Agent) (id : CallId) (hgoal : goal.takesTurn = false)
    (result : Except Error (List Layer)) :
    (s.finishBuild id goal result).Aside id ∧ (s.finishBuild id goal result).source = s.source := by
  cases goal with
  | refresh | load => exact nomatch hgoal
  | _ => cases result <;> exact ⟨s.aside_park id (Task.isAside_of_goal rfl _), rfl⟩

theorem enterBuild_apart (s : Agent) (id : CallId) (hgoal : goal.takesTurn = false)
    (o : BuildOptions) (ds : List Descriptor) :
    (s.enterBuild id goal o ds).Aside id ∧ (s.enterBuild id goal o ds).source = s.source := by
  unfold Agent.enterBuild
  obtain ⟨planned, records⟩ := Build.plan s.registry o ds
  cases planned with
  | error e => exact (s.record records).finishBuild_apart id hgoal (.error e)
  | ok reads =>
      cases reads with
      | nil => exact (s.record records).finishBuild_apart id hgoal (.ok [])
      | cons r rest =>
          have parked := (s.record records).aside_park id
            (Task.isAside_of_goal hgoal (.obtaining o (r :: rest) none))
          exact ⟨parked.ask .getToken, source_ask _ id .getToken⟩

/-- A refresh that fails hands its turn on. -/
theorem finishBuild_error (s : Agent) (id : CallId) (hgoal : goal.takesTurn = true) (e : Error) :
    (s.finishBuild id goal (.error e)).Aside id ∧
      (s.finishBuild id goal (.error e)).source = s.source.release := by
  cases goal with
  | refresh => exact ⟨aside_finish _ id _ rfl, rfl⟩
  | load scheduler revoke => exact ⟨aside_enterStop _ id _ _ _, source_enterStop _ id _ _ _⟩
  | _ => exact nomatch hgoal

/-- A refresh that succeeds publishes its layers. -/
theorem finishBuild_ok {t : Task} (ht : s.task? id = some t) (hgoal : goal.takesTurn = true)
    (ls : List Layer) : (s.finishBuild id goal (.ok ls)).HasRefreshed id ∧
      (s.finishBuild id goal (.ok ls)).source = s.source.publish ls := by
  cases goal with
  | refresh | load => exact ⟨⟨_, task?_park (s := { s with source := _ }) ht _ _, rfl⟩, rfl⟩
  | _ => exact nomatch hgoal

/-! ## What a task does when it goes on -/

/-- A refresh has its turn, and goes on to build. -/
structure Moment.Begins (m : Moment) (id : CallId) : Prop where
  act : m.act = .move (.resume id)
  waited : ∃ goal, goal.takesTurn = true ∧ m.before.task? id = some (.work goal .queued)

/-- A refresh goes on and succeeds. -/
structure Moment.Succeeds (m : Moment) (id : CallId) : Prop where
  act : m.act = .move (.resume id)
  refreshed : m.after.HasRefreshed id

/-- The reads that a refresh plans when it has its turn. -/
def Moment.sourcePlan (m : Moment) : Except Error (List PlannedRead) :=
  (Build.plan m.before.registry m.before.source.options m.before.source.descriptors).1

/-- A refresh comes to layers: it has nothing to read, or all of its reads have ended. -/
inductive Moment.Builds (m : Moment) (id : CallId) : List Layer → Prop
  | idle (begins : m.Begins id) (plan : m.sourcePlan = .ok []) : Builds m id []
  | collected {goal : Goal} {o : BuildOptions} {t : Token} {slots : List ReadSlot}
      {layers : List Layer} (refreshes : m.before.Refreshes id)
      (before : m.before.task? id = some (.work goal (.reading o t slots)))
      (ended : ∀ r ∈ slots, r.outcome.isSome = true)
      (collected : Build.collect (slots.filterMap ReadSlot.outcome) = .ok layers) :
      Builds m id layers

/-- What the task of an identity does to the source. -/
inductive Moment.Turn (m : Moment) (id : CallId) : Prop
  /-- Nothing: the task is no refresh, or one that does not build. -/
  | aside (aside : m.after.Aside id) (source : m.after.source = m.before.source)
  /-- A refresh asks for a turn. -/
  | asks (aside : m.after.Aside id) (source : m.after.source = m.before.source.acquire id)
  /-- A refresh fails or goes away, and gives its turn up. -/
  | leaves (aside : m.after.Aside id) (source : m.after.source = m.before.source.drop id)
  /-- A refresh has its turn, and asks for a token to read with. -/
  | obtains {goal : Goal} {reads : List PlannedRead} {reply : Option Reply} (begins : m.Begins id)
      (turn : m.before.source.active = some id) (plan : m.sourcePlan = .ok reads)
      (task : m.after.task? id =
        some (.work goal (.obtaining m.before.source.options reads reply)))
      (source : m.after.source = m.before.source)
  /-- A refresh has got a token, and sends its reads. -/
  | sends {goal : Goal} {o : BuildOptions} {reads : List PlannedRead} {t : Token}
      {slots : List ReadSlot} (act : m.act = .move (.resume id))
      (before : m.before.task? id = some (.work goal (.obtaining o reads (some (.token t)))))
      (after : m.after.task? id = some (.work goal (.reading o t slots)))
      (reads : slots.map ReadSlot.read = reads) (open' : ∀ r ∈ slots, r.outcome = none)
      (source : m.after.source = m.before.source)
  /-- A read of a refresh ends. -/
  | ends {goal : Goal} {o : BuildOptions} {t : Token} {slots : List ReadSlot} {index : Nat}
      {r : ReadSlot} {answer : ReadAnswer} (ended : m.readEnd? id = some (index, r.read, answer))
      (slot : slots[index]? = some r)
      (before : m.before.task? id = some (.work goal (.reading o t slots)))
      (after : m.after.task? id = some (.work goal (.reading o t
        (slots.set index { r with outcome := some (r.read.layer o answer).1 }))))
      (source : m.after.source = m.before.source)
  /-- A refresh publishes what it has built. -/
  | publishes {layers : List Layer} (succeeds : m.Succeeds id)
      (turn : m.before.source.active = some id) (builds : m.Builds id layers)
      (source : m.after.source = m.before.source.publish layers)

/-- A build that fails leaves the source, if it was a refresh. -/
theorem turn_of_error (turn : goal.takesTurn = true → s.source.active = some id)
    (records : List Metrics.Record) (e : Error) :
    Moment.Turn ⟨s, a, (s.record records).finishBuild id goal (.error e)⟩ id := by
  cases hgoal : goal.takesTurn with
  | true =>
      obtain ⟨haside, hsource⟩ := (s.record records).finishBuild_error id hgoal e
      exact .leaves haside (hsource.trans (Source.drop_of_active (turn hgoal)).symm)
  | false =>
      obtain ⟨haside, hsource⟩ := (s.record records).finishBuild_apart id hgoal (.error e)
      exact .aside haside hsource

/-- A refresh has its turn. -/
theorem turn_of_queued (ht : s.task? id = some (.work goal .queued))
    (hgoal : goal.takesTurn = true) (turn : s.source.active = some id) :
    Moment.Turn ⟨s, .move (.resume id),
      s.enterBuild id goal s.source.options s.source.descriptors⟩ id := by
  have begins (after : Agent) : Moment.Begins ⟨s, .move (.resume id), after⟩ id :=
    ⟨rfl, goal, hgoal, ht⟩
  unfold Agent.enterBuild
  cases hplan : Build.plan s.registry s.source.options s.source.descriptors with
  | mk planned records =>
      have recorded : (s.record records).task? id = some (.work goal .queued) := ht
      have plan (after : Agent) :
          Moment.sourcePlan ⟨s, .move (.resume id), after⟩ = planned := congrArg Prod.fst hplan
      cases planned with
      | error e => exact turn_of_error (fun _ => turn) records e
      | ok reads =>
          cases reads with
          | nil =>
              obtain ⟨refreshed, hsource⟩ := finishBuild_ok recorded hgoal []
              exact .publishes ⟨rfl, refreshed⟩ turn (.idle (begins _) (plan _)) hsource
          | cons r rest =>
              have parked := task?_park recorded goal
                (.obtaining s.source.options (r :: rest) none)
              obtain ⟨events, htake⟩ := (replied_ask _ id .getToken).task? parked
              obtain ⟨reply, hreply, -⟩ := takeReplies_obtaining id events goal
                s.source.options (r :: rest) none
              exact .obtains (begins _) turn (plan _) (htake.trans (congrArg some hreply))
                (source_ask _ id .getToken)

/-- A build goes on when all its reads have ended. -/
theorem turn_of_reading {o : BuildOptions} {t : Token} {slots : List ReadSlot}
    (ht : s.task? id = some (.work goal (.reading o t slots)))
    (turn : s.Refreshes id → s.source.active = some id)
    (ended : ∀ r ∈ slots, r.outcome.isSome = true) :
    Moment.Turn ⟨s, .move (.resume id),
      s.finishBuild id goal (Build.collect (slots.filterMap ReadSlot.outcome))⟩ id := by
  cases hgoal : goal.takesTurn with
  | false =>
      obtain ⟨haside, hsource⟩ := s.finishBuild_apart id hgoal
        (Build.collect (slots.filterMap ReadSlot.outcome))
      exact .aside haside hsource
  | true =>
      have builds : s.Refreshes id := ⟨_, ht, hgoal⟩
      cases hcollect : Build.collect (slots.filterMap ReadSlot.outcome) with
      | error e => exact turn_of_error (fun _ => turn builds) [] e
      | ok layers =>
          obtain ⟨refreshed, hsource⟩ := finishBuild_ok ht hgoal layers
          exact .publishes ⟨rfl, refreshed⟩ (turn builds) (.collected builds ht ended hcollect)
            hsource

/-- A start that has logged in asks for a turn. -/
theorem turn_of_loggedIn (policy : RenewalPolicy) (revoke : Bool) (reply : Reply) :
    Moment.Turn ⟨s, a, s.loggedIn id (.start policy revoke) policy revoke reply⟩ id := by
  unfold Agent.loggedIn
  split
  · split
    · exact .asks (aside_park (s.startScheduler policy).1 id rfl) rfl
    · exact .asks (s.aside_park id rfl) rfl
  · exact .aside (s.aside_park id (Task.isAside_of_goal rfl _)) rfl

/-- What a task makes for itself has nothing to do with the source. -/
theorem turn_of_perform (goal : Goal) : Moment.Turn ⟨s, a, s.perform id goal⟩ id := by
  cases goal with
  | login strategy =>
      simp only [perform]
      split <;> exact .aside (aside_park _ id (Task.isAside_of_goal rfl _)) rfl
  | renew t | revoke t | read path t | write path t data =>
      simp only [perform]
      split <;> exact .aside (aside_park _ id (Task.isAside_of_goal rfl _)) rfl
  | _ => exact .aside (s.aside_finish id _ rfl) rfl

/-- A stop goes on once the scheduler has ended, or ends it. -/
theorem turn_of_stopping {target : CallId} {deadline : Instant}
    (step : s.resumeWork id goal (.stopping target deadline) = some s') :
    Moment.Turn ⟨s, .move (.resume id), s'⟩ id := by
  have stopped (u : Agent) : (u.schedulerStopped id goal).Aside id := by
    cases goal with
    | stop scheduler revoke failure =>
        exact (u.aside_park id (Task.isAside_of_goal rfl _)).ask _
    | _ => exact u.aside_finish id _ rfl
  simp only [Agent.resumeWork] at step
  split at step
  · obtain rfl := Option.some.inj step
    exact .aside (stopped s) (source_schedulerStopped s id goal)
  · simp only [Option.ite_none_right_eq_some, Option.some.injEq] at step
    obtain ⟨-, rfl⟩ := step
    exact .aside (stopped _)
      ((source_schedulerStopped _ id goal).trans (source_abort s target))

theorem turn_of_resumeWork (ht : s.task? id = some (.work goal stage))
    (turn : s.Refreshes id → s.source.active = some id)
    (step : s.resumeWork id goal stage = some s') :
    Moment.Turn ⟨s, .move (.resume id), s'⟩ id := by
  cases stage with
  | calling reply =>
      cases reply with
      | none => cases step
      | some reply =>
          cases goal with
          | start policy revoke =>
              obtain rfl := Option.some.inj step
              exact turn_of_loggedIn policy revoke reply
          | _ =>
              obtain rfl := Option.some.inj step
              exact .aside (s.aside_finish id _ reply.isRefreshed_outcome) rfl
  | queued =>
      simp only [Agent.resumeWork, Option.ite_none_right_eq_some, Option.some.injEq] at step
      obtain ⟨active, rfl⟩ := step
      cases hgoal : goal.takesTurn with
      | true => exact turn_of_queued ht hgoal active
      | false =>
          obtain ⟨haside, hsource⟩ := s.enterBuild_apart id hgoal _ _
          exact .aside haside hsource
  | obtaining o reads reply =>
      cases reply with
      | none => cases step
      | some reply =>
          cases reply with
          | token t =>
              obtain rfl := Option.some.inj step
              exact .sends rfl ht (task?_sendReads ht goal o t reads)
                (by simp [Function.comp_def]) (by simp) rfl
          | failed e =>
              obtain rfl := Option.some.inj step
              exact turn_of_error (fun hgoal => turn ⟨_, ht, hgoal⟩) [] e
          | closed | crashed =>
              obtain rfl := Option.some.inj step
              exact .leaves (aside_finish _ id _ rfl) rfl
  | reading o t slots =>
      simp only [Agent.resumeWork, Option.ite_none_right_eq_some, Option.some.injEq,
        List.all_eq_true] at step
      obtain ⟨ended, rfl⟩ := step
      exact turn_of_reading ht turn ended
  | stopping target deadline => exact turn_of_stopping step
  | closing reply =>
      cases reply with
      | none => cases step
      | some reply =>
          obtain rfl := Option.some.inj step
          refine .aside (s.aside_finish id goal ?_) rfl
          unfold stopOutcome
          split <;> rfl
  | waiting readyAt =>
      simp only [Agent.resumeWork, Option.ite_none_right_eq_some, Option.some.injEq] at step
      obtain ⟨-, rfl⟩ := step
      exact turn_of_perform goal
  | ended => cases step

/-! ## What an act does to the source -/

/-- A scheduler that goes on has nothing to do with the source. -/
theorem turn_of_scheduler {sched : Scheduler} (ht : s.task? id = some (.scheduler sched))
    (next : Scheduler × Option Call) : Moment.Turn ⟨s, a, s.turn id next⟩ id := by
  obtain ⟨sched', call⟩ := next
  have put : (s.setTask id (.scheduler sched')).Aside id := by
    intro t ht'
    rw [task?_setTask ht] at ht'
    obtain rfl := Option.some.inj ht'
    rfl
  cases call with
  | none => exact .aside put rfl
  | some call => exact .aside (put.ask call) (source_ask _ id call)

theorem turn_of_stepRead {index : Nat} (step : s.stepRead id index = some s') :
    Moment.Turn ⟨s, .move (.read id index), s'⟩ id := by
  obtain ⟨goal, o, t, slots, -, -, ht, -⟩ := park_of_stepRead step
  obtain ⟨r, answer, hr, -, hanswer, rfl⟩ := slot_of_stepRead ht step
  refine .ends ?_ hr ht (task?_park (s := s.record _) ht goal _) rfl
  simp [Moment.readEnd?, ht, hr, hanswer]

theorem turn_of_drop (s : Agent) (id : CallId) : Moment.Turn ⟨s, a, s.drop id⟩ id := by
  obtain ⟨session, -, absorbs⟩ := absorbs_abandon s id
  refine .leaves (fun t ht => ?_) (congrArg (Source.drop · id) absorbs.source)
  rw [task?_drop, if_pos rfl] at ht
  cases ht

theorem turn_of_spawn (s : Agent) (goal : Goal) :
    Moment.Turn ⟨s, a, (s.spawn goal).1⟩ s.nextId := by
  have parked (u : Agent) (stage : Stage) (hgoal : goal.takesTurn = false) :
      (u.park s.nextId goal stage).Aside s.nextId :=
    u.aside_park s.nextId (Task.isAside_of_goal hgoal stage)
  cases goal with
  | refresh | load => exact .asks (aside_park (s.withTask _) s.nextId rfl) rfl
  | call c => exact .aside ((parked (s.withTask _) _ rfl).ask c) (source_ask _ _ c)
  | start policy revoke =>
      exact .aside ((parked (s.withTask _) _ rfl).ask .login) (source_ask _ _ .login)
  | layers o ds =>
      obtain ⟨haside, hsource⟩ := enterBuild_apart (s.withTask (.layers o ds)) s.nextId
        (show (Goal.layers o ds).takesTurn = false from rfl) o ds
      exact .aside haside hsource
  | properties o ds =>
      obtain ⟨haside, hsource⟩ := enterBuild_apart (s.withTask (.properties o ds)) s.nextId
        (show (Goal.properties o ds).takesTurn = false from rfl) o ds
      exact .aside haside hsource
  | stop scheduler revoke failure =>
      exact .aside (aside_enterStop (s.withTask _) _ _ _ _) (source_enterStop _ _ _ _ _)
  | stopScheduler target grace =>
      exact .aside ((keeps_cancel _ _ target).aside (parked (s.withTask _) _ rfl)) rfl
  | pause | login | renew | revoke | write => exact .aside (parked (s.withTask _) _ rfl) rfl
  | read path t => exact .aside (parked _ _ rfl) rfl

/-- An act is of one task at most. -/
theorem Act.IsOf.unique (h : a.IsOf id s) (h' : a.IsOf caller s) : id = caller := by
  cases a with
  | spawn goal => exact (show id = s.nextId from h).trans (show caller = s.nextId from h').symm
  | startScheduler policy => exact h.elim
  | drop x => exact (show id = x from h).trans (show caller = x from h').symm
  | move move =>
      cases move with
      | resume x => exact (show id = x from h).trans (show caller = x from h').symm
      | wake x cause => exact (show id = x from h).trans (show caller = x from h').symm
      | read x index => exact (show id = x from h).trans (show caller = x from h').symm
      | _ => exact h.elim

/-- **What a task does to the source.** -/
theorem Act.IsOf.turn (own : a.IsOf id s) (turn : s.Refreshes id → s.source.active = some id)
    (step : s.act a = some s') : Moment.Turn ⟨s, a, s'⟩ id := by
  cases own.own step with
  | spawns new begun =>
      subst new begun
      exact turn_of_spawn s _
  | drops gone =>
      subst gone
      exact turn_of_drop s id
  | reads reads => exact turn_of_stepRead reads
  | works ht resumes => exact turn_of_resumeWork ht turn resumes
  | turns ht turns after =>
      subst after
      exact turn_of_scheduler ht _

/-- What one task does leaves the builds of all others. -/
theorem Act.IsOf.spares (own : a.IsOf caller s) (other : id ≠ caller)
    (step : s.act a = some s') : s.Spares id s' := by
  have outside : a.label? s = none := by
    cases a with
    | spawn | startScheduler | drop => rfl
    | move move =>
        cases move with
        | proceed | answer | expire | pass => exact own.elim
        | read | resume | wake => rfl
  exact (keeps_of_act outside (fun own' => other (own'.unique own)) step).spares

theorem spares_of_stepSession {store : Store} {requests : List PendingRequest}
    {l : Session.Label} (step : ({ s with store, requests } : Agent).stepSession l = some s') :
    s'.source = s.source ∧ ∀ id, s.Spares id s' := by
  obtain ⟨session, events, -, absorbs⟩ := absorbs_of_stepSession step
  refine ⟨absorbs.source, fun id t' ht' _ => ?_⟩
  rw [absorbs.task?] at ht'
  obtain ⟨t, ht, rfl⟩ := Option.map_eq_some_iff.1 ht'
  exact ⟨t, events, ht, rfl⟩

/-- An act that is of no task leaves the source and all builds. -/
theorem spares_of_act (other : ∀ id, ¬ a.IsOf id s) (step : s.act a = some s') :
    s'.source = s.source ∧ ∀ id, s.Spares id s' := by
  cases a with
  | spawn goal => exact absurd rfl (other s.nextId)
  | drop caller => exact absurd rfl (other caller)
  | startScheduler policy =>
      obtain rfl := Option.some.inj step
      exact ⟨rfl, fun id => (s.keeps_startScheduler id policy).spares⟩
  | move move =>
      cases move with
      | resume caller | wake caller cause | read caller index => exact absurd rfl (other caller)
      | proceed caller => exact spares_of_stepSession step
      | answer caller =>
          obtain ⟨r, -, -, answered⟩ := stepSession_of_answer step
          exact spares_of_stepSession answered
      | expire caller =>
          obtain ⟨r, -, -, expired⟩ := stepSession_of_expire step
          exact spares_of_stepSession expired
      | pass now =>
          obtain ⟨hle, rfl⟩ := eq_of_pass step
          exact ⟨rfl, fun id => Keeps.spares (.of_task? rfl ⟨hle, Nat.le_refl _⟩)⟩

end Agent

end SecretConfig
