import SecretConfig.Proofs.Agent.Building
import SecretConfig.Proofs.Aggregation.Fates
import SecretConfig.Proofs.Session.Publications

set_option autoImplicit false

/-! # What an agent records

The metrics of an agent change only by the records that it makes. `Act.records` says what these are
for each act, and `records_of_act` that there are no others: the session has its events recorded, a
build what it skips and how its reads fare, and all else is recorded nowhere.

`Metrics.value` is what the metrics say of a record: the counter under its labels, or the gauge of
its state. -/

namespace SecretConfig

/-! ## Counters and gauges -/

namespace Metrics

variable {m : Metrics} {x : Record}

/-- What the metrics say of a record: how often it was made, or of a state, whether it is the last
one. -/
def value (m : Metrics) : Record → Nat
  | .login outcome => (m.logins.get? outcome).getD 0
  | .renewal outcome => (m.renewals.get? outcome).getD 0
  | .read kind outcome => (((m.reads.get? kind).getD Dict.empty).get? outcome).getD 0
  | .state name => if m.state = some name then 1 else 0

/-- The record is counted; that of a state takes the place of the last one instead. -/
def Record.isCounted : Record → Bool
  | state _ => false
  | login _ | renewal _ | read _ _ => true

theorem getD_bump (counts : Dict Nat) (label k : String) :
    ((bump counts label).get? k).getD 0 =
      (counts.get? k).getD 0 + if label = k then 1 else 0 := by
  rw [bump, Dict.get?_insert]
  by_cases h : label = k
  · subst h
    simp
  · simp [h, Ne.symm h]

/-- One more record counts once, under its own labels. -/
theorem value_add (counted : x.isCounted = true) (m : Metrics) (r : Record) :
    (m.add r).value x = m.value x + [r].count x := by
  cases x with
  | state name => exact nomatch counted
  | login outcome =>
      cases r with
      | login label => simp [value, add, getD_bump, List.count_singleton]
      | renewal | read | state => simp [value, add]
  | renewal outcome =>
      cases r with
      | renewal label => simp [value, add, getD_bump, List.count_singleton]
      | login | read | state => simp [value, add]
  | read kind outcome =>
      cases r with
      | login | renewal | state => simp [value, add]
      | read kind' label =>
          simp only [value, add, Dict.get?_insert]
          by_cases h : kind = kind'
          · subst h
            rw [if_pos rfl, Option.getD_some, getD_bump, List.count_singleton]
            simp
          · rw [if_neg h]
            simp [Ne.symm h]

/-- Counters count records, and keep what they have counted before. -/
theorem value_foldl_add (counted : x.isCounted = true) (m : Metrics) (records : List Record) :
    (records.foldl add m).value x = m.value x + records.count x := by
  induction records generalizing m with
  | nil => rfl
  | cons r rest ih =>
      have hsplit : r :: rest = [r] ++ rest := rfl
      rw [List.foldl_cons, ih, value_add counted, hsplit, List.count_append, Nat.add_assoc]

end Metrics

/-! ## Records of a step of the session -/

/-- The outcome under which a request of a session is recorded. -/
def outcomeLabel (success : Bool) : String := if success then "success" else "failure"

/-- What an event of the session records. -/
def Event.record? : Event → Option Metrics.Record
  | published state => some (.state state.name)
  | loginEnded success => some (.login (outcomeLabel success))
  | renewalEnded success => some (.renewal (outcomeLabel success))
  | loginSent _ _ | renewalSent _ _ | revocationSent _ _ | returned _ _ => none

/-- Who makes or drops a call records nothing. -/
theorem Session.Does.records_of_outside {s s' : Session} {now : Instant} {l : Label}
    {events : List Event} (h : s.Does now l s' events) (outside : l.isOutside = true) :
    events.filterMap Event.record? = [] := by
  cases h with
  | handOut | crashAtOnce | ask | dropHolder | dropWaiting => rfl
  | failLogin label | keep label | lose label | crashRenewing label | endRevocation label =>
      cases l with
      | «begin» | drop => exact label.elim
      | proceed | answer | expire => exact nomatch outside
  | _ => exact nomatch outside

namespace Agent

variable {start s s' : Agent} {history : List Moment} {id : CallId} {goal : Goal} {a : Act}
  {stage : Stage}

/-- The metrics have taken some records, one after the other. -/
def Records (s : Agent) (records : List Metrics.Record) (s' : Agent) : Prop :=
  s'.metrics = records.foldl Metrics.add s.metrics

theorem records_foldl_absorb (s : Agent) (events : List Event) :
    s.Records (events.filterMap Event.record?) (events.foldl absorb s) := by
  induction events generalizing s with
  | nil => rfl
  | cons e rest ih =>
      have hrest := ih (s.absorb e)
      cases e with
      | published | loginEnded | renewalEnded => exact hrest
      | loginSent | renewalSent | revocationSent | returned => exact hrest

theorem records_stepSession {l : Session.Label} (h : s.stepSession l = some s') :
    ∃ events, s.session.step s.now l = some (s'.session, events) ∧
      s.Records (events.filterMap Event.record?) s' := by
  obtain ⟨⟨session, events⟩, hstep, rfl⟩ := Option.map_eq_some_iff.1 h
  have hsession : (events.foldl absorb { s with session }).session = session :=
    (absorbs_foldl { s with session } events).session
  exact ⟨events, by rw [hsession]; exact hstep, records_foldl_absorb { s with session } events⟩

/-! ## Records of a task -/

@[simp] theorem metrics_ask (s : Agent) (id : CallId) (call : Call) :
    (s.ask id call).metrics = s.metrics := by
  cases hstep : s.stepSession (.begin id call) with
  | none => simp [ask, hstep]
  | some s' =>
      obtain ⟨events, step, records⟩ := records_stepSession hstep
      rw [(Session.does_of_step step).records_of_outside rfl] at records
      simpa [ask, hstep, Records] using records

@[simp] theorem metrics_abandon (s : Agent) (id : CallId) :
    (s.abandon id).metrics = s.metrics := by
  cases hstep : s.stepSession (.drop id) with
  | none => simp [abandon, hstep, forget]
  | some s' =>
      obtain ⟨events, step, records⟩ := records_stepSession hstep
      rw [(Session.does_of_step step).records_of_outside rfl] at records
      simpa [abandon, hstep, forget, Records] using records

@[simp] theorem metrics_enterStop (s : Agent) (id : CallId) (scheduler : Option CallId)
    (revoke : Bool) (failure : Option Error) :
    (s.enterStop id scheduler revoke failure).metrics = s.metrics := by
  cases scheduler with
  | none => exact metrics_ask _ id _
  | some target => rfl

@[simp] theorem metrics_finishBuild (s : Agent) (id : CallId) (goal : Goal)
    (result : Except Error (List Layer)) : (s.finishBuild id goal result).metrics = s.metrics := by
  unfold finishBuild
  split
  case h_6 => exact metrics_enterStop _ id _ _ _
  all_goals rfl

/-- A build records what it skips when it plans its reads. -/
theorem records_enterBuild (s : Agent) (id : CallId) (goal : Goal) (o : BuildOptions)
    (ds : List Descriptor) :
    s.Records (Build.plan s.registry o ds).2 (s.enterBuild id goal o ds) := by
  unfold Records enterBuild
  obtain ⟨planned, records⟩ := Build.plan s.registry o ds
  cases planned with
  | error e => exact metrics_finishBuild _ id goal _
  | ok reads =>
      cases reads with
      | nil => exact metrics_finishBuild _ id goal _
      | cons r rest => exact metrics_ask _ id _

theorem metrics_loggedIn (s : Agent) (id : CallId) (goal : Goal) (policy : RenewalPolicy)
    (revoke : Bool) (reply : Reply) :
    (s.loggedIn id goal policy revoke reply).metrics = s.metrics := by
  unfold loggedIn
  split
  · split <;> rfl
  · rfl

@[simp] theorem metrics_schedulerStopped (s : Agent) (id : CallId) (goal : Goal) :
    (s.schedulerStopped id goal).metrics = s.metrics := by
  unfold schedulerStopped
  split
  · exact metrics_ask _ id _
  · rfl

/-- A task that acts for itself records nothing. -/
theorem metrics_perform (s : Agent) (id : CallId) (goal : Goal) :
    (s.perform id goal).metrics = s.metrics := by
  unfold perform
  split
  · split <;> rfl
  · split <;> rfl
  · split <;> rfl
  · split <;> rfl
  · split <;> rfl
  · rfl

/-- What a task records that goes on from a stage: what it skips if it has its turn to build, and
nothing otherwise. -/
def skips (s : Agent) : Stage → List Metrics.Record
  | .queued => (Build.plan s.registry s.source.options s.source.descriptors).2
  | _ => []

theorem records_resumeWork (step : s.resumeWork id goal stage = some s') :
    s.Records (s.skips stage) s' := by
  unfold resumeWork at step
  split at step
  · split at step
    · obtain rfl := Option.some.inj step
      exact metrics_loggedIn s id _ _ _ _
    · obtain rfl := Option.some.inj step
      rfl
  · simp only [Option.ite_none_right_eq_some, Option.some.injEq] at step
    obtain ⟨-, rfl⟩ := step
    exact records_enterBuild s id goal _ _
  · split at step
    · obtain rfl := Option.some.inj step
      rfl
    · obtain rfl := Option.some.inj step
      exact metrics_finishBuild s id goal _
    · obtain rfl := Option.some.inj step
      rfl
  · simp only [Option.ite_none_right_eq_some, Option.some.injEq] at step
    obtain ⟨-, rfl⟩ := step
    exact metrics_finishBuild s id goal _
  · split at step
    · obtain rfl := Option.some.inj step
      exact metrics_schedulerStopped s id goal
    · simp only [Option.ite_none_right_eq_some, Option.some.injEq] at step
      obtain ⟨-, rfl⟩ := step
      exact (metrics_schedulerStopped _ id goal).trans (metrics_abandon s _)
  · obtain rfl := Option.some.inj step
    rfl
  · simp only [Option.ite_none_right_eq_some, Option.some.injEq] at step
    obtain ⟨-, rfl⟩ := step
    exact metrics_perform s id goal
  all_goals exact nomatch step

theorem records_spawn (s : Agent) (goal : Goal) :
    s.Records (goal.build?.elim [] fun build => (Build.plan s.registry build.1 build.2).2)
      (s.spawn goal).1 := by
  cases goal with
  | layers o ds | properties o ds => exact records_enterBuild (s.withTask _) s.nextId _ o ds
  | call | start => exact metrics_ask _ _ _
  | stop => exact metrics_enterStop _ _ _ _ _
  | refresh | load | stopScheduler | pause | login | renew | revoke | read | write => rfl

/-! ## Records of an act -/

/-- What a task records when it goes on. -/
def resumed (s : Agent) (id : CallId) : List Metrics.Record :=
  match s.task? id with
  | some (.work _ stage) => s.skips stage
  | _ => []

/-- What a build records when one of its reads ends: how its backend fares. -/
def fared (s : Agent) (id : CallId) (index : Nat) : List Metrics.Record :=
  match s.task? id with
  | some (.work _ (.reading o t slots)) =>
    (slots[index]?.bind fun r => (s.answerTo o t r).map fun answer =>
      r.read.descriptor.record (r.read.layer o answer).2).toList
  | _ => []

/-- What an act records: what a build skips when it plans its reads, how a read has ended, or what
the session has to say of its step. -/
def Act.records (s : Agent) (a : Act) : List Metrics.Record :=
  match a with
  | .spawn goal => goal.build?.elim [] fun build => (Build.plan s.registry build.1 build.2).2
  | .move (.resume id) => s.resumed id
  | .move (.read id index) => s.fared id index
  | a =>
    ((a.label? s).bind (s.session.step s.now)).elim [] fun r => r.2.filterMap Event.record?

/-- Whatever is no step of the session records reads only. -/
theorem Act.records_of_outside (outside : a.label? s = none) :
    ∀ r ∈ a.records s, ∃ kind outcome, r = .read kind outcome := by
  have skips (o : BuildOptions) (ds : List Descriptor) :
      ∀ r ∈ (Build.plan s.registry o ds).2, ∃ kind outcome, r = .read kind outcome := by
    intro r hr
    rw [Build.records_of_plan] at hr
    obtain ⟨d, -, rfl⟩ := List.mem_map.1 hr
    exact ⟨_, _, rfl⟩
  cases a with
  | startScheduler | drop => exact nofun
  | spawn goal =>
      cases goal with
      | layers o ds | properties o ds => exact skips o ds
      | _ => exact nofun
  | move move =>
      cases move with
      | proceed | expire => exact nomatch outside
      | pass | wake => exact nofun
      | answer id =>
          intro r hr
          simp [records, outside] at hr
      | read id index =>
          intro r hr
          have hfared : r ∈ s.fared id index := hr
          unfold fared at hfared
          split at hfared
          · rw [Option.mem_toList, Option.bind_eq_some_iff] at hfared
            obtain ⟨slot, -, hanswer⟩ := hfared
            obtain ⟨answer, -, rfl⟩ := Option.map_eq_some_iff.1 hanswer
            exact ⟨_, _, rfl⟩
          · exact nomatch hfared
      | resume id =>
          intro r hr
          have hresumed : r ∈ s.resumed id := hr
          unfold resumed at hresumed
          split at hresumed
          · rename_i goal stage ht
            cases stage with
            | queued => exact skips _ _ r hresumed
            | _ => exact nomatch hresumed
          · exact nomatch hresumed

/-- A step of the session records what its events do. -/
theorem Act.records_of_label? {l : Session.Label} {session : Session} {events : List Event}
    (label : a.label? s = some l) (step : s.session.step s.now l = some (session, events)) :
    a.records s = events.filterMap Event.record? := by
  cases a with
  | spawn | startScheduler | drop => exact nomatch label
  | move move =>
      cases move with
      | read | resume | wake | pass => exact nomatch label
      | proceed | answer | expire => simp only [records, label, Option.bind_some, step, Option.elim]

/-- The session takes a step within an agent. -/
theorem records_of_step {l : Session.Label} (store : Store) (requests : List PendingRequest)
    (label : a.label? s = some l)
    (step : ({ s with store, requests } : Agent).stepSession l = some s') :
    s.Records (a.records s) s' := by
  obtain ⟨events, hstep, records⟩ := records_stepSession step
  rw [Act.records_of_label? label hstep]
  exact records

theorem records_turn (s : Agent) (id : CallId) (next : Scheduler × Option Call) :
    s.Records [] (s.turn id next) := by
  obtain ⟨sched, call⟩ := next
  cases call with
  | none => rfl
  | some call => exact metrics_ask _ id call

theorem records_stepTask (step : s.stepTask id = some s') : s.Records (s.resumed id) s' := by
  unfold resumed
  cases resumes_of_stepTask step with
  | works ht step =>
      simp only [ht]
      exact records_resumeWork step
  | turns ht turn after =>
      subst after
      simp only [ht]
      exact s.records_turn id _

theorem records_stepRead {index : Nat} (step : s.stepRead id index = some s') :
    s.Records (s.fared id index) s' := by
  obtain ⟨goal, o, t, slots, -, -, ht, -⟩ := park_of_stepRead step
  obtain ⟨r, answer, hr, -, hanswer, rfl⟩ := slot_of_stepRead ht step
  simp only [fared, ht, hr, hanswer, Option.bind_some, Option.map_some, Option.toList_some]
  rfl

/-- **What an act records.** Nothing else changes the metrics. -/
theorem records_of_act (step : s.act a = some s') : s.Records (a.records s) s' := by
  cases a with
  | spawn goal =>
      obtain rfl := Option.some.inj step
      exact s.records_spawn goal
  | startScheduler policy =>
      obtain rfl := Option.some.inj step
      rfl
  | drop id =>
      obtain rfl := Option.some.inj step
      exact metrics_abandon s id
  | move move =>
      cases move with
      | proceed id => exact records_of_step s.store s.requests rfl step
      | answer id =>
          obtain ⟨r, found, -, answered⟩ := stepSession_of_answer step
          exact records_of_step _ _ (by simp [Act.label?, Act.answered?, found]) answered
      | expire id =>
          obtain ⟨r, -, -, expired⟩ := stepSession_of_expire step
          exact records_of_step s.store _ rfl expired
      | read id index => exact records_stepRead step
      | resume id => exact records_stepTask step
      | wake id cause =>
          obtain ⟨sched, next, -, -, rfl⟩ := turn_of_wake step
          exact s.records_turn id next
      | pass now =>
          obtain ⟨-, rfl⟩ := eq_of_pass step
          rfl

end Agent

end SecretConfig
