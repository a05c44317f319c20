import SecretConfig.Proofs.Agent.Ledger
import SecretConfig.Proofs.Agent.Timely

set_option autoImplicit false

/-! # No live token is left behind

An agent over a store in memory that is to revoke its token at the end leaves no token of a login
alive, however it ends: its start may fail at the login or at the first refresh, and a stop may
have to give up an attempt of the scheduler in the middle of a renewal or a login
(`Run.leaves_no_token`).

When a start has failed or a stop has come to its end, everything has (`Era.isClosed`), and then
nothing happens any more but that time passes (`IsClosed.run`). What the session received until
then is accounted for by the run of the session (`Session.Run.accounts`), and what it has sent for
revocation by the store (`Ledger`). All of this goes along with a run of the agent
(`Run.audited`). -/

namespace SecretConfig

namespace Task

variable {id : CallId} {t : Task}

/-- The task does nothing any more. -/
inductive IsDone : Task → Prop
  | ended {goal : Goal} {endedAt : Instant} {outcome : Outcome} :
      IsDone (.work goal (.ended endedAt outcome))
  | stopped {sched : Scheduler} (phase : sched.phase = .stopped) : IsDone (.scheduler sched)

theorem IsOver.isDone (h : t.IsOver id) : t.IsDone := by
  cases h with
  | ended => exact .ended
  | stopped phase => exact .stopped phase

/-- The task ended the agent: it is a failed start or the last stop. -/
inductive EndsAgent (id : CallId) : Task → Prop
  | failed {goal : Goal} {endedAt : Instant} {e : Error} (first : id = 0) :
      EndsAgent id (.work goal (.ended endedAt (.failed e)))
  | stopped {scheduler : Option CallId} {revoke : Bool} {endedAt : Instant} {outcome : Outcome} :
      EndsAgent id (.work (.stop scheduler revoke none) (.ended endedAt outcome))

theorem IsOver.not_endsAgent (h : t.IsOver id) : ¬ t.EndsAgent id := by
  rintro (first | -)
  · cases h with
    | ended kind fine => exact fine first _ rfl
  · cases h with
    | ended kind => exact nomatch kind

theorem IsRefresh.not_endsAgent (h : t.IsRefresh) (later : id ≠ 0) : ¬ t.EndsAgent id := by
  rintro (first | -)
  · exact later first
  · exact nomatch h

end Task

namespace Agent

variable {start s s' : Agent} {id main : CallId} {trace : List Session.Moment}
  {history later : List Moment} {goal : Goal} {stage : Stage} {c : Settings} {base : MemoryStore}
  {files : Files} {registry : Registry} {store : Store}

/-! ## When everything has come to its end -/

/-- No task does anything any more, and the session waits for nothing. -/
structure IsClosed (s : Agent) : Prop where
  tasks : ∀ id t, s.task? id = some t → t.IsDone
  active : s.session.active = none
  requests : s.requests = []

theorem IsClosed.isStopped (h : s.IsClosed) (id : CallId) : s.isStopped id = true := by
  unfold Agent.isStopped
  cases hsched : s.scheduler? id with
  | none => rfl
  | some sched =>
      cases h.tasks id _ (task?_of_scheduler? hsched) with
      | stopped phase => simp [Scheduler.isStopped, phase]

/-- Nothing happens any more but that time passes. -/
theorem IsClosed.step (h : s.IsClosed) {move : Move} (step : s.step move = some s') :
    ∃ now, s' = { s with now } := by
  cases move with
  | proceed id =>
      obtain ⟨call, holder⟩ := active_of_proceed step
      cases h.active.symm.trans holder
  | answer id =>
      obtain ⟨r, hr, -⟩ := request_of_answer step
      rw [h.requests] at hr
      cases hr
  | expire id =>
      obtain ⟨r, hr, -⟩ := request_of_expire step
      rw [h.requests] at hr
      cases hr
  | read id index =>
      obtain ⟨goal, o, t, slots, ht, -⟩ := task_of_read step
      cases h.tasks id _ ht
  | resume id =>
      cases resumes_of_stepTask step with
      | works ht step =>
          cases h.tasks id _ ht with
          | ended => cases step
      | turns ht step =>
          cases h.tasks id _ ht with
          | stopped phase => simp [Scheduler.step, phase] at step
  | wake id cause =>
      obtain ⟨sched, ⟨next, call⟩, ht, hwake, -⟩ := turn_of_wake step
      obtain ⟨due, waiting⟩ := (Scheduler.wakes_of_wake hwake).waiting
      cases h.tasks id _ ht with
      | stopped phase => cases phase.symm.trans waiting
  | pass now =>
      exact ⟨now, (eq_of_pass step).2⟩

/-- The act is a move of the agent by itself. -/
def Act.isMove : Act → Bool
  | .move _ => true
  | _ => false

/-- An agent in which everything has come to its end stays as it is. -/
theorem IsClosed.run (h : s.IsClosed) (run : Run s later s')
    (moves : ∀ m ∈ later, m.act.isMove = true) : ∃ now, s' = { s with now } := by
  induction run with
  | start => exact ⟨s.now, rfl⟩
  | next run step ih =>
      rename_i past s₁ s₂ a
      obtain ⟨now, rfl⟩ := ih fun m hm => moves m (List.mem_cons_of_mem _ hm)
      have hmove := moves _ List.mem_cons_self
      have closed : ({ s with now } : Agent).IsClosed := ⟨h.tasks, h.active, h.requests⟩
      cases a with
      | move move => exact closed.step step
      | _ => exact nomatch hmove

/-! ## When an agent has returned -/

theorem HasReturned.task (h : s.HasReturned) :
    ∃ id t, s.task? id = some t ∧ t.EndsAgent id := by
  rcases h with ⟨endedAt, e, hresult⟩ | ⟨id, scheduler, revoke, endedAt, outcome, ht⟩
  · obtain ⟨goal, ht⟩ := task?_of_result? hresult
    exact ⟨0, _, ht, .failed rfl⟩
  · exact ⟨id, _, ht, .stopped⟩

/-- The task that ended the agent is the one that no other can be. -/
theorem Others.endsAgent {P : CallId → Task → Prop} {t : Task} (others : s.Others main P)
    (hmain : s.task? main = some t)
    (never : ∀ id t, id ≠ main → P id t → ¬ t.EndsAgent id) (returned : s.HasReturned) :
    t.EndsAgent main := by
  obtain ⟨id, u, hu, ends⟩ := returned.task
  rcases others.eq_or hmain hu with ⟨rfl, rfl⟩ | ⟨hid, h⟩
  · exact ends
  · exact absurd ends (never id u hid h)

/-- Where the main task has ended and the others are over, everything has come to its end. -/
theorem Traced.isClosed (traced : Traced start trace none s) {endedAt : Instant}
    {outcome : Outcome} (ended : s.task? main = some (.work goal (.ended endedAt outcome)))
    (others : s.Others main fun id t => t.IsOver id) : s.IsClosed := by
  have idle : s.awaits? main = none := by
    rw [awaits?_of_task? ended]
    cases goal <;> rfl
  have free := traced.free (others.awaits? idle)
  refine ⟨?_, free, ?_⟩
  · intro id t ht
    exact others.all ended .ended (fun _ _ _ done => done.isDone) ht
  · have sent := traced.sent
    rw [Session.inFlight, free] at sent
    exact List.map_eq_nil_iff.1 sent

theorem Leftover.not_endsAgent {scheduler : Option CallId} {t : Task}
    (h : Leftover scheduler id t) : ¬ t.EndsAgent id := by
  rcases h with done | ⟨-, sched, rfl⟩
  · exact done.not_endsAgent
  · rintro ⟨⟩

/-- When a start has failed or a stop has come to its end, everything has, and the session is
unauthenticated. -/
theorem Era.isClosed (h : s.Era) (traced : Traced start trace none s) (returned : s.HasReturned) :
    s.IsClosed ∧ s.session.state = .unauthenticated := by
  cases h with
  | idle first =>
      obtain ⟨id, t, ht, -⟩ := returned.task
      exact nomatch (traced.task?_eq_none first id).symm.trans ht
  | starting main others =>
      exact nomatch others.endsAgent main (fun _ _ _ done => done.not_endsAgent) returned
  | busy busy =>
      exfalso
      cases busy with
      | loading main building others =>
          have ends := others.endsAgent main (fun _ _ _ other => other.not_endsAgent) returned
          cases ends with
          | failed => exact nomatch building
      | serving main fine others =>
          have ends := others.endsAgent main (fun _ _ later other => other.elim
            (fun refresh => refresh.not_endsAgent later) Leftover.not_endsAgent) returned
          cases ends with
          | failed => exact fine.ne_failed _ rfl
      | stopping stops others =>
          exact nomatch others.endsAgent stops (fun _ _ _ other => other.not_endsAgent) returned
  | closing closes others =>
      exact nomatch others.endsAgent closes (fun _ _ _ done => done.not_endsAgent) returned
  | closed ended kind others ending =>
      have closed := traced.isClosed ended others
      refine ⟨closed, ending.resolve_right ?_⟩
      rintro ⟨id, holder⟩
      exact nomatch closed.active.symm.trans holder

/-! ## Orderly runs -/

/-- What happens is what may be asked of an agent with the settings. -/
def Moment.IsOrderly (c : Settings) (m : Moment) : Prop := m.before.allows c m.act = true

/-- A revocation in flight is not cut off: it is answered, or it is in flight still. A store in
memory revokes at once, so that whoever waits for it cannot be dropped in between. -/
def Moment.KeepsRevocation (m : Moment) : Prop :=
  m.before.session.revoking? ≠ none →
    m.act.answered? m.before ≠ none ∨ m.after.session.revoking? = m.before.session.revoking?

instance (c : Settings) (m : Moment) : Decidable (m.IsOrderly c) :=
  inferInstanceAs (Decidable (_ = true))

instance (m : Moment) : Decidable m.KeepsRevocation :=
  inferInstanceAs (Decidable (_ ≠ _ → _ ≠ _ ∨ _ = _))

/-- The step that the session takes. -/
def Moment.step? (m : Moment) : Option Session.Moment := do
  let label ← m.act.label? m.before
  let (after, events) ← m.before.session.step m.before.now label
  return ⟨m.before.session, m.before.now, label, after, events⟩

/-- The tokens that the session received, the latest first. -/
def received (history : List Moment) : List Token :=
  Session.received (history.filterMap Moment.step?)

theorem Act.Steps.step? {a : Act} {l : Session.Label} {events : List Event}
    (h : a.Steps s l events s') :
    Moment.step? ⟨s, a, s'⟩ = some ⟨s.session, s.now, l, s'.session, events⟩ := by
  simp [Moment.step?, h.label, h.step]

theorem received_cons_none {m : Moment} (none : m.act.label? m.before = none) :
    received (m :: history) = received history := by
  simp [received, Moment.step?, none]

theorem received_cons_some {m : Moment} {v : Session.Moment} (some : m.step? = some v) :
    received (m :: history) = v.received?.toList ++ received history := by
  rw [received, List.filterMap_cons_some some, Session.received_cons]
  rfl

/-! ## Every run -/

/-- A build waits for nothing but a token. -/
theorem awaits?_of_isBuild (building : stage.isBuild = true) :
    (Task.work goal stage).awaits? = none ∨
      (Task.work goal stage).awaits? = some .getToken := by
  cases stage with
  | calling | stopping | closing | waiting | ended => exact nomatch building
  | queued | reading => exact .inl (by cases goal <;> rfl)
  | obtaining o reads reply =>
      cases reply with
      | none => exact .inr (by cases goal <;> rfl)
      | some reply => exact .inl (by cases goal <;> rfl)

/-- An agent that is to revoke its token at the end does not shut its session down otherwise. -/
theorem Era.revokes (h : s.Era) (traced : Traced start trace none s) {revoke : Bool}
    (waits : s.awaits? id = some (.shutdown revoke)) : revoke = true := by
  cases ht : s.task? id with
  | none => simp [Agent.awaits?, ht] at waits
  | some t =>
      rw [awaits?_of_task? ht] at waits
      cases h.serves traced ht with
      | @starts policy reply => cases reply <;> cases waits
      | builds kind building =>
          rcases awaits?_of_isBuild building with none | asks
          · cases none.symm.trans waits
          · cases asks.symm.trans waits
      | stops => cases waits
      | @closes scheduler failure reply =>
          cases reply with
          | none => exact (Call.shutdown.inj (Option.some.inj waits)).symm
          | some r => cases waits
      | @ended goal => cases goal <;> cases waits
      | @schedules sched =>
          simp only [Task.awaits?, Scheduler.awaits?] at waits
          split at waits <;> cases waits

/-- What is known of an agent after a run: where it stands, how its store agrees with the run of
its session, and that this is not shut down without revoking. -/
structure Audited (start : Agent) (base : MemoryStore) (history : List Moment) (s : Agent)
    (trace : List Session.Moment) (m : MemoryStore) : Prop where
  traced : Traced start trace none s
  era : s.Era
  ledger : Ledger start base trace s m
  tokens : Session.received trace = received history
  revokes : ∀ v ∈ trace, ¬ v.GoesOn (.shutdown false)

theorem Audited.fresh (fresh : start.IsFresh) (first : start.nextId = 0)
    (store : start.store = .memory base) : Audited start base [] start [] base where
  traced := fresh.traced
  era := by
    refine .idle first ⟨?_, ?_⟩ <;> rw [fresh.session]
    rfl
  ledger := .fresh fresh store
  tokens := rfl
  revokes _ hv := absurd hv List.not_mem_nil

theorem Audited.act {m : MemoryStore} (h : Audited start base history s trace m)
    (revoke : c.lifecycle.revokeOnShutdown = true) {a : Act} (allowed : s.allows c a = true)
    (step : s.act a = some s') (keeps : Moment.KeepsRevocation ⟨s, a, s'⟩) :
    ∃ trace' m', Audited start base (⟨s, a, s'⟩ :: history) s' trace' m' := by
  have era := h.era.act h.traced revoke allowed step
  rcases h.traced.act step with ⟨l, events, steps, next⟩ | ⟨none, calls, next, outside⟩
  · -- a revocation that stays in flight would not let the session go on
    have answered (busy : s.session.revoking? ≠ none) : a.answered? s ≠ none := by
      refine (keeps busy).resolve_right fun same => busy ?_
      rw [← same]
      exact (Session.does_of_step steps.step).revoking?_eq_none
        (Act.isOutside_of_label? steps.label) busy
    obtain ⟨m', ledger⟩ := h.ledger.steps h.traced steps answered
    refine ⟨_, m', next, era, ledger, ?_, ?_⟩
    · rw [received_cons_some steps.step?, Session.received_cons, h.tokens]
    · intro v hv
      rcases List.mem_cons.1 hv with rfl | hv
      · rintro ⟨id, holder, -⟩
        exact nomatch h.era.revokes h.traced (h.traced.awaits?_of_active holder)
      · exact h.revokes v hv
  · obtain ⟨hreceived, -, -, hidle⟩ := next.run.outside h.traced.run outside
    have same : s'.session.revoking? = s.session.revoking? := by
      cases hrevoking : s.session.revoking? with
      | none => exact hidle hrevoking
      | some t =>
          rw [← hrevoking]
          refine (keeps ?_).resolve_left (· (Act.answered?_eq_none none))
          simp [hrevoking]
    obtain ⟨m', ledger⟩ := h.ledger.outside h.traced next outside
      (h.era.keepsStore h.traced allowed none step) same
    refine ⟨_, m', next, era, ledger, ?_, ?_⟩
    · rw [received_cons_none none, hreceived, h.tokens]
    · intro v hv
      rcases List.mem_append.1 hv with hv | hv
      · -- whoever makes or drops a call does not go on with one
        rintro ⟨id, -, label⟩
        have := outside v hv
        rw [label] at this
        exact nomatch this
      · exact h.revokes v hv

theorem Run.audited (run : Run start history s) (fresh : start.IsFresh)
    (first : start.nextId = 0) (store : start.store = .memory base)
    (revoke : c.lifecycle.revokeOnShutdown = true) (orderly : ∀ m ∈ history, m.IsOrderly c)
    (keeps : ∀ m ∈ history, m.KeepsRevocation) :
    ∃ trace m, Audited start base history s trace m := by
  induction run with
  | start => exact ⟨[], base, .fresh fresh first store⟩
  | next run step ih =>
      obtain ⟨trace, m, audited⟩ := ih (fun m hm => orderly m (List.mem_cons_of_mem _ hm))
        fun m hm => keeps m (List.mem_cons_of_mem _ hm)
      exact audited.act revoke (orderly _ List.mem_cons_self) step (keeps _ List.mem_cons_self)

/-- An agent that settings describe has done nothing yet. -/
theorem fresh_of_agent (agent : c.agent files store registry = .ok start) :
    start.IsFresh ∧ start.nextId = 0 ∧ start.store = store := by
  unfold Settings.agent at agent
  cases hstrategy : c.authentication.strategy with
  | error e =>
      rw [hstrategy] at agent
      exact nomatch agent
  | ok strategy =>
      rw [hstrategy] at agent
      obtain rfl := Except.ok.inj agent
      exact ⟨⟨rfl, rfl, rfl⟩, rfl, rfl⟩

/-- The value was revoked exactly once, or never, and then the lease has ended that a token with
the value had last. -/
def IsSpent (tokens : List Token) (revoked : List String) (now : Instant) (value : Secret) : Prop :=
  revoked.count value.value = 1 ∨
    revoked.count value.value = 0 ∧
      ∃ t, tokens.find? (fun t => t.value = value) = some t ∧ t.HasEnded now

theorem Audited.isSpent {m : MemoryStore} (h : Audited start base history s trace m)
    (unauthenticated : s.session.state = .unauthenticated) {t : Token}
    (ht : t ∈ Agent.received history) (origin : t.origin = .login) :
    IsSpent (Agent.received history) ((Session.revoked trace).map fun t => t.value.value).reverse
      s.now t.value := by
  have run := h.traced.run
  rw [← h.tokens] at ht ⊢
  have login : ∀ v, start.session.strategy ≠ .token v := by
    rcases run.origin_of_received ht with ⟨static, -⟩ | ⟨-, login, -⟩
    · exact nomatch origin.symm.trans static
    · exact login
  have once : ((Session.revoked trace).map fun t => t.value.value).Nodup := by
    have secrets := run.revoked_nodup (h.ledger.issued login).1
    have values : (((Session.revoked trace).map Token.value).map Secret.value).Nodup :=
      List.Pairwise.map Secret.value (fun _ _ other same => other (congrArg Secret.mk same)) secrets
    rwa [List.map_map] at values
  unfold IsSpent
  rw [List.count_reverse, once.count]
  by_cases hmem : t.value.value ∈ (Session.revoked trace).map fun t => t.value.value
  · exact .inl (if_pos hmem)
  · refine .inr ⟨if_neg hmem, ?_⟩
    cases run.accounts h.revokes login ht with
    | published token =>
        -- nothing is published any more
        rw [unauthenticated] at token
        exact nomatch token
    | revoked sent =>
        obtain ⟨u, hu, same⟩ := List.mem_map.1 sent
        exact absurd (List.mem_map.2 ⟨u, hu, congrArg Secret.value same⟩) hmem
    | ended latest hm ended => exact ⟨_, latest, ended.mono (h.traced.clock _ hm)⟩

/-- **No live token is left behind.** Let an agent over a store in memory be started, refreshed any
number of times and stopped when no refresh is under way, and let its token be revoked at the end.
However its scheduler acts in between, and wherever in a renewal or a login it is cut off, as soon
as the start has failed or the stop has come to its end:

* the session is unauthenticated, or there never was one because the strategy is not complete;
* the scheduler has stopped and no request is in flight, and nothing happens any more but that time
  passes;
* every token of a login that the session ever received was revoked exactly once, or its lease has
  ended. -/
theorem Run.leaves_no_token (revoke : c.lifecycle.revokeOnShutdown = true) :
    (∀ e, c.authentication.strategy = .error e →
      c.agent files (.memory base) registry = .error e) ∧
    ∀ start history s, c.agent files (.memory base) registry = .ok start →
      Run start history s → (∀ m ∈ history, m.IsOrderly c) → (∀ m ∈ history, m.KeepsRevocation) →
      s.HasReturned →
      s.session.state = .unauthenticated ∧ (∀ id, s.isStopped id = true) ∧ s.requests = [] ∧
      (∀ later s', Run s later s' → (∀ m ∈ later, m.act.isMove = true) →
        ∃ now, s' = { s with now }) ∧
      ∃ m revoked, s.store = .memory m ∧ m.revoked = base.revoked ++ revoked ∧
        ∀ t ∈ received history, t.origin = .login →
          IsSpent (received history) revoked s.now t.value := by
  refine ⟨?_, ?_⟩
  · intro e failed
    unfold Settings.agent
    rw [failed]
    rfl
  · intro start history s agent run orderly keeps returned
    obtain ⟨fresh, first, store⟩ := fresh_of_agent agent
    obtain ⟨trace, m, audited⟩ := run.audited fresh first store revoke orderly keeps
    obtain ⟨closed, unauthenticated⟩ := audited.era.isClosed audited.traced returned
    refine ⟨unauthenticated, closed.isStopped, closed.requests,
      fun later s' run moves => closed.run run moves, m,
      ((Session.revoked trace).map fun t => t.value.value).reverse, audited.ledger.store, ?_,
      fun t ht origin => audited.isSpent unauthenticated ht origin⟩
    have none : s.session.revoking? = none := by
      unfold Session.revoking?
      rw [closed.active]
    have hrevoked := audited.ledger.revoked
    rwa [none, Option.toList_none, List.map_nil, List.append_nil] at hrevoked

/-- Settings with a role to log in to; the token is revoked at the end. -/
def roleSettings : Settings :=
  { authentication := { method := .appRole, appRole := { roleId := some "role" } } }

/-- A store whose renewals take longer than a stop waits for the scheduler, and grant four seconds
instead of a minute. -/
def sluggishStore : MemoryStore :=
  { renewalLease := some (4000 : Duration), renewalDelay := (8000 : Duration) }

/-- The agent that the settings describe over the store. -/
def sluggishStart : Agent :=
  { files := default
    store := .memory sluggishStore
    registry := .standard
    session := { strategy := .appRole "approle" "role" none, timeout := 10000 }
    source :=
      { descriptors := roleSettings.backends.descriptors
        options := roleSettings.backends.options } }

/-- A start, a refresh, an attempt that renews, logs in again and has the old token revoked, and a
second attempt that a stop gives up in the middle of its renewal. -/
def abortedHistory : List Moment :=
  replay sluggishStart []
    [.spawn roleSettings.startGoal, .move (.proceed 0), .move (.answer 0), .move (.resume 0),
      .move (.resume 0), .move (.resume 0), .move (.read 0 0), .move (.resume 0),
      .move (.resume 1), .spawn .refresh, .move (.resume 2), .move (.resume 2),
      .move (.read 2 0), .move (.resume 2), .move (.pass 55000), .move (.wake 1 .timer),
      .move (.proceed 1), .move (.pass 63000), .move (.answer 1), .move (.resume 1),
      .move (.proceed 1), .move (.answer 1), .move (.answer 1), .move (.resume 1),
      .move (.resume 1), .move (.pass 118000), .move (.wake 1 .timer), .move (.proceed 1),
      .spawn (roleSettings.stopGoal (some 1)), .move (.pass 123000), .move (.resume 3),
      .move (.proceed 3), .move (.answer 3), .move (.resume 3)]

theorem leaves_no_token_abortedHistory :
    roleSettings.lifecycle.revokeOnShutdown = true ∧
      roleSettings.agent default (.memory sluggishStore) .standard = .ok sluggishStart ∧
      (∀ m ∈ abortedHistory, m.IsOrderly roleSettings) ∧
      (∀ m ∈ abortedHistory, m.KeepsRevocation) ∧
      ((received abortedHistory).map fun t => t.value.value) =
        ["mem-token-2", "mem-token-1", "mem-token-1"] ∧
      ∃ s, Run sluggishStart abortedHistory s ∧ s.HasReturned ∧ s.now = 123000 ∧
        s.session.state = .unauthenticated ∧ s.isStopped 1 = true ∧ s.requests = [] ∧
        ∃ m, s.store = .memory m ∧ ∀ t ∈ received abortedHistory, t.origin = .login →
          IsSpent (received abortedHistory) m.revoked s.now t.value := by
  have revoke : roleSettings.lifecycle.revokeOnShutdown = true := rfl
  have agent : roleSettings.agent default (.memory sluggishStore) .standard = .ok sluggishStart :=
    rfl
  have orderly : ∀ m ∈ abortedHistory, m.IsOrderly roleSettings := by decide +kernel
  have keeps : ∀ m ∈ abortedHistory, m.KeepsRevocation := by decide +kernel
  have run : Run sluggishStart abortedHistory (latest sluggishStart abortedHistory) :=
    Run.start.replay _
  have returned : (latest sluggishStart abortedHistory).HasReturned :=
    .inr ⟨3, some 1, true, 123000, .done, rfl⟩
  obtain ⟨state, stopped, requests, -, m, revoked, store, hrevoked, spent⟩ :=
    (Run.leaves_no_token revoke).2 _ _ _ agent run orderly keeps returned
  refine ⟨revoke, agent, orderly, keeps, by decide +kernel, _, run, returned, rfl, state,
    stopped 1, requests, m, store, ?_⟩
  rwa [hrevoked]

end Agent

end SecretConfig
