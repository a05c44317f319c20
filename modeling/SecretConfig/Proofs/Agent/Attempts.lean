import SecretConfig.Proofs.Agent.Runs
import SecretConfig.Proofs.Session.Attempts
import SecretConfig.Proofs.Session.Scheduling
import SecretConfig.Proofs.Store.Memory

set_option autoImplicit false

/-! # The attempts of a scheduler

A scheduler works over a store without faults, and everybody else is idle. Between two attempts
the scheduler waits; an attempt asks for the renewal, waits for the answer and, if the new lease
is a last one, asks for a login and has the old token revoked. `Stand` lists where an attempt can
be, what the session and its requests look like there, and how far the clock may have gone.

Every stand but those that wait can be left at once, for another one (`Calm.look`, `Calm.fire`,
…, `Calm.finish`). If the threshold of the policy and the leases of the store leave enough room
for the delays of the store (`MemoryStore.Sustains`), the published token lasts in each of them
(`Upkept.lasts`). -/

namespace SecretConfig

/-- The delays of the store fit into the time that the policy and the leases leave: `slack`
bounds the delays, and is less than the threshold and what the leases have above the distance of
two attempts. -/
structure MemoryStore.Sustains (m : MemoryStore) (policy : RenewalPolicy)
    (timeout slack : Duration) : Prop where
  enabled : policy.enabled = true
  threshold : slack < policy.threshold
  lease : policy.retryInterval + slack < m.lease
  renewalLease : policy.retryInterval + slack < m.renewalLease.getD m.lease
  loginDelay : m.loginDelay ≤ slack
  renewalDelay : m.renewalDelay ≤ slack
  timeout : slack < timeout

/-- The task has ended, or is a call that has its reply. -/
inductive Task.IsIdle : Task → Prop
  | ended (goal : Goal) (endedAt : Instant) (outcome : Outcome) :
    IsIdle (.work goal (.ended endedAt outcome))
  | replied (call : Call) (reply : Reply) : IsIdle (.work (.call call) (.calling (some reply)))

theorem Task.IsIdle.deliver {task : Task} (h : task.IsIdle) (reply : Reply) :
    (task.deliver reply).IsIdle := by
  cases h with
  | ended goal endedAt outcome => exact .ended goal endedAt outcome
  | replied call => exact .replied call reply

theorem Task.IsIdle.takeReplies {task : Task} (h : task.IsIdle) (caller : CallId)
    (events : List Event) : (task.takeReplies caller events).IsIdle :=
  Task.takeReplies_keeps h (fun _ reply h => h.deliver reply) caller events

namespace Agent

/-! ## Where an attempt can be -/

/-- The guard is free, the token is published as valid and no request is in flight. -/
structure AtRest (s : Agent) (t : Token) : Prop where
  active : s.session.active = none
  state : s.session.state = .valid t
  requests : s.requests = []

/-- The token was issued or renewed just now, after the last attempt had started. -/
structure IsNew (s : Agent) (sched : Scheduler) (t : Token) : Prop where
  now : s.now = t.issuedAt
  spaced : ∀ previous, sched.lastAttempt = some previous → previous ≤ t.issuedAt

/-- Where the scheduler `k` stands over a store that is now `m`, while `t` is published: between
two attempts, or in an attempt. -/
inductive Stand (start : Agent) (base : MemoryStore) (policy : RenewalPolicy) (slack : Duration)
    (k : CallId) (m : MemoryStore) (s : Agent) (sched : Scheduler) (t : Token) : Prop
  /-- It is about to look at the token. -/
  | looking (phase : sched.phase = .looking) (rest : s.AtRest t) (new : s.IsNew sched t)
  /-- It waits for its next attempt. -/
  | waiting {due : Instant} (phase : sched.phase = .waiting (some due))
      (seen : sched.seen = s.session.version) (rest : s.AtRest t) (clock : s.now ≤ due)
      (room : due + slack < t.issuedAt + t.lease)
  /-- The clock ends before the lease does. -/
  | stopped (phase : sched.phase = .stopped) (rest : s.AtRest t)
      (far : Instant.last < t.issuedAt + t.lease)
  /-- It has been handed the guard for a renewal. -/
  | asking (phase : sched.phase = .renewing (some t.lease) none)
      (last : sched.lastAttempt = some s.now)
      (active : s.session.active = some (k, .granted .renew)) (state : s.session.state = .valid t)
      (requests : s.requests = []) (room : s.now + slack < t.issuedAt + t.lease)
  /-- The renewal is in flight. -/
  | renewing {sent : Instant} (phase : sched.phase = .renewing (some t.lease) none)
      (last : sched.lastAttempt = some sent)
      (active : s.session.active = some (k, .renewing t (sent + s.session.timeout)))
      (state : s.session.state = .renewing t)
      (requests : s.requests = [⟨k, .renewal t, sent + base.renewalDelay⟩])
      (clock : sent ≤ s.now ∧ s.now ≤ sent + base.renewalDelay)
      (room : sent + slack < t.issuedAt + t.lease)
  /-- The token has been renewed. -/
  | renewed {before : Duration} (phase : sched.phase = .renewing (some before) (some (.token t)))
      (rest : s.AtRest t) (new : s.IsNew sched t) (before : before = base.lease ∨ before = t.lease)
  /-- It has been handed the guard for a login, as the lease is a last one. -/
  | relogging (phase : sched.phase = .relogging none)
      (active : s.session.active = some (k, .granted .login)) (state : s.session.state = .valid t)
      (requests : s.requests = []) (new : s.IsNew sched t)
      (lastLease : t.lease < base.lease ∧ t.lease ≤ policy.threshold)
  /-- The login is in flight. -/
  | loggingIn {flow : LoginFlow} (phase : sched.phase = .relogging none)
      (active : s.session.active =
        some (k, .loggingIn true (some t) (t.issuedAt + s.session.timeout)))
      (state : s.session.state = .valid t)
      (flow_eq : start.session.strategy.flow start.files = .ok flow)
      (requests : s.requests = [⟨k, .login flow, t.issuedAt + base.loginDelay⟩])
      (clock : t.issuedAt ≤ s.now ∧ s.now ≤ t.issuedAt + base.loginDelay)
      (spaced : ∀ previous, sched.lastAttempt = some previous → previous ≤ t.issuedAt)
      (lastLease : t.lease < base.lease ∧ t.lease ≤ policy.threshold)
  /-- The token has been replaced, and the old one is to be revoked. -/
  | revoking {old : Token} {deadline : Instant} (phase : sched.phase = .relogging none)
      (active : s.session.active = some (k, .revoking old deadline (.token t)))
      (state : s.session.state = .valid t)
      (requests : s.requests = [⟨k, .revocation old, s.now⟩]) (new : s.IsNew sched t)
      (other : old.value ≠ t.value)
      (issued : ∃ n ≤ m.logins, old.value.value = MemoryStore.issuedValue n)
  /-- The token has been replaced. -/
  | relogged (phase : sched.phase = .relogging (some (.token t))) (rest : s.AtRest t)
      (new : s.IsNew sched t)

/-- The store is without faults and accepts the token, the scheduler runs, and everybody else is
idle. -/
structure Calm (start : Agent) (base : MemoryStore) (policy : RenewalPolicy) (k : CallId)
    (s : Agent) (m : MemoryStore) (sched : Scheduler) (t : Token) : Prop where
  clock : s.now ≤ Instant.last
  files : s.files = start.files
  strategy : s.session.strategy = start.session.strategy
  timeout : s.session.timeout = start.session.timeout
  queue : s.session.queue = []
  store : s.store = .memory m
  healthy : m.Healthy
  like : m.GrantsLike base
  accepts : m.Accepts start.session.strategy t
  lease : t.lease = base.lease ∨ t.lease = base.renewalLease.getD base.lease
  policy_eq : sched.policy = policy
  running : sched.cancelled = false
  fresh : k < s.nextId
  scheduler : s.task? k = some (.scheduler sched)
  others : ∀ e ∈ s.tasks, e.1 ≠ k → e.2.IsIdle

/-- What holds all along: all is calm, and the scheduler stands somewhere. -/
structure Upkept (start : Agent) (base : MemoryStore) (policy : RenewalPolicy) (slack : Duration)
    (k : CallId) (s : Agent) (m : MemoryStore) (sched : Scheduler) (t : Token) : Prop
    extends Calm start base policy k s m sched t where
  stand : Stand start base policy slack k m s sched t

variable {start s s' : Agent} {base m : MemoryStore} {policy : RenewalPolicy} {slack : Duration}
  {k id : CallId} {sched : Scheduler} {t : Token}

/-! ## The lease lasts -/

theorem Calm.room (h : Calm start base policy k s m sched t)
    (sustains : base.Sustains policy start.session.timeout slack) :
    policy.retryInterval + slack < t.lease := by
  rcases h.lease with hlease | hlease
  · rw [hlease]
    exact sustains.lease
  · rw [hlease]
    exact sustains.renewalLease

theorem Calm.isRenewable (h : Calm start base policy k s m sched t)
    (sustains : base.Sustains policy start.session.timeout slack) : t.isRenewable = true := by
  have hroom := h.room sustains
  exact Token.isRenewable_eq_true_iff.2 ⟨h.accepts.renewable, by lia⟩

/-- Wherever an attempt is, its token is published and lasts. -/
theorem Upkept.lasts (h : Upkept start base policy slack k s m sched t)
    (sustains : base.Sustains policy start.session.timeout slack) :
    s.session.state.token? = some t ∧ t.Lasts s.now := by
  have hroom := h.room sustains
  have hclock := h.clock
  have hrenewal := sustains.renewalDelay
  have hlogin := sustains.loginDelay
  -- a new token lasts because its lease is not zero
  have hnew (new : s.IsNew sched t) : t.Lasts s.now := by
    have hnow := new.now
    exact .inr (by lia)
  cases h.stand with
  | looking phase rest new | renewed phase rest new | relogged phase rest new =>
      exact ⟨by rw [rest.state]; rfl, hnew new⟩
  | waiting phase seen rest clock room => exact ⟨by rw [rest.state]; rfl, .inr (by lia)⟩
  | stopped phase rest far => exact ⟨by rw [rest.state]; rfl, .inr (by lia)⟩
  | asking phase last active state requests room =>
      exact ⟨by rw [state]; rfl, .inr (by lia)⟩
  | renewing phase last active state requests clock room =>
      exact ⟨by rw [state]; rfl, .inr (by lia)⟩
  | relogging phase active state requests new => exact ⟨by rw [state]; rfl, hnew new⟩
  | loggingIn phase active state flow_eq requests clock =>
      exact ⟨by rw [state]; rfl, .inr (by lia)⟩
  | revoking phase active state requests new => exact ⟨by rw [state]; rfl, hnew new⟩

/-! ## Parts of an act -/

theorem Calm.absorbs (h : Calm start base policy k s m sched t) {session : Session}
    {events : List Event} (absorbs : { s with session }.Absorbs events s') (sched' : Scheduler)
    (strategy : session.strategy = s.session.strategy)
    (timeout : session.timeout = s.session.timeout) (queue : session.queue = [])
    (replies : Task.takeReplies k events (.scheduler sched) = .scheduler sched')
    (policy_eq : sched'.policy = sched.policy) (running : sched'.cancelled = sched.cancelled) :
    Calm start base policy k s' m sched' t where
  clock := by rw [absorbs.now]; exact h.clock
  files := absorbs.files.trans h.files
  strategy := by rw [absorbs.session]; exact strategy.trans h.strategy
  timeout := by rw [absorbs.session]; exact timeout.trans h.timeout
  queue := by rw [absorbs.session]; exact queue
  store := absorbs.store.trans h.store
  healthy := h.healthy
  like := h.like
  accepts := h.accepts
  lease := h.lease
  policy_eq := policy_eq.trans h.policy_eq
  running := running.trans h.running
  fresh := by rw [absorbs.nextId]; exact h.fresh
  scheduler := by
    have hsched : ({ s with session } : Agent).task? k = some (.scheduler sched) := h.scheduler
    rw [absorbs.task?, hsched, Option.map_some, replies]
  others e he hk := by
    rw [absorbs.tasks] at he
    obtain ⟨e', he', rfl⟩ := List.mem_map.1 he
    exact (h.others e' he' hk).takeReplies _ _

/-- The store has answered the only request in flight. -/
theorem Calm.withStore (h : Calm start base policy k s m sched t) {m' : MemoryStore} (t' : Token)
    (healthy : m'.Healthy) (like : m'.GrantsLike m)
    (accepts : m'.Accepts start.session.strategy t')
    (lease : t'.lease = base.lease ∨ t'.lease = base.renewalLease.getD base.lease) :
    Calm start base policy k { s.forget k with store := .memory m' } m' sched t' :=
  { h with store := rfl, healthy, like := like.trans h.like, accepts, lease }

/-- The scheduler goes on. -/
theorem Calm.setScheduler (h : Calm start base policy k s m sched t) (sched' : Scheduler)
    (policy_eq : sched'.policy = sched.policy) (running : sched'.cancelled = sched.cancelled) :
    Calm start base policy k (s.setTask k (.scheduler sched')) m sched' t :=
  { h with
    policy_eq := policy_eq.trans h.policy_eq
    running := running.trans h.running
    scheduler := task?_setTask h.scheduler
    others := by
      intro e he hk
      rcases mem_setTask he with rfl | ⟨he, -⟩
      · exact absurd rfl hk
      · exact h.others e he hk }

theorem Calm.resume (h : Calm start base policy k s m sched t) {next : Scheduler × Option Call}
    (step : sched.step s.session = some next) : s.step (.resume k) = some (s.turn k next) := by
  simp [Agent.step, stepTask, h.scheduler, step]

/-- The wait of the scheduler ends. -/
theorem Calm.wake (h : Calm start base policy k s m sched t) {cause : Scheduler.Cause}
    {next : Scheduler × Option Call} (wake : sched.wake s.now s.session cause = some next) :
    s.step (.wake k cause) = some (s.turn k next) := by
  simp [Agent.step, stepWake, h.scheduler, wake]

/-- A scheduler that goes on asks for the guard, which is free. -/
theorem absorbs_turn (s : Agent) (k : CallId) (sched : Scheduler) (call : Call)
    (other : call ≠ .getToken) (free : s.session.active = none) :
    { s.setTask k (.scheduler sched) with
      session := { s.session with active := some (k, .granted call) } }.Absorbs []
        (s.turn k (sched, some call)) := by
  obtain ⟨s', hstep, habsorbs⟩ := stepSession_of_step (s := s.setTask k (.scheduler sched))
    (Session.step_begin s.now k free other)
  have hturn : s.turn k (sched, some call) = s' := by
    simp only [turn, ask]
    rw [show (s.setTask k (.scheduler sched)).stepSession (.begin k call) = some s' from hstep,
      Option.getD_some]
  rw [hturn]
  exact habsorbs

/-! ## The steps of an attempt -/

/-- All is calm, and the scheduler stands somewhere over some store. -/
def StaysUpkept (start : Agent) (base : MemoryStore) (policy : RenewalPolicy) (slack : Duration)
    (k : CallId) (s : Agent) : Prop :=
  ∃ m sched t, Upkept start base policy slack k s m sched t

/-- The move can happen, and it leaves the session upkept. -/
def GoesOn (start : Agent) (base : MemoryStore) (policy : RenewalPolicy) (slack : Duration)
    (k : CallId) (s : Agent) (move : Move) : Prop :=
  ∃ s', s.step move = some s' ∧ StaysUpkept start base policy slack k s'

theorem Calm.look (h : Calm start base policy k s m sched t)
    (sustains : base.Sustains policy start.session.timeout slack)
    (phase : sched.phase = .looking) (rest : s.AtRest t) (new : s.IsNew sched t) :
    GoesOn start base policy slack k s (.resume k) := by
  have hstep : sched.step s.session = some (sched.look s.session, none) := by
    simp [Scheduler.step, phase]
  have htoken : s.session.state.token? = some t := by rw [rest.state]; rfl
  have henabled : sched.policy.enabled = true := by
    rw [h.policy_eq]
    exact sustains.enabled
  have hlook := sched.look_eq htoken henabled (h.isRenewable sustains)
  have hthreshold : slack < sched.policy.threshold := by
    rw [h.policy_eq]
    exact sustains.threshold
  have hroom : sched.policy.retryInterval + slack < t.lease := by
    rw [h.policy_eq]
    exact h.room sustains
  -- the last attempt started before the issue, so its distance leaves the room as well
  obtain ⟨hissued, hdue⟩ := sched.due_bounds hthreshold hroom new.spaced
  have hnow := new.now
  rw [hlook] at hstep
  have hcalm := h.setScheduler { sched with
    seen := s.session.version
    phase := if sched.due t ≤ Instant.last then .waiting (some (sched.due t)) else .stopped }
    rfl rfl
  refine ⟨_, h.resume hstep, m, _, t, { hcalm with stand := ?_ }⟩
  by_cases hlast : sched.due t ≤ Instant.last
  · refine .waiting (if_pos hlast) rfl ⟨rest.1, rest.2, rest.3⟩ ?_ hdue
    show s.now ≤ sched.due t
    lia
  · exact .stopped (if_neg hlast) ⟨rest.1, rest.2, rest.3⟩ (by lia)

theorem Calm.fire (h : Calm start base policy k s m sched t) {due : Instant}
    (phase : sched.phase = .waiting (some due)) (rest : s.AtRest t) (time : due ≤ s.now)
    (room : s.now + slack < t.issuedAt + t.lease) :
    GoesOn start base policy slack k s (.wake k .timer) := by
  have hwake : sched.wake s.now s.session .timer =
      some (sched.fire s.now s.session, some .renew) := by
    simp [Scheduler.wake, phase, time]
  have htoken : s.session.state.token? = some t := by rw [rest.state]; rfl
  have habsorbs := absorbs_turn s k (sched.fire s.now s.session) .renew (by rintro ⟨⟩)
    rest.active
  refine ⟨_, h.wake hwake, m, _, t,
    { (h.setScheduler (sched.fire s.now s.session) rfl rfl).absorbs habsorbs _ rfl rfl
        h.queue rfl rfl rfl with stand := ?_ }⟩
  refine .asking ?_ ?_ ?_ ?_ ?_ ?_
  · simp [Scheduler.fire, htoken]
  · rw [habsorbs.now]
    rfl
  · rw [habsorbs.session]
  · rw [habsorbs.session]
    exact rest.state
  · rw [habsorbs.requests]
    exact (List.append_nil _).trans rest.requests
  · rw [habsorbs.now]
    exact room

theorem Calm.sendRenewal (h : Calm start base policy k s m sched t)
    (sustains : base.Sustains policy start.session.timeout slack)
    (phase : sched.phase = .renewing (some t.lease) none)
    (last : sched.lastAttempt = some s.now)
    (active : s.session.active = some (k, .granted .renew)) (state : s.session.state = .valid t)
    (requests : s.requests = []) (room : s.now + slack < t.issuedAt + t.lease) :
    GoesOn start base policy slack k s (.proceed k) := by
  obtain ⟨s', hs', habsorbs⟩ := stepSession_of_step (Session.step_renew s.now active
    (by rw [state]; rfl) (h.isRenewable sustains))
  refine ⟨s', hs', m, sched, t,
    { h.absorbs habsorbs sched rfl rfl h.queue rfl rfl rfl with stand := ?_ }⟩
  refine .renewing phase last ?_ ?_ ?_ ?_ room
  · rw [habsorbs.session]
    rfl
  · rw [habsorbs.session]
    rfl
  · rw [habsorbs.requests]
    simp [requests, List.filterMap_cons, requestOf, h.store, Store.delay, Store.renewalDelay,
      h.like.renewalDelay]
  · rw [habsorbs.now]
    exact ⟨Nat.le_refl _, Nat.le_add_right _ _⟩

/-- The answer to the only request in flight, when it is there. -/
theorem Calm.answer (h : Calm start base policy k s m sched t) {request : SessionRequest}
    {readyAt : Instant} (requests : s.requests = [⟨k, request, readyAt⟩]) (ready : readyAt ≤ s.now)
    {a : Answer} {m' : MemoryStore} (reply : (Store.memory m).answer request = (a, .memory m'))
    {session : Session} {events : List Event}
    (step : s.session.step s.now (.answer k a) = some (session, events)) :
    ∃ s', s.step (.answer k) = some s' ∧
      { s.forget k with store := .memory m', session }.Absorbs events s' ∧
      (s.forget k).requests = [] := by
  obtain ⟨s', hs', habsorbs⟩ :=
    stepSession_of_step (s := { s.forget k with store := .memory m' }) step
  refine ⟨s', ?_, habsorbs, by simp [forget, requests]⟩
  simp only [Agent.step, stepAnswer, requests, List.find?_cons_of_pos, decide_true, ready, if_true,
    h.store, reply]
  exact hs'

theorem Calm.renewed (h : Calm start base policy k s m sched t)
    (phase : sched.phase = .renewing (some t.lease) none) {sent deadline : Instant}
    (last : sched.lastAttempt = some sent)
    (active : s.session.active = some (k, .renewing t deadline))
    (requests : s.requests = [⟨k, .renewal t, sent + base.renewalDelay⟩])
    (ready : sent + base.renewalDelay ≤ s.now) :
    GoesOn start base policy slack k s (.answer k) := by
  obtain ⟨g, m', hrenew, hlease, hhealthy, hlike, haccepts⟩ :=
    MemoryStore.renew_healthy h.healthy h.accepts s.now
  have hlease' : g.lease = base.renewalLease.getD base.lease := by
    rw [hlease, h.like.renewalLease, h.like.lease]
  have hreply : (Store.memory m).answer (.renewal t) = (.granted g, .memory m') := by
    simp only [Store.answer, Store.renew, hrenew, Store.answerOf]
  obtain ⟨s', hs', habsorbs, hrequests⟩ :=
    h.answer requests ready hreply (Session.step_renewed s.now active h.queue g)
  have hcalm := (h.withStore _ hhealthy hlike haccepts (.inr hlease')).absorbs habsorbs
    { sched with
      phase := .renewing (some t.lease) (some (.token (t.renewed g.lease g.renewable s.now))) }
    rfl rfl h.queue (by simp [Task.takeReplies, Task.deliver, Scheduler.deliver, phase]) rfl rfl
  refine ⟨s', hs', m', _, _, { hcalm with stand := ?_ }⟩
  have hbefore := h.lease.imp_right fun hold => hold.trans hlease'.symm
  refine .renewed rfl ⟨?_, ?_, ?_⟩ ⟨habsorbs.now, ?_⟩ hbefore
  · rw [habsorbs.session]
  · rw [habsorbs.session]
    rfl
  · rw [habsorbs.requests]
    simp [hrequests, List.filterMap_cons, requestOf]
  · intro previous hprevious
    obtain rfl := Option.some.inj (last.symm.trans hprevious)
    show sent ≤ s.now
    lia

theorem Calm.settle (h : Calm start base policy k s m sched t) {before : Duration}
    (phase : sched.phase = .renewing (some before) (some (.token t))) (rest : s.AtRest t)
    (new : s.IsNew sched t) (hbefore : before = base.lease ∨ before = t.lease) :
    GoesOn start base policy slack k s (.resume k) := by
  cases hlast : Scheduler.isLastLease sched.policy (some before) t with
  | false =>
      have hstep : sched.step s.session = some ({ sched with phase := .looking }, none) := by
        simp [Scheduler.step, phase, hlast]
      have hcalm := h.setScheduler { sched with phase := .looking } rfl rfl
      exact ⟨_, h.resume hstep, m, _, t, { hcalm with
        stand := .looking rfl ⟨rest.1, rest.2, rest.3⟩ ⟨new.1, new.2⟩ }⟩
  | true =>
      have hstep : sched.step s.session =
          some ({ sched with phase := .relogging none }, some .login) := by
        simp [Scheduler.step, phase, hlast]
      simp only [Scheduler.isLastLease, Option.any_some, Bool.and_eq_true, decide_eq_true_eq,
        h.policy_eq] at hlast
      -- renewals all grant the same lease, so the longer one before came from a login
      have hshort : t.lease < base.lease := by
        rcases hbefore with rfl | rfl
        · exact hlast.1
        · exact absurd hlast.1 (Nat.lt_irrefl _)
      have habsorbs := absorbs_turn s k { sched with phase := .relogging none } .login
        (by rintro ⟨⟩) rest.active
      have hcalm := (h.setScheduler { sched with phase := .relogging none } rfl rfl).absorbs
        habsorbs _ rfl rfl h.queue rfl rfl rfl
      refine ⟨_, h.resume hstep, m, _, t, { hcalm with stand := ?_ }⟩
      refine .relogging rfl ?_ ?_ ?_ ⟨?_, new.2⟩ ⟨hshort, hlast.2⟩
      · rw [habsorbs.session]
      · rw [habsorbs.session]
        exact rest.state
      · rw [habsorbs.requests]
        exact (List.append_nil _).trans rest.requests
      · rw [habsorbs.now]
        exact new.now

theorem Calm.sendLogin (h : Calm start base policy k s m sched t) {flow : LoginFlow}
    (flow_eq : start.session.strategy.flow start.files = .ok flow)
    (phase : sched.phase = .relogging none)
    (active : s.session.active = some (k, .granted .login)) (state : s.session.state = .valid t)
    (requests : s.requests = []) (new : s.IsNew sched t)
    (lastLease : t.lease < base.lease ∧ t.lease ≤ policy.threshold) :
    GoesOn start base policy slack k s (.proceed k) := by
  obtain ⟨s', hs', habsorbs⟩ := stepSession_of_step (Session.step_login s.now active)
  have hnow := new.now
  refine ⟨s', hs', m, sched, t,
    { h.absorbs habsorbs sched rfl rfl h.queue rfl rfl rfl with stand := ?_ }⟩
  refine .loggingIn phase ?_ ?_ flow_eq ?_ ?_ new.spaced lastLease
  · rw [habsorbs.session, state, hnow]
    rfl
  · rw [habsorbs.session]
    exact state
  · rw [habsorbs.requests]
    simp [requests, requestOf, loginRequest, h.strategy, h.files, flow_eq,
      h.store, Store.delay, Store.loginDelay, h.like.loginDelay, hnow]
  · have hnow' : s'.now = t.issuedAt := habsorbs.now.trans hnow
    rw [hnow']
    exact ⟨Nat.le_refl _, Nat.le_add_right _ _⟩

theorem Calm.loggedIn (h : Calm start base policy k s m sched t) {flow : LoginFlow}
    (phase : sched.phase = .relogging none) {deadline : Instant}
    (active : s.session.active = some (k, .loggingIn true (some t) deadline))
    (flow_eq : start.session.strategy.flow start.files = .ok flow)
    (requests : s.requests = [⟨k, .login flow, t.issuedAt + base.loginDelay⟩])
    (ready : t.issuedAt + base.loginDelay ≤ s.now)
    (spaced : ∀ previous, sched.lastAttempt = some previous → previous ≤ t.issuedAt) :
    GoesOn start base policy slack k s (.answer k) := by
  obtain ⟨g, m', hlogin, hlease, hhealthy, hlike, hlogins, haccepts⟩ :=
    MemoryStore.login_healthy h.healthy flow_eq h.accepts.configured s.now
  rw [← h.strategy] at haccepts
  have hreply : (Store.memory m).answer (.login flow) = (.granted g, .memory m') := by
    simp only [Store.answer, Store.login, hlogin, Store.answerOf]
  -- the new token is issued after the old one, and so after the last attempt
  have hnew (previous : Instant) (hprevious : sched.lastAttempt = some previous) :
      previous ≤ (s.session.strategy.accept g s.now).issuedAt := by
    have hspaced := spaced previous hprevious
    rw [Strategy.accept_issuedAt]
    lia
  have hstore := h.withStore (s.session.strategy.accept g s.now) hhealthy hlike
    (h.strategy ▸ haccepts) (.inl (by rw [Strategy.accept_lease, hlease, h.like.lease]))
  by_cases hrevoke : t.origin = .login ∧ t.value ≠ (s.session.strategy.accept g s.now).value
  · obtain ⟨s', hs', habsorbs, hrequests⟩ :=
      h.answer requests ready hreply (Session.step_superseding active hrevoke)
    have hcalm := hstore.absorbs habsorbs sched rfl rfl h.queue rfl rfl rfl
    refine ⟨s', hs', m', sched, _, { hcalm with stand := ?_ }⟩
    refine .revoking phase (congrArg Session.active habsorbs.session) ?_ ?_ ⟨?_, hnew⟩ hrevoke.2 ?_
    · rw [habsorbs.session]
      rfl
    · rw [habsorbs.requests, habsorbs.now]
      have hnow : (s.forget k).now = s.now := rfl
      simp [hrequests, List.filterMap_cons, requestOf, Store.delay, hnow]
    · rw [Strategy.accept_issuedAt]
      exact habsorbs.now
    · -- a token whose origin is a login has its value from one that has ended
      rcases h.accepts.origin with ⟨hstatic, -⟩ | ⟨-, -, n, hn, hvalue⟩
      · cases hstatic.symm.trans hrevoke.1
      · exact ⟨n, by omega, hvalue⟩
  · obtain ⟨s', hs', habsorbs, hrequests⟩ :=
      h.answer requests ready hreply (Session.step_loggedIn active h.queue hrevoke)
    have hcalm := hstore.absorbs habsorbs
      { sched with phase := .relogging (some (.token (s.session.strategy.accept g s.now))) }
      rfl rfl h.queue (by simp [Task.takeReplies, Task.deliver, Scheduler.deliver, phase]) rfl rfl
    refine ⟨s', hs', m', _, _, { hcalm with stand := ?_ }⟩
    refine .relogged rfl ⟨?_, ?_, ?_⟩ ⟨?_, hnew⟩
    · rw [habsorbs.session]
    · rw [habsorbs.session]
      rfl
    · rw [habsorbs.requests]
      simp [hrequests, List.filterMap_cons, requestOf]
    · rw [Strategy.accept_issuedAt]
      exact habsorbs.now

theorem Calm.revoked (h : Calm start base policy k s m sched t) {old : Token} {deadline : Instant}
    (phase : sched.phase = .relogging none)
    (active : s.session.active = some (k, .revoking old deadline (.token t)))
    (state : s.session.state = .valid t) (requests : s.requests = [⟨k, .revocation old, s.now⟩])
    (new : s.IsNew sched t) (other : old.value ≠ t.value)
    (issued : ∃ n ≤ m.logins, old.value.value = MemoryStore.issuedValue n) :
    GoesOn start base policy slack k s (.answer k) := by
  obtain ⟨n, hn, hvalue⟩ := issued
  have hreply : (Store.memory m).answer (.revocation old) = (.revoked, .memory (m.revoke old)) :=
    rfl
  obtain ⟨s', hs', habsorbs, hrequests⟩ :=
    h.answer requests (Nat.le_refl _) hreply (Session.step_revoked s.now active h.queue)
  have hcalm := (h.withStore t (h.healthy.revoke hn hvalue) ⟨rfl, rfl, rfl, rfl⟩
    (h.accepts.revoke other) h.lease).absorbs habsorbs
    { sched with phase := .relogging (some (.token t)) } rfl rfl h.queue
    (by simp [Task.takeReplies, Task.deliver, Scheduler.deliver, phase]) rfl rfl
  refine ⟨s', hs', m.revoke old, _, t, { hcalm with stand := ?_ }⟩
  refine .relogged rfl ⟨?_, ?_, ?_⟩ ⟨habsorbs.now.trans new.now, new.spaced⟩
  · rw [habsorbs.session]
  · rw [habsorbs.session]
    exact state
  · rw [habsorbs.requests]
    simp [hrequests, requestOf]

theorem Calm.finish (h : Calm start base policy k s m sched t)
    (phase : sched.phase = .relogging (some (.token t))) (rest : s.AtRest t)
    (new : s.IsNew sched t) : GoesOn start base policy slack k s (.resume k) := by
  have hstep : sched.step s.session = some ({ sched with phase := .looking }, none) := by
    simp [Scheduler.step, phase]
  have hcalm := h.setScheduler { sched with phase := .looking } rfl rfl
  exact ⟨_, h.resume hstep, m, _, t, { hcalm with
    stand := .looking rfl ⟨rest.1, rest.2, rest.3⟩ ⟨new.1, new.2⟩ }⟩

end Agent

end SecretConfig
