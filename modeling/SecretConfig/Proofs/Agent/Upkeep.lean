import SecretConfig.Proofs.Agent.Attempts
import SecretConfig.Proofs.Agent.Timely

set_option autoImplicit false

/-! # A scheduler keeps a session alive

A session has just logged in over a store without faults, and a scheduler is started. From then
on there are only callers for a token. If the threshold of the policy and the leases of the store
leave enough room for the delays of the store (`MemoryStore.Sustains`), the published token never
runs out in a timely run, and the only logins are those of the scheduler (`Run.stays_alive`).

`Upkept.act` is the step: whatever happens, the scheduler stands somewhere after it. Time cannot
pass in a stand that can be left at once, and in the others the instant that is waited for bounds
it (`Upkept.pass`). -/

namespace SecretConfig

namespace Agent

/-- The agent moves, or somebody asks for a token. -/
def Act.isServing : Act → Bool
  | .move _ | .spawn (.call .getToken) => true
  | _ => false

/-- The session has just logged in over a store, and everything is over. -/
structure LoggedIn (s : Agent) (m : MemoryStore) (flow : LoginFlow) (g : Grant) : Prop where
  clock : s.now ≤ Instant.last
  flow_eq : s.session.strategy.flow s.files = .ok flow
  granted : (m.login flow).1 = .ok g
  store : s.store = .memory (m.login flow).2
  state : s.session.state = .valid (s.session.strategy.accept g s.now)
  active : s.session.active = none
  queue : s.session.queue = []
  requests : s.requests = []
  tasks : ∀ e ∈ s.tasks, e.2.IsIdle ∧ e.1 < s.nextId

variable {start s s' : Agent} {base m : MemoryStore} {policy : RenewalPolicy} {slack : Duration}
  {k id : CallId} {sched : Scheduler} {t : Token}

/-! ## The moves of the scheduler -/

theorem GoesOn.next {move : Move} (h : GoesOn start base policy slack k s move)
    (step : s.step move = some s') : StaysUpkept start base policy slack k s' := by
  obtain ⟨s'', hstep, hupkept⟩ := h
  obtain rfl := Option.some.inj (hstep.symm.trans step)
  exact hupkept

theorem GoesOn.not_isQuiet {move : Move} (h : GoesOn start base policy slack k s move)
    (other : ∀ t, move ≠ .pass t) : ¬ s.IsQuiet := by
  obtain ⟨s', hstep, -⟩ := h
  intro hquiet
  exact nomatch hstep.symm.trans (hquiet move other)

theorem Upkept.proceed (h : Upkept start base policy slack k s m sched t)
    (sustains : base.Sustains policy start.session.timeout slack) {flow : LoginFlow}
    (flow_eq : start.session.strategy.flow start.files = .ok flow)
    (step : s.step (.proceed id) = some s') : StaysUpkept start base policy slack k s' := by
  obtain ⟨call, hactive⟩ := active_of_proceed step
  cases h.stand with
  | looking phase rest new | renewed phase rest new | relogged phase rest new =>
      exact nomatch rest.active.symm.trans hactive
  | waiting phase seen rest | stopped phase rest =>
      exact nomatch rest.active.symm.trans hactive
  | asking phase last active state requests room =>
      obtain ⟨rfl, -⟩ := Prod.mk.inj (Option.some.inj (active.symm.trans hactive))
      exact (h.sendRenewal sustains phase last active state requests room).next step
  | relogging phase active state requests new lastLease =>
      obtain ⟨rfl, -⟩ := Prod.mk.inj (Option.some.inj (active.symm.trans hactive))
      exact (h.sendLogin flow_eq phase active state requests new lastLease).next step
  | renewing phase last active | revoking phase active =>
      exact nomatch active.symm.trans hactive
  | loggingIn phase active => exact nomatch active.symm.trans hactive

theorem Upkept.answer (h : Upkept start base policy slack k s m sched t)
    (step : s.step (.answer id) = some s') : StaysUpkept start base policy slack k s' := by
  obtain ⟨r, hr, hcaller, hready⟩ := request_of_answer step
  cases h.stand with
  | looking phase rest new | renewed phase rest new | relogged phase rest new =>
      exact absurd rest.requests (List.ne_nil_of_mem hr)
  | waiting phase seen rest | stopped phase rest =>
      exact absurd rest.requests (List.ne_nil_of_mem hr)
  | asking phase last active state requests room =>
      exact absurd requests (List.ne_nil_of_mem hr)
  | relogging phase active state requests =>
      exact absurd requests (List.ne_nil_of_mem hr)
  | renewing phase last active state requests =>
      obtain rfl := List.mem_singleton.1 (requests ▸ hr)
      subst hcaller
      exact (h.renewed phase last active requests hready).next step
  | loggingIn phase active state flow_eq requests clock spaced =>
      obtain rfl := List.mem_singleton.1 (requests ▸ hr)
      subst hcaller
      exact (h.loggedIn phase active flow_eq requests hready spaced).next step
  | revoking phase active state requests new other issued =>
      obtain rfl := List.mem_singleton.1 (requests ▸ hr)
      subst hcaller
      exact (h.revoked phase active state requests new other issued).next step

/-- No request is given up, for its answer comes in time. -/
theorem Upkept.not_expire (h : Upkept start base policy slack k s m sched t)
    (sustains : base.Sustains policy start.session.timeout slack)
    (step : s.step (.expire id) = some s') : False := by
  obtain ⟨r, hr, -, hlate, phase', hactive, hexpire⟩ := request_of_expire step
  have htimeout := sustains.timeout
  have hrenewal := sustains.renewalDelay
  have hlogin := sustains.loginDelay
  have hsame := h.timeout
  cases h.stand with
  | looking phase rest new | renewed phase rest new | relogged phase rest new =>
      exact nomatch rest.active.symm.trans hactive
  | waiting phase seen rest | stopped phase rest =>
      exact nomatch rest.active.symm.trans hactive
  | asking phase last active state requests =>
      exact absurd requests (List.ne_nil_of_mem hr)
  | relogging phase active state requests =>
      exact absurd requests (List.ne_nil_of_mem hr)
  | renewing phase last active state requests =>
      obtain rfl := List.mem_singleton.1 (requests ▸ hr)
      obtain ⟨rfl, rfl⟩ := Prod.mk.inj (Option.some.inj (active.symm.trans hactive))
      -- the answer is not there yet, so the deadline, which is later still, is not over
      refine hexpire ?_
      simp only [Session.expire, ite_eq_right_iff, reduceCtorEq, imp_false]
      dsimp only at hlate
      lia
  | loggingIn phase active state flow_eq requests =>
      obtain rfl := List.mem_singleton.1 (requests ▸ hr)
      obtain ⟨rfl, rfl⟩ := Prod.mk.inj (Option.some.inj (active.symm.trans hactive))
      refine hexpire ?_
      simp only [Session.expire, ite_eq_right_iff, reduceCtorEq, imp_false]
      dsimp only at hlate
      lia
  | revoking phase active state requests =>
      obtain rfl := List.mem_singleton.1 (requests ▸ hr)
      exact Nat.lt_irrefl _ hlate

theorem Calm.scheduler_step (h : Calm start base policy k s m sched t)
    (step : s.step (.resume k) = some s') : sched.step s.session ≠ none := by
  intro hnone
  simp [Agent.step, stepTask, h.scheduler, hnone] at step

theorem Upkept.resume (h : Upkept start base policy slack k s m sched t)
    (sustains : base.Sustains policy start.session.timeout slack)
    (step : s.step (.resume k) = some s') : StaysUpkept start base policy slack k s' := by
  have hsome := h.scheduler_step step
  cases h.stand with
  | looking phase rest new => exact (h.look sustains phase rest new).next step
  | waiting phase => simp [Scheduler.step, phase] at hsome
  | stopped phase => simp [Scheduler.step, phase] at hsome
  | asking phase => simp [Scheduler.step, phase] at hsome
  | renewing phase => simp [Scheduler.step, phase] at hsome
  | renewed phase rest new before => exact (h.settle phase rest new before).next step
  | relogging phase => simp [Scheduler.step, phase] at hsome
  | loggingIn phase => simp [Scheduler.step, phase] at hsome
  | revoking phase => simp [Scheduler.step, phase] at hsome
  | relogged phase rest new => exact (h.finish phase rest new).next step

/-- Only the timer ends the wait: nobody cancels the scheduler, and it has seen the published
state. -/
theorem Upkept.wake (h : Upkept start base policy slack k s m sched t) {cause : Scheduler.Cause}
    (step : s.step (.wake id cause) = some s') : StaysUpkept start base policy slack k s' := by
  obtain ⟨sched', ⟨next, call⟩, htask, hwake, -⟩ := turn_of_wake step
  obtain ⟨rfl, rfl⟩ : id = k ∧ sched' = sched := by
    by_cases hid : id = k
    · subst hid
      exact ⟨rfl, Task.scheduler.inj (Option.some.inj (htask.symm.trans h.scheduler))⟩
    · exact nomatch h.others _ (mem_tasks_of_task? htask) hid
  have hwakes := Scheduler.wakes_of_wake hwake
  obtain ⟨due, hphase⟩ := hwakes.waiting
  cases h.stand with
  | waiting phase seen rest clock room =>
      cases hwakes with
      | cancelled _ cancelled => exact nomatch h.running.symm.trans cancelled
      | changed _ changed => exact absurd seen changed
      | timer waits time =>
          obtain rfl := Option.some.inj (Scheduler.Phase.waiting.inj (phase.symm.trans waits))
          obtain rfl := Nat.le_antisymm time clock
          exact (h.fire phase rest time room).next step
  | looking phase | stopped phase | asking phase | renewing phase | renewed phase
  | relogging phase | loggingIn phase | revoking phase | relogged phase =>
      exact nomatch phase.symm.trans hphase

/-! ## The others -/

/-- A stand is about the clock, the session and its requests only. -/
theorem Stand.of_eq (h : Stand start base policy slack k m s sched t) (now : s'.now = s.now)
    (session : s'.session = s.session) (requests : s'.requests = s.requests) :
    Stand start base policy slack k m s' sched t := by
  have hrest (rest : s.AtRest t) : s'.AtRest t :=
    ⟨by rw [session]; exact rest.active, by rw [session]; exact rest.state,
      requests.trans rest.requests⟩
  have hnew (new : s.IsNew sched t) : s'.IsNew sched t := ⟨now.trans new.now, new.spaced⟩
  cases h with
  | looking phase rest new => exact .looking phase (hrest rest) (hnew new)
  | waiting phase seen rest clock room =>
      exact .waiting phase (by rw [session]; exact seen) (hrest rest) (by rw [now]; exact clock)
        room
  | stopped phase rest far => exact .stopped phase (hrest rest) far
  | asking phase last active state none room =>
      exact .asking phase (by rw [now]; exact last) (by rw [session]; exact active)
        (by rw [session]; exact state) (requests.trans none) (by rw [now]; exact room)
  | renewing phase last active state sent clock room =>
      exact .renewing phase last (by rw [session]; exact active) (by rw [session]; exact state)
        (requests.trans sent) (by rw [now]; exact clock) room
  | renewed phase rest new before => exact .renewed phase (hrest rest) (hnew new) before
  | relogging phase active state none new lastLease =>
      exact .relogging phase (by rw [session]; exact active) (by rw [session]; exact state)
        (requests.trans none) (hnew new) lastLease
  | loggingIn phase active state flow_eq sent clock spaced lastLease =>
      exact .loggingIn phase (by rw [session]; exact active) (by rw [session]; exact state)
        flow_eq (requests.trans sent) (by rw [now]; exact clock) spaced lastLease
  | revoking phase active state sent new other issued =>
      exact .revoking phase (by rw [session]; exact active) (by rw [session]; exact state)
        (by rw [now]; exact requests.trans sent) (hnew new) other issued
  | relogged phase rest new => exact .relogged phase (hrest rest) (hnew new)

/-- The task of another call can only end. -/
theorem Calm.resume_other (h : Calm start base policy k s m sched t) (hid : id ≠ k)
    (step : s.step (.resume id) = some s') :
    ∃ goal outcome, s' = s.finish id goal outcome := by
  obtain ⟨task, htask⟩ := task_of_resume step
  have hidle := h.others _ (mem_tasks_of_task? htask) hid
  rw [Agent.step, stepTask, htask] at step
  cases hidle with
  | ended => cases step
  | replied call reply => exact ⟨_, _, (Option.some.inj step).symm⟩

theorem Upkept.resume_other (h : Upkept start base policy slack k s m sched t) (hid : id ≠ k)
    (step : s.step (.resume id) = some s') : StaysUpkept start base policy slack k s' := by
  obtain ⟨goal, outcome, rfl⟩ := h.toCalm.resume_other hid step
  refine ⟨m, sched, t, { h.toCalm with
    scheduler := ?_, others := ?_, stand := h.stand.of_eq rfl rfl rfl }⟩
  · rw [finish, park, setTask, task?_modifyTask, if_neg (Ne.symm hid)]
    exact h.scheduler
  · intro e he hk
    rcases mem_setTask he with rfl | ⟨he, -⟩
    · exact .ended goal s.now outcome
    · exact h.others e he hk

theorem Upkept.not_read (h : Upkept start base policy slack k s m sched t) {index : Nat}
    (step : s.step (.read id index) = some s') : False := by
  obtain ⟨goal, o, t', slots, htask, -⟩ := task_of_read step
  by_cases hid : id = k
  · subst hid
    exact nomatch h.scheduler.symm.trans htask
  · exact nomatch h.others _ (mem_tasks_of_task? htask) hid

/-! ## The clock -/

theorem mem_timers_of_task? {task : Task} {timer : Instant} (h : s.task? id = some task)
    (mem : timer ∈ task.timers) : timer ∈ s.timers :=
  List.mem_append_right _ (List.mem_flatMap.2 ⟨(id, task), mem_tasks_of_task? h, mem⟩)

theorem mem_timers_of_request {r : PendingRequest} (h : r ∈ s.requests) : r.readyAt ∈ s.timers :=
  List.mem_append_left _ (List.mem_append_right _ (List.mem_map.2 ⟨r, h, rfl⟩))

theorem Calm.setNow (h : Calm start base policy k s m sched t) {now : Instant}
    (last : now ≤ Instant.last) : Calm start base policy k { s with now } m sched t :=
  { h with clock := last }

theorem Upkept.pass (h : Upkept start base policy slack k s m sched t)
    (sustains : base.Sustains policy start.session.timeout slack) {flow : LoginFlow}
    (flow_eq : start.session.strategy.flow start.files = .ok flow) {now : Instant}
    (forward : s.now ≤ now) (quiet : s.IsQuiet) (last : now ≤ Instant.last)
    (timely : ∀ timer ∈ s.timers, s.now < timer → now ≤ timer) :
    Upkept start base policy slack k { s with now } m sched t := by
  refine { h.toCalm.setNow last with stand := ?_ }
  -- a stand that can be left is not quiet, and one that waits is left at the instant it waits for
  cases h.stand with
  | looking phase rest new =>
      exact absurd quiet ((h.look sustains phase rest new).not_isQuiet nofun)
  | waiting phase seen rest clock room =>
      rename_i due
      have hclock : now ≤ due := by
        rcases Nat.lt_or_eq_of_le clock with hearly | rfl
        · refine timely due (mem_timers_of_task? h.scheduler ?_) hearly
          simp [Task.timers, phase]
        · exact absurd quiet
            ((h.fire phase rest (Nat.le_refl _) room).not_isQuiet nofun)
      exact .waiting phase seen ⟨rest.1, rest.2, rest.3⟩ hclock room
  | stopped phase rest far => exact .stopped phase ⟨rest.1, rest.2, rest.3⟩ far
  | asking phase last active state requests room =>
      exact absurd quiet
        ((h.sendRenewal sustains phase last active state requests room).not_isQuiet nofun)
  | renewing phase last active state requests clock room =>
      rename_i sent
      have hclock : now ≤ sent + base.renewalDelay := by
        rcases Nat.lt_or_eq_of_le clock.2 with hearly | heq
        · exact timely _ (mem_timers_of_request (requests ▸ List.mem_singleton_self _)) hearly
        · have hgoes : GoesOn start base policy slack k s (.answer k) :=
            h.renewed phase last active requests (Nat.le_of_eq heq.symm)
          exact absurd quiet (hgoes.not_isQuiet nofun)
      exact .renewing phase last active state requests ⟨Nat.le_trans clock.1 forward, hclock⟩ room
  | renewed phase rest new before =>
      have hgoes : GoesOn start base policy slack k s (.resume k) :=
        h.settle phase rest new before
      exact absurd quiet (hgoes.not_isQuiet nofun)
  | relogging phase active state requests new lastLease =>
      have hgoes : GoesOn start base policy slack k s (.proceed k) :=
        h.sendLogin flow_eq phase active state requests new lastLease
      exact absurd quiet (hgoes.not_isQuiet nofun)
  | loggingIn phase active state flow_eq requests clock spaced lastLease =>
      have hclock : now ≤ t.issuedAt + base.loginDelay := by
        rcases Nat.lt_or_eq_of_le clock.2 with hearly | heq
        · exact timely _ (mem_timers_of_request (requests ▸ List.mem_singleton_self _)) hearly
        · have hgoes : GoesOn start base policy slack k s (.answer k) :=
            h.loggedIn phase active flow_eq requests (Nat.le_of_eq heq.symm) spaced
          exact absurd quiet (hgoes.not_isQuiet nofun)
      exact .loggingIn phase active state flow_eq requests
        ⟨Nat.le_trans clock.1 forward, hclock⟩ spaced lastLease
  | revoking phase active state requests new other issued =>
      have hgoes : GoesOn start base policy slack k s (.answer k) :=
        h.revoked phase active state requests new other issued
      exact absurd quiet (hgoes.not_isQuiet nofun)
  | relogged phase rest new =>
      have hgoes : GoesOn start base policy slack k s (.resume k) := h.finish phase rest new
      exact absurd quiet (hgoes.not_isQuiet nofun)

/-! ## New callers -/

/-- A new task waits for its call for a token. -/
def withCaller (s : Agent) : Agent :=
  { s with
    tasks := s.tasks ++ [(s.nextId, Task.work (.call .getToken) (.waiting s.now))]
    nextId := s.nextId + 1 }.park s.nextId (.call .getToken) (.calling none)

/-- A call for a token has its reply at once while the published token lasts. -/
theorem spawn_getToken (token : s.session.state.token? = some t) (lasts : t.Lasts s.now) :
    ∃ reply, s.withCaller.Absorbs [.returned s.nextId reply] (s.spawn (.call .getToken)).1 := by
  obtain ⟨reply, hreply⟩ := Session.step_getToken token lasts s.nextId
  have hstep : s.withCaller.session.step s.withCaller.now (.begin s.nextId .getToken) =
      some (s.session, [.returned s.nextId reply]) := hreply
  obtain ⟨s', hs', habsorbs⟩ := stepSession_of_step hstep
  have hspawn : (s.spawn (.call .getToken)).1 = s' := by
    show (s.withCaller.stepSession (.begin s.nextId .getToken)).getD s.withCaller = s'
    rw [hs', Option.getD_some]
  refine ⟨reply, ?_⟩
  rw [hspawn]
  exact habsorbs

theorem Upkept.spawn (h : Upkept start base policy slack k s m sched t)
    (sustains : base.Sustains policy start.session.timeout slack) :
    Upkept start base policy slack k (s.spawn (.call .getToken)).1 m sched t := by
  obtain ⟨htoken, hlasts⟩ := h.lasts sustains
  obtain ⟨reply, habsorbs⟩ := spawn_getToken htoken hlasts
  have hother : s.nextId ≠ k := Nat.ne_of_gt h.fresh
  refine
    { clock := by rw [habsorbs.now]; exact h.clock
      files := habsorbs.files.trans h.files
      strategy := by rw [habsorbs.session]; exact h.strategy
      timeout := by rw [habsorbs.session]; exact h.timeout
      queue := by rw [habsorbs.session]; exact h.queue
      store := habsorbs.store.trans h.store
      healthy := h.healthy
      like := h.like
      accepts := h.accepts
      lease := h.lease
      policy_eq := h.policy_eq
      running := h.running
      fresh := by rw [habsorbs.nextId]; exact Nat.lt_succ_of_lt h.fresh
      scheduler := ?_
      others := ?_
      stand := h.stand.of_eq habsorbs.now habsorbs.session
        (habsorbs.requests.trans (List.append_nil _)) }
  · rw [habsorbs.task?, withCaller, park, setTask, task?_modifyTask, if_neg (Ne.symm hother),
      task?_append, h.scheduler]
    simp [Task.takeReplies, hother]
  · intro e he hk
    rw [habsorbs.tasks] at he
    obtain ⟨e', he', rfl⟩ := List.mem_map.1 he
    rcases mem_setTask he' with rfl | ⟨he', hid⟩
    · have hreplied : (Task.work (.call .getToken) (.calling none)).takeReplies s.nextId
          [.returned s.nextId reply] = .work (.call .getToken) (.calling (some reply)) := by
        simp [Task.takeReplies, Task.deliver, Stage.deliver]
      rw [hreplied]
      exact .replied .getToken reply
    · rcases List.mem_append.1 he' with hold | hnew
      · exact (h.others e' hold hk).takeReplies _ _
      · exact absurd (congrArg Prod.fst (List.mem_singleton.1 hnew)) hid

/-! ## All acts -/

theorem Upkept.act (h : Upkept start base policy slack k s m sched t)
    (sustains : base.Sustains policy start.session.timeout slack) {flow : LoginFlow}
    (flow_eq : start.session.strategy.flow start.files = .ok flow) {a : Act}
    (serving : a.isServing = true) (timely : Moment.IsTimely ⟨s, a, s'⟩) (act : s.act a = some s') :
    StaysUpkept start base policy slack k s' := by
  cases a with
  | move move =>
      cases move with
      | proceed id => exact h.proceed sustains flow_eq act
      | answer id => exact h.answer act
      | expire id => exact (h.not_expire sustains act).elim
      | read id index => exact (h.not_read act).elim
      | resume id =>
          by_cases hid : id = k
          · subst hid
            exact h.resume sustains act
          · exact h.resume_other hid act
      | wake id cause => exact h.wake act
      | pass now =>
          obtain ⟨hquiet, hlast, htimers⟩ := timely now rfl
          simp only [Agent.act, step] at act
          split at act
          · rename_i hforward
            obtain rfl := Option.some.inj act
            exact ⟨m, sched, t, h.pass sustains flow_eq hforward hquiet hlast htimers⟩
          · cases act
  | spawn goal =>
      obtain rfl : goal = .call .getToken := by
        unfold Act.isServing at serving
        split at serving
        · rename_i heq
          cases heq
        · rename_i heq
          exact Act.spawn.inj heq
        · cases serving
      obtain rfl := Option.some.inj act
      exact ⟨m, sched, t, h.spawn sustains⟩
  | startScheduler => cases serving
  | drop => cases serving

/-! ## Runs -/

/-- A scheduler that is started right after a login is about to look at its token. -/
theorem LoggedIn.upkept {flow : LoginFlow} {g : Grant} (h : start.LoggedIn m flow g)
    (healthy : m.Healthy) (policy : RenewalPolicy) (slack : Duration) :
    StaysUpkept start m policy slack start.nextId (start.startScheduler policy).1 := by
  have hconfigured := MemoryStore.configured_of_granted h.flow_eq h.granted
  obtain ⟨g', m', hlogin, hlease, hhealthy, hlike, -, haccepts⟩ :=
    MemoryStore.login_healthy healthy h.flow_eq hconfigured start.now
  have hgranted := h.granted
  have hstore := h.store
  rw [hlogin] at hgranted hstore
  obtain rfl := Except.ok.inj hgranted
  -- no task has the identity that the scheduler gets
  have hnew : start.task? start.nextId = none := by
    simp only [task?, Option.map_eq_none_iff, List.find?_eq_none, decide_eq_true_eq]
    intro e he
    exact Nat.ne_of_lt (h.tasks e he).2
  refine ⟨m', { policy }, start.session.strategy.accept g' start.now,
    { clock := h.clock, files := rfl, strategy := rfl, timeout := rfl, queue := h.queue,
      store := hstore, healthy := hhealthy, like := hlike, accepts := haccepts
      lease := .inl (by rw [Strategy.accept_lease, hlease]), policy_eq := rfl, running := rfl
      fresh := Nat.lt_succ_self _, scheduler := ?_, others := ?_
      stand := .looking rfl ⟨h.active, h.state, h.requests⟩
        ⟨(Strategy.accept_issuedAt _ _ _).symm, by rintro _ ⟨⟩⟩ }⟩
  · rw [task?, Option.map_eq_none_iff] at hnew
    simp [task?, startScheduler, List.find?_append, hnew]
  · intro e he hk
    rcases List.mem_append.1 he with hold | hsched
    · exact (h.tasks e hold).1
    · exact absurd (congrArg Prod.fst (List.mem_singleton.1 hsched)) hk

theorem Run.upkept {flow : LoginFlow} {g : Grant} {history : List Moment}
    (loggedIn : start.LoggedIn m flow g) (healthy : m.Healthy)
    (sustains : m.Sustains policy start.session.timeout slack)
    (run : Run (start.startScheduler policy).1 history s)
    (serving : ∀ n ∈ history, n.act.isServing = true) (timely : ∀ n ∈ history, n.IsTimely) :
    StaysUpkept start m policy slack start.nextId s := by
  induction run with
  | start => exact loggedIn.upkept healthy policy slack
  | next run step ih =>
      obtain ⟨m', sched, t, hupkept⟩ := ih
        (fun n hn => serving n (List.mem_cons_of_mem _ hn))
        (fun n hn => timely n (List.mem_cons_of_mem _ hn))
      exact hupkept.act sustains loggedIn.flow_eq (serving _ List.mem_cons_self)
        (timely _ List.mem_cons_self) step

/-- Whoever logs in is the scheduler, and the token that it replaces has a last lease. -/
theorem Upkept.login_of_active (h : Upkept start base policy slack k s m sched t) {forced : Bool}
    {superseded : Option Token} {deadline : Instant}
    (active : s.session.active = some (id, .loggingIn forced superseded deadline)) :
    id = k ∧ forced = true ∧ superseded = some t ∧ t.lease < base.lease ∧
      t.lease ≤ policy.threshold := by
  cases h.stand with
  | looking phase rest new | renewed phase rest new | relogged phase rest new =>
      exact nomatch rest.active.symm.trans active
  | waiting phase seen rest | stopped phase rest => exact nomatch rest.active.symm.trans active
  | asking phase last holder | renewing phase last holder => exact nomatch holder.symm.trans active
  | relogging phase holder | revoking phase holder => exact nomatch holder.symm.trans active
  | loggingIn phase holder state flow_eq requests clock spaced lastLease =>
      obtain ⟨rfl, hphase⟩ := Prod.mk.inj (Option.some.inj (holder.symm.trans active))
      obtain ⟨rfl, rfl, -⟩ := Phase.loggingIn.inj hphase
      exact ⟨rfl, rfl, rfl, lastLease⟩

/-- Every request in flight is the scheduler's. -/
theorem Upkept.caller_of_request (h : Upkept start base policy slack k s m sched t)
    {r : PendingRequest} (mem : r ∈ s.requests) : r.caller = k := by
  cases h.stand with
  | looking phase rest new | renewed phase rest new | relogged phase rest new =>
      exact absurd rest.requests (List.ne_nil_of_mem mem)
  | waiting phase seen rest | stopped phase rest =>
      exact absurd rest.requests (List.ne_nil_of_mem mem)
  | asking phase last active state requests =>
      exact absurd requests (List.ne_nil_of_mem mem)
  | relogging phase active state requests =>
      exact absurd requests (List.ne_nil_of_mem mem)
  | renewing phase last active state requests =>
      obtain rfl := List.mem_singleton.1 (requests ▸ mem)
      rfl
  | loggingIn phase active state flow_eq requests =>
      obtain rfl := List.mem_singleton.1 (requests ▸ mem)
      rfl
  | revoking phase active state requests =>
      obtain rfl := List.mem_singleton.1 (requests ▸ mem)
      rfl

/-- **A scheduler keeps a session alive.** It is started right after a login over a store without
faults, with a policy and leases that leave room for the delays of the store, and from then on
there are only callers for a token. At every instant of a timely run the published token lasts.
No caller sends a login: all requests are the scheduler's, which logs in only for a token whose
lease has become shorter than that of a login and no longer than the threshold. -/
theorem Run.stays_alive {flow : LoginFlow} {g : Grant} {history : List Moment}
    (loggedIn : start.LoggedIn m flow g) (healthy : m.Healthy)
    (sustains : m.Sustains policy start.session.timeout slack)
    (run : Run (start.startScheduler policy).1 history s)
    (serving : ∀ n ∈ history, n.act.isServing = true) (timely : ∀ n ∈ history, n.IsTimely) :
    ∃ t, s.session.state.token? = some t ∧ t.Lasts s.now ∧
      (∀ r ∈ s.requests, r.caller = start.nextId) ∧
      ∀ id forced superseded deadline,
        s.session.active = some (id, .loggingIn forced superseded deadline) →
          id = start.nextId ∧ forced = true ∧ superseded = some t ∧ t.lease < m.lease ∧
            t.lease ≤ policy.threshold := by
  obtain ⟨m', sched, t, hupkept⟩ := run.upkept loggedIn healthy sustains serving timely
  obtain ⟨htoken, hlasts⟩ := hupkept.lasts sustains
  exact ⟨t, htoken, hlasts, fun _ hr => hupkept.caller_of_request hr,
    fun _ _ _ _ hactive => hupkept.login_of_active hactive⟩

/-- A store whose renewals grant four seconds instead of a minute. -/
def shrinkingStore : MemoryStore :=
  { renewalLease := some (4000 : Duration), loginDelay := (1000 : Duration),
    renewalDelay := (1000 : Duration) }

/-- A session over the store before its first login. -/
def shrinkingOrigin : Agent :=
  { files := default
    store := .memory shrinkingStore
    registry := .standard
    session := { strategy := .appRole "approle" "role" (some ⟨"secret"⟩), timeout := 30000 } }

/-- The session after a call for a token has logged in. -/
def shrinkingStart : Agent :=
  latest shrinkingOrigin (replay shrinkingOrigin []
    [.spawn (.call .getToken), .move (.proceed 0), .move (.pass 1000), .move (.answer 0),
      .move (.resume 0)])

/-- An attempt that renews, logs in again and has the old token revoked, and a second one up to
its login. There is a caller in between, and another one during the second login. -/
def shrinkingHistory : List Moment :=
  replay (shrinkingStart.startScheduler {}).1 []
    [.move (.resume 1), .move (.pass 30000), .spawn (.call .getToken), .move (.resume 2),
      .move (.pass 56000), .move (.wake 1 .timer), .move (.proceed 1), .move (.pass 57000),
      .move (.answer 1), .move (.resume 1), .move (.proceed 1), .move (.pass 58000),
      .move (.answer 1), .move (.answer 1), .move (.resume 1), .move (.resume 1),
      .move (.pass 113000), .move (.wake 1 .timer), .move (.proceed 1), .move (.pass 114000),
      .move (.answer 1), .move (.resume 1), .move (.proceed 1), .move (.pass 114500),
      .spawn (.call .getToken)]

theorem stays_alive_shrinkingHistory :
    (∃ flow g, shrinkingStart.LoggedIn shrinkingStore flow g) ∧ shrinkingStore.Healthy ∧
      shrinkingStore.Sustains {} shrinkingStart.session.timeout 2000 ∧
      (∀ n ∈ shrinkingHistory, n.act.isServing = true) ∧ (∀ n ∈ shrinkingHistory, n.IsTimely) ∧
      ∃ s t, Run (shrinkingStart.startScheduler {}).1 shrinkingHistory s ∧ s.now = 114500 ∧
        s.session.active = some (1, .loggingIn true (some t) 144000) ∧
        s.session.state.token? = some t ∧ t.Lasts s.now ∧ t.lease < 60000 ∧ t.lease ≤ 5000 := by
  have loggedIn : shrinkingStart.LoggedIn shrinkingStore
      (.login .appRole "auth/approle/login"
        (Strategy.body [("role_id", "role"), ("secret_id", "secret")]))
      (shrinkingStore.grant "mem-token-1") :=
    { clock := by decide +kernel, flow_eq := rfl, granted := rfl, store := rfl, state := rfl
      active := rfl, queue := rfl, requests := rfl
      tasks := fun e he => by
        obtain rfl := List.mem_singleton.1 he
        exact ⟨.ended _ _ _, by decide +kernel⟩ }
  have healthy : shrinkingStore.Healthy := ⟨rfl, rfl, rfl, fun _ _ => List.not_mem_nil⟩
  have sustains : shrinkingStore.Sustains {} shrinkingStart.session.timeout 2000 := by
    constructor <;> decide +kernel
  have serving : ∀ n ∈ shrinkingHistory, n.act.isServing = true := by decide +kernel
  have timely : ∀ n ∈ shrinkingHistory, n.IsTimely := by decide +kernel
  have run : Run (shrinkingStart.startScheduler {}).1 shrinkingHistory
      (latest (shrinkingStart.startScheduler {}).1 shrinkingHistory) := Run.start.replay _
  obtain ⟨t, htoken, hlasts, -, hlogin⟩ := run.stays_alive loggedIn healthy sustains serving timely
  obtain ⟨old, hactive⟩ : ∃ old,
      (latest (shrinkingStart.startScheduler {}).1 shrinkingHistory).session.active =
        some (1, .loggingIn true (some old) 144000) := ⟨_, rfl⟩
  obtain ⟨-, -, hold, hlease⟩ := hlogin _ _ _ _ hactive
  obtain rfl := Option.some.inj hold
  exact ⟨⟨_, _, loggedIn⟩, healthy, sustains, serving, timely, _, old, run, rfl, hactive, htoken,
    hlasts, hlease⟩

end Agent

end SecretConfig
