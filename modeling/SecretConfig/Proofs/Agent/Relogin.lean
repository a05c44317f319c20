import SecretConfig.Proofs.Agent.FireTime
import SecretConfig.Proofs.Session.Renewal

set_option autoImplicit false

/-! # When a scheduler logs in again

A renewed token whose lease has become shorter, and at most the threshold, is close to its greatest
age, and the scheduler logs in again. An attempt compares the lease of the token that it gets with
the one that was published when it started. That is the lease of the renewed token, unless another
call has made a token while the attempt waited for its turn; and a lease of zero, which never ends,
counts as the shortest one: `endlessLease_logs_in_again` is such a run.

`SchedulerTurn` says what an act can do to a scheduler, `Attempt` is the part of a run from the
start of an attempt, and `Renewing` is what the attempt has come to, from which
`Run.logs_in_again_iff` is read off. -/

namespace SecretConfig

/-- The lease of a token is shorter than that of another one, and at most the threshold. -/
def RenewalPolicy.Shrinks (p : RenewalPolicy) (before t : Token) : Prop :=
  t.lease < before.lease ∧ t.lease ≤ p.threshold

namespace Scheduler

theorem isLastLease_iff (p : RenewalPolicy) (before t : Token) :
    isLastLease p (some before.lease) t = true ↔ p.Shrinks before t := by
  simp [isLastLease, RenewalPolicy.Shrinks]

variable {s s' : Scheduler} {id : CallId} {events : List Event} {before : Option Duration}
  {reply : Option Reply}

/-- A scheduler that waits for a renewal takes the reply to it. -/
theorem takeReplies_of_returned {r : Reply} (phase : s.phase = .renewing before none)
    (returned : .returned id r ∈ events) (unique : ∀ r', .returned id r' ∈ events → r' = r) :
    (Task.scheduler s).takeReplies id events =
      .scheduler { s with phase := .renewing before (some r) } := by
  have keeps : (Task.scheduler s).takeReplies id events = .scheduler s ∨
      (Task.scheduler s).takeReplies id events =
        .scheduler { s with phase := .renewing before (some r) } := by
    refine Task.takeReplies_keeps_of_returned (P := fun t => t = .scheduler s ∨
      t = .scheduler { s with phase := .renewing before (some r) }) (.inl rfl) ?_
    rintro _ r' hmem (rfl | rfl)
    · obtain rfl := unique r' hmem
      simp only [Task.deliver, deliver, phase, or_true]
    · obtain rfl := unique r' hmem
      exact .inr rfl
  rcases keeps with same | taken
  · -- it would still wait
    have idle := Task.awaits?_takeReplies returned (.scheduler s)
    rw [same, Task.awaits?, awaits?, phase] at idle
    cases idle
  · exact taken

/-- No reply puts a scheduler in an attempt. -/
theorem renewing_of_takeReplies
    (take : (Task.scheduler s).takeReplies id events = .scheduler s')
    (phase : s'.phase = .renewing before reply) : ∃ reply, s.phase = .renewing before reply := by
  have keeps := Task.takeReplies_keeps (t := .scheduler s)
    (P := fun t => ∃ s', t = .scheduler s' ∧
      ∀ reply, s'.phase = .renewing before reply → ∃ reply, s.phase = .renewing before reply)
    ⟨s, rfl, fun reply h => ⟨reply, h⟩⟩ ?_ id events
  · obtain ⟨s'', htake, h⟩ := keeps
    obtain rfl := Task.scheduler.inj (take.symm.trans htake)
    exact h reply phase
  · rintro _ r ⟨s'', rfl, h⟩
    refine ⟨s''.deliver r, rfl, fun reply hphase => ?_⟩
    cases hold : s''.phase with
    | renewing before' reply' =>
        simp only [deliver, hold, Phase.renewing.injEq] at hphase
        exact h reply' (hphase.1 ▸ hold)
    | looking | waiting | relogging | stopped => simp [deliver, hold] at hphase

theorem stopped_of_takeReplies (take : (Task.scheduler s).takeReplies id events = .scheduler s')
    (phase : s.phase = .stopped) : s'.phase = .stopped := by
  have keeps := Task.takeReplies_keeps (t := .scheduler s)
    (P := fun t => ∃ s', t = .scheduler s' ∧ s'.phase = .stopped) ⟨s, rfl, phase⟩ ?_ id events
  · obtain ⟨s'', htake, h⟩ := keeps
    obtain rfl := Task.scheduler.inj (take.symm.trans htake)
    exact h
  · rintro _ r ⟨s'', rfl, h⟩
    refine ⟨s''.deliver r, rfl, ?_⟩
    simp only [deliver, h]

end Scheduler

namespace Agent

variable {start s s' : Agent} {history past between : List Moment} {id : CallId} {t t₀ t₁ : Token}
  {trace : List Session.Moment} {sched sched' : Scheduler} {a : Act} {l : Session.Label}
  {events : List Event} {reply : Option Reply} {m w : Moment}

/-! ## What an act does to a scheduler -/

/-- What an act does to the task of an identity that is a scheduler after it. -/
inductive SchedulerTurn (s : Agent) (a : Act) (s' : Agent) (id : CallId) (sched' : Scheduler) :
    Prop
  /-- It goes on, and may make a call. -/
  | turns {sched : Scheduler} {call : Option Call} (task : s.task? id = some (.scheduler sched))
      (turns : a.Turns s id sched (sched', call))
      (session : s'.session = call.elim s.session (s.session.acquire id))
  /-- It was just started. -/
  | starts (new : s.nextId ≤ id) (idle : sched'.phase = .looking ∨ sched'.phase = .stopped)
  /-- Others go on. -/
  | endures {sched : Scheduler} (other : ¬ Moment.IsTurn ⟨s, a, s'⟩ id)
      (outside : a.label? s = none) (task : s.task? id = some (.scheduler sched))
      (endures : sched.Endures sched')
      (state : s'.session.state = s.session.state)
      (renewing : ∀ t deadline, s'.session.active = some (id, .renewing t deadline) →
        s.session.active = some (id, .renewing t deadline))
  /-- The session makes a step, which may bring a reply. -/
  | replies {sched : Scheduler} {l : Session.Label} {events : List Event}
      (steps : a.Steps s l events s') (task : s.task? id = some (.scheduler sched))
      (take : (Task.scheduler sched).takeReplies id events = .scheduler sched')

theorem Traced.schedulerTurn (h : Traced start trace none s) (step : s.act a = some s')
    (ht' : s'.task? id = some (.scheduler sched')) : SchedulerTurn s a s' id sched' := by
  rcases h.act step with ⟨l, events, steps, -⟩ | ⟨outside, continues⟩
  · have ht := ht'
    rw [steps.task?] at ht
    obtain ⟨task, hold, htake⟩ := Option.map_eq_some_iff.1 ht
    cases task with
    | work goal stage =>
        obtain ⟨stage', hwork⟩ := Task.takeReplies_work id events goal stage
        exact nomatch hwork.symm.trans htake
    | scheduler sched => exact .replies steps hold htake
  · by_cases own : a.IsOf id s
    · obtain ⟨sched, call, hold, turns, session⟩ := h.turns_of_isOf own step ht'
      exact .turns hold turns session
    · have keeps := keeps_of_act outside own step
      cases hold : s.task? id with
      | none =>
          obtain ⟨new, policy, endures⟩ := keeps.started _ hold ht'
          cases endures with
          | scheduler endures => exact .starts new endures.phase
      | some task =>
          obtain ⟨task', htask', endures⟩ := keeps.task task hold
          obtain rfl := Option.some.inj (htask'.symm.trans ht')
          have other : ¬ Moment.IsTurn ⟨s, a, s'⟩ id := by
            rintro (rfl | ⟨cause, rfl⟩) <;> exact own rfl
          obtain ⟨calls, traced, allOutside⟩ := continues
          cases endures with
          | scheduler endures =>
              exact .endures other outside hold endures
                (traced.run.published_of_outside h.run allOutside).2
                fun t deadline => traced.run.renewing_of_outside h.run allOutside

/-- The call that holds the guard goes on when a step of the session has that label. -/
theorem Act.proceed_of_label? (h : a.label? s = some (.proceed id)) : a = .move (.proceed id) := by
  unfold Act.label? at h
  split at h
  · obtain rfl := Session.Label.proceed.inj (Option.some.inj h)
    rfl
  · obtain ⟨r, -, hr⟩ := Option.map_eq_some_iff.1 h
    exact nomatch hr
  · exact nomatch h
  · exact nomatch h

/-! ## Attempts -/

/-- The store renews the token `t₁` for a call, which makes the token `t`. -/
structure Moment.Renews (w : Moment) (id : CallId) (t₁ t : Token) : Prop where
  awaited : ∃ deadline, w.before.session.active = some (id, .renewing t₁ deadline)
  granted : ∃ g, w.act.label? w.before = some (.answer id (.granted g)) ∧
    t = t₁.renewed g.lease g.renewable w.before.now

/-- A call for a renewal has its turn, and the published token cannot be renewed. -/
structure Moment.SkipsRenewal (w : Moment) (id : CallId) (t : Token) : Prop where
  act : w.act = .move (.proceed id)
  holder : w.before.session.active = some (id, .granted .renew)
  token : w.before.session.state.token? = some t
  fixed : t.isRenewable = false

/-- A call for a renewal gets a token. -/
inductive Moment.Yields (w : Moment) (id : CallId) (t : Token) : Prop
  | renewed {t₁ : Token} (renews : w.Renews id t₁ t)
  | skipped (skips : w.SkipsRenewal id t)

/-- A scheduler goes on and asks for a login. -/
structure Moment.AsksLogin (m : Moment) (id : CallId) : Prop where
  act : m.act = .move (.resume id)
  asks : ∃ sched sched', m.before.task? id = some (.scheduler sched) ∧
    sched.step m.before.session = some (sched', some .login)

/-- An attempt of the scheduler of an identity lasts at the end of a history. It started while the
token `t₀` was published, and the scheduler has not gone on in what happened since. -/
inductive Attempt (id : CallId) (t₀ : Token) : List Moment → List Moment → Prop
  | started {u : Moment} {earlier : List Moment} (fires : u.Fires id)
      (token : u.before.session.state.token? = some t₀) : Attempt id t₀ [] (u :: earlier)
  | lasts {m : Moment} {between history : List Moment} (attempt : Attempt id t₀ between history)
      (other : ¬ m.IsTurn id) : Attempt id t₀ (m :: between) (m :: history)

/-- The token was published when an attempt started, or another call has made it since. -/
def Stems (between : List Moment) (id : CallId) (t₀ t : Token) : Prop :=
  t = t₀ ∨ ∃ w ∈ between, w.act ≠ .move (.answer id) ∧ w.Makes t

theorem Stems.cons (h : Stems between id t₀ t) (m : Moment) : Stems (m :: between) id t₀ t := by
  rcases h with same | ⟨w, hw, other, makes⟩
  · exact .inl same
  · exact .inr ⟨w, List.mem_cons_of_mem m hw, other, makes⟩

theorem Moment.Yields.of_concludes (label : w.act.label? w.before = some l)
    (concludes : w.before.session.Concludes w.before.now id l t) : w.Yields id t := by
  cases concludes with
  | renewed holder => exact .renewed ⟨⟨_, holder⟩, _, label, rfl⟩
  | skipped holder token fixed =>
      have hact : w.act = .move (.proceed id) := Act.proceed_of_label? label
      exact .skipped ⟨hact, holder, token, fixed⟩

theorem Moment.Yields.concludes (h : w.Yields id t) :
    ∃ l, w.act.label? w.before = some l ∧ w.before.session.Concludes w.before.now id l t := by
  cases h with
  | renewed renews =>
      obtain ⟨⟨deadline, holder⟩, g, label, rfl⟩ := renews
      exact ⟨_, label, .renewed holder⟩
  | skipped skips =>
      refine ⟨.proceed id, ?_, .skipped skips.holder skips.token skips.fixed⟩
      rw [skips.act]
      rfl

/-- **A scheduler that renews a token is in an attempt.** -/
theorem Run.attempt_of_renewing {before : Duration} (run : Run start history s)
    (fresh : start.IsFresh) (ht : s.task? id = some (.scheduler sched))
    (phase : sched.phase = .renewing (some before) reply) :
    ∃ t₀ between, Attempt id t₀ between history := by
  induction run generalizing sched reply with
  | start => simp [task?, fresh.tasks] at ht
  | @next past p s' a run step ih =>
      obtain ⟨trace, traced⟩ := run.traced fresh
      have lasts {old : Scheduler} (hold : p.task? id = some (.scheduler old)) {r : Option Reply}
          (hphase : old.phase = .renewing (some before) r)
          (other : ¬ Moment.IsTurn ⟨p, a, s'⟩ id) :
          ∃ t₀ between, Attempt id t₀ between (⟨p, a, s'⟩ :: past) := by
        obtain ⟨t₀, between, attempt⟩ := ih hold hphase
        exact ⟨t₀, _, .lasts attempt other⟩
      cases traced.schedulerTurn step ht with
      | @turns old call hold turns =>
          cases turns with
          | resumes hstep =>
              cases Scheduler.does_of_step hstep p.now with
              | look =>
                  have hlook : (old.look p.session).phase ≠ .renewing (some before) reply := by
                    unfold Scheduler.look
                    cases old.fireAt p.session.state <;> rintro ⟨⟩
                  exact absurd phase hlook
              | fire waits => simp [SecretConfig.Scheduler.step, waits] at hstep
              | stop | notice | relogin | settle | finish | crash => cases phase
          | wakes hwake =>
              cases Scheduler.wakes_of_wake hwake with
              | cancelled | changed => cases phase
              | timer waits =>
                  -- the attempt is one for the token that is published now
                  obtain ⟨hlease, -⟩ := Scheduler.Phase.renewing.inj phase
                  obtain ⟨t₀, token, -⟩ := Option.map_eq_some_iff.1 hlease
                  exact ⟨t₀, [], .started ⟨rfl, old, _, hold, hwake⟩ token⟩
      | starts new idle =>
          rcases idle with looking | stopped
          · cases looking.symm.trans phase
          · cases stopped.symm.trans phase
      | endures other outside hold endures =>
          rcases endures.phase with same | stopped
          · exact lasts hold (same.symm.trans phase) other
          · cases stopped.symm.trans phase
      | replies steps hold take =>
          obtain ⟨r, hphase⟩ := Scheduler.renewing_of_takeReplies take phase
          refine lasts hold hphase ?_
          rintro (rfl | ⟨cause, rfl⟩) <;> cases steps.label

/-- What an attempt has come to: the scheduler has the reply to its renewal, or it still waits. -/
structure Renewing (between : List Moment) (s : Agent) (id : CallId) (t₀ : Token)
    (reply : Option Reply) : Prop where
  published : reply = none → ∀ t, s.session.state.token? = some t → Stems between id t₀ t
  /-- A renewal under way was sent in the attempt. -/
  sent : reply = none → ∀ t₁ deadline, s.session.active = some (id, .renewing t₁ deadline) →
    (∃ v ∈ between, v.SendsRenewal id t₁) ∧ Stems between id t₀ t₁
  /-- The reply is a token exactly if the renewal got it. -/
  yields : ∀ t, reply = some (.token t) ↔ ∃ w ∈ between, w.Yields id t
  renewed : ∀ w ∈ between, ∀ t₁ t, w.Renews id t₁ t →
    (∃ v ∈ between, v.SendsRenewal id t₁) ∧ Stems between id t₀ t₁
  skipped : ∀ w ∈ between, ∀ t, w.SkipsRenewal id t → Stems between id t₀ t

/-- Nothing has become of the renewal yet. -/
theorem Renewing.of_waiting
    (published : ∀ t, s.session.state.token? = some t → Stems between id t₀ t)
    (sent : ∀ t₁ deadline, s.session.active = some (id, .renewing t₁ deadline) →
      (∃ v ∈ between, v.SendsRenewal id t₁) ∧ Stems between id t₀ t₁)
    (unyielded : ∀ w ∈ between, ∀ t, ¬ w.Yields id t) : Renewing between s id t₀ none where
  published _ := published
  sent _ := sent
  yields t := by
    constructor
    · exact nofun
    · rintro ⟨w, hw, yields⟩
      exact absurd yields (unyielded w hw t)
  renewed w hw t₁ t renews := absurd (.renewed renews) (unyielded w hw t)
  skipped w hw t skips := absurd (.skipped skips) (unyielded w hw t)

theorem Renewing.unyielded (h : Renewing between s id t₀ none) (hw : w ∈ between) (t : Token) :
    ¬ w.Yields id t :=
  fun yields => nomatch (h.yields t).2 ⟨w, hw, yields⟩

/-- The renewal goes on while nothing is returned to the scheduler. -/
theorem Renewing.next (h : Renewing between s id t₀ reply) (here : m.before = s)
    (unyielded : ∀ t, ¬ m.Yields id t)
    (published : ∀ t, s'.session.state.token? = some t →
      s.session.state.token? = some t ∨ m.act ≠ .move (.answer id) ∧ m.Makes t)
    (sent : ∀ t₁ deadline, s'.session.active = some (id, .renewing t₁ deadline) →
      s.session.active = some (id, .renewing t₁ deadline) ∨ m.SendsRenewal id t₁) :
    Renewing (m :: between) s' id t₀ reply where
  published waits t token := by
    rcases published t token with before | ⟨other, makes⟩
    · exact (h.published waits t before).cons m
    · exact .inr ⟨m, List.mem_cons_self, other, makes⟩
  sent waits t₁ deadline active := by
    rcases sent t₁ deadline active with before | sends
    · obtain ⟨⟨v, hv, sends⟩, stems⟩ := h.sent waits t₁ deadline before
      exact ⟨⟨v, List.mem_cons_of_mem m hv, sends⟩, stems.cons m⟩
    · have token := here ▸ sends.holder.2
      exact ⟨⟨m, List.mem_cons_self, sends⟩, (h.published waits t₁ token).cons m⟩
  yields t := by
    rw [h.yields t]
    constructor
    · rintro ⟨w, hw, yields⟩
      exact ⟨w, List.mem_cons_of_mem m hw, yields⟩
    · rintro ⟨w, hw, yields⟩
      rcases List.mem_cons.1 hw with rfl | hw
      · exact absurd yields (unyielded t)
      · exact ⟨w, hw, yields⟩
  renewed w hw t₁ t renews := by
    rcases List.mem_cons.1 hw with rfl | hw
    · exact absurd (.renewed renews) (unyielded t)
    · obtain ⟨⟨v, hv, sends⟩, stems⟩ := h.renewed w hw t₁ t renews
      exact ⟨⟨v, List.mem_cons_of_mem m hv, sends⟩, stems.cons m⟩
  skipped w hw t skips := by
    rcases List.mem_cons.1 hw with rfl | hw
    · exact absurd (.skipped skips) (unyielded t)
    · exact (h.skipped w hw t skips).cons m

/-- The renewal ends with a reply. -/
theorem Renewing.ends {r : Reply} (h : Renewing between s id t₀ none) (here : m.before = s)
    (yields : ∀ t, r = .token t ↔ m.Yields id t) : Renewing (m :: between) s' id t₀ (some r) where
  published := nofun
  sent := nofun
  yields t := by
    rw [Option.some.injEq, yields t]
    constructor
    · intro now
      exact ⟨m, List.mem_cons_self, now⟩
    · rintro ⟨w, hw, got⟩
      rcases List.mem_cons.1 hw with rfl | hw
      · exact got
      · exact absurd got (h.unyielded hw t)
  renewed w hw t₁ t renews := by
    rcases List.mem_cons.1 hw with rfl | hw
    · obtain ⟨deadline, awaited⟩ := renews.awaited
      obtain ⟨⟨v, hv, sends⟩, stems⟩ := h.sent rfl t₁ deadline (here ▸ awaited)
      exact ⟨⟨v, List.mem_cons_of_mem w hv, sends⟩, stems.cons w⟩
    · exact absurd (.renewed renews) (h.unyielded hw t)
  skipped w hw t skips := by
    rcases List.mem_cons.1 hw with rfl | hw
    · exact (h.published rfl t (here ▸ skips.token)).cons w
    · exact absurd (.skipped skips) (h.unyielded hw t)

/-- A step of the session: the renewal goes on, or it ends. -/
theorem Renewing.steps {before : Option Duration} (h : Renewing between s id t₀ reply)
    (traced : Traced start trace none s) (ht : s.task? id = some (.scheduler sched))
    (phase : sched.phase = .renewing before reply) (steps : a.Steps s l events s')
    (take : (Task.scheduler sched).takeReplies id events = .scheduler sched') :
    ∃ reply', sched'.phase = .renewing before reply' ∧
      Renewing (⟨s, a, s'⟩ :: between) s' id t₀ reply' := by
  have does := Session.does_of_step steps.step
  have inside := Act.isOutside_of_label? steps.label
  -- the scheduler has its turn only while it waits
  have own (p : Phase) (holder : s.session.active = some (id, p)) :
      p.call = .renew ∧ reply = none := by
    have waits := traced.awaits?_of_active holder
    rw [awaits?_of_task? ht, Task.awaits?, Scheduler.awaits?, phase] at waits
    cases reply with
    | none => exact ⟨(Option.some.inj waits).symm, rfl⟩
    | some r => cases waits
  have yields_iff (t : Token) :
      (⟨s, a, s'⟩ : Moment).Yields id t ↔ .returned id (.token t) ∈ events := by
    rw [does.returned_token_iff inside fun p holder => (own p holder).1]
    constructor
    · intro yields
      obtain ⟨l', label, concludes⟩ := yields.concludes
      obtain rfl := Option.some.inj (label.symm.trans steps.label)
      exact concludes
    · exact .of_concludes (w := ⟨s, a, s'⟩) steps.label
  by_cases returned : ∃ r, .returned id r ∈ events
  · obtain ⟨r, hr⟩ := returned
    obtain ⟨p, holder⟩ := does.holder_of_returned inside hr
    obtain ⟨-, rfl⟩ := own p holder
    rw [Scheduler.takeReplies_of_returned phase hr fun r' hr' => does.reply_unique hr' hr] at take
    obtain rfl := Task.scheduler.inj take
    refine ⟨some r, rfl, h.ends rfl fun t => ?_⟩
    rw [yields_iff t]
    constructor
    · rintro rfl
      exact hr
    · exact does.reply_unique hr
  · rw [Task.takeReplies_of_not_returned fun r hr => returned ⟨r, hr⟩] at take
    obtain rfl := Task.scheduler.inj take
    refine ⟨reply, phase, h.next rfl ?_ ?_ ?_⟩
    · intro t yields
      exact returned ⟨_, (yields_iff t).1 yields⟩
    · intro t token
      rcases does.granted_or_stays traced.run.coherent token with
        before | ⟨⟨caller, g, rfl, -⟩, published, issuedAt⟩
      · exact .inl before
      · have answers := Act.answer_of_label? steps.label
        refine .inr ⟨?_, ⟨caller, answers⟩, published, issuedAt⟩
        -- an answer to the scheduler would end its renewal
        rintro hown
        obtain rfl := Move.answer.inj (Act.move.inj (answers.symm.trans hown))
        obtain ⟨t', concludes⟩ := does.concludes_of_granted fun p holder => (own p holder).1
        exact returned ⟨_, (yields_iff t').1 (.of_concludes steps.label concludes)⟩
    · intro t₁ deadline active
      rcases does.renewing_before active with same | ⟨rfl, sends⟩
      · exact .inl same
      · refine .inr ⟨Act.proceed_of_label? steps.label, ?_⟩
        rw [steps.step]
        exact sends

/-- Nothing of the renewal is under way when an attempt starts, for the scheduler waited for nothing
before. -/
theorem Renewing.of_fire (traced : Traced start trace none s)
    (ht : s.task? id = some (.scheduler sched)) (idle : sched.awaits? = none)
    (token : s.session.state.token? = some t₀)
    (session : s'.session = s.session.acquire id .renew) :
    Renewing [] s' id t₀ none := by
  refine .of_waiting ?_ ?_ fun w hw => nomatch hw
  · intro t published
    rw [session, Session.acquire_state, token] at published
    exact .inl (Option.some.inj published).symm
  · intro t₁ deadline active
    rw [session] at active
    rcases Session.acquire_active active with same | ⟨call, granted⟩
    · have waits := traced.awaits?_of_active same
      rw [awaits?_of_task? ht, Task.awaits?, idle] at waits
      cases waits
    · cases granted

/-- An act that is no step of the session gets no token. -/
theorem Moment.not_yields (outside : m.act.label? m.before = none) (t : Token) :
    ¬ m.Yields id t := by
  intro yields
  obtain ⟨l, label, -⟩ := yields.concludes
  exact nomatch outside.symm.trans label

/-- An identity that is in an attempt was given before. -/
theorem Attempt.given (attempt : Attempt id t₀ between history) (run : Run start history s)
    (fresh : start.IsFresh) : id < s.nextId := by
  induction attempt generalizing s with
  | @started u earlier fires token =>
      obtain ⟨sched, sched', ht, -⟩ := fires.asks
      cases run with
      | next run step =>
          obtain ⟨trace, traced⟩ := run.traced fresh
          have before : id < _ := Nat.lt_of_not_le fun hle =>
            nomatch (traced.fresh id hle).symm.trans ht
          exact Nat.lt_of_lt_of_le before (advances_of_act step).nextId
  | lasts attempt other ih =>
      cases run with
      | next run step => exact Nat.lt_of_lt_of_le (ih run) (advances_of_act step).nextId

/-- **What an attempt does.** A scheduler in an attempt has stopped at once, or it renews: it
compares with the lease of the token that was published when it started. -/
theorem Attempt.renewing (attempt : Attempt id t₀ between history) (run : Run start history s)
    (fresh : start.IsFresh) (ht : s.task? id = some (.scheduler sched)) :
    sched.phase = .stopped ∨
      ∃ reply, sched.phase = .renewing (some t₀.lease) reply ∧
        Renewing between s id t₀ reply := by
  induction attempt generalizing s sched with
  | @started u earlier fires token =>
      cases run with
      | @next _ p s' a run step =>
          obtain ⟨trace, traced⟩ := run.traced fresh
          obtain ⟨old, next, hold, asks⟩ := fires.asks
          obtain rfl : a = .move (.wake id .timer) := fires.act
          cases traced.schedulerTurn step ht with
          | turns hold' turns session =>
              obtain rfl := Task.scheduler.inj (Option.some.inj (hold'.symm.trans hold))
              have idle := turns.does.awaits?_eq.1
              cases turns with
              | wakes hwake =>
                  cases Scheduler.wakes_of_wake hwake with
                  | timer =>
                      refine .inr ⟨none, ?_, .of_fire traced hold idle token session⟩
                      simp only [Scheduler.fire, token, Option.map_some]
          | starts new => cases (traced.fresh id new).symm.trans hold
          | endures other => exact absurd (.inr ⟨.timer, rfl⟩) other
          | replies steps => cases steps.label
  | @lasts m between history attempt other ih =>
      cases run with
      | @next _ p s' a run step =>
          obtain ⟨trace, traced⟩ := run.traced fresh
          cases traced.schedulerTurn step ht with
          | turns _ turns => exact absurd turns.isTurn other
          | starts new => exact absurd new (Nat.not_le.2 (attempt.given run fresh))
          | endures _ outside hold endures state renewing =>
              rcases endures.phase with same | stopped
              · rcases ih run hold with hstopped | ⟨reply, phase, now⟩
                · exact .inl (same.trans hstopped)
                · refine .inr ⟨reply, same.trans phase, now.next rfl ?_ ?_ ?_⟩
                  · exact Moment.not_yields outside
                  · intro t token
                    exact .inl (state ▸ token)
                  · intro t₁ deadline active
                    exact .inl (renewing t₁ deadline active)
              · exact .inl stopped
          | replies steps hold take =>
              rcases ih run hold with hstopped | ⟨reply, phase, now⟩
              · exact .inl (Scheduler.stopped_of_takeReplies take hstopped)
              · exact .inr (now.steps traced hold phase steps take)

/-! ## Logging in again -/

/-- The renewals in an attempt show that the token is close to its greatest age: the store has
renewed it, and its new lease ends, is shorter than the one it had, and is at most the threshold. -/
def ReachesLimit (p : RenewalPolicy) (between : List Moment) (id : CallId) : Prop :=
  ∃ w ∈ between, ∃ t₁ t, w.Renews id t₁ t ∧ t.lease ≠ 0 ∧ p.Shrinks t₁ t

/-- A scheduler that goes on in an attempt has not stopped. -/
theorem Attempt.renewing_of_turn (attempt : Attempt id t₀ between past)
    (run : Run start (m :: past) s) (fresh : start.IsFresh)
    (ht : m.before.task? id = some (.scheduler sched)) (turn : m.act = .move (.resume id)) :
    ∃ reply, sched.phase = .renewing (some t₀.lease) reply ∧
      Renewing between m.before id t₀ reply := by
  cases run with
  | @next _ p _ a run step =>
      obtain rfl : a = .move (.resume id) := turn
      rcases attempt.renewing run fresh ht with stopped | renewing
      · have hstep : p.stepTask id = some s := step
        simp [stepTask, ht, SecretConfig.Scheduler.step, stopped] at hstep
      · exact renewing

/-- An attempt asks for a login if the token that its renewal got has a shorter lease than the one
that was published when it started. -/
theorem Attempt.asksLogin_iff (attempt : Attempt id t₀ between past)
    (run : Run start (m :: past) s) (fresh : start.IsFresh)
    (ht : m.before.task? id = some (.scheduler sched)) (turn : m.act = .move (.resume id)) :
    m.AsksLogin id ↔ ∃ w ∈ between, ∃ t, w.Yields id t ∧ sched.policy.Shrinks t₀ t := by
  obtain ⟨reply, phase, now⟩ := attempt.renewing_of_turn run fresh ht turn
  constructor
  · rintro ⟨-, sched₁, next, hold, asks⟩
    obtain rfl := Task.scheduler.inj (Option.some.inj (ht.symm.trans hold))
    cases Scheduler.does_of_step asks m.before.now with
    | relogin replied last =>
        obtain ⟨rfl, rfl⟩ := Scheduler.Phase.renewing.inj (phase.symm.trans replied)
        obtain ⟨w, hw, yields⟩ := (now.yields _).1 rfl
        exact ⟨w, hw, _, yields, (Scheduler.isLastLease_iff _ t₀ _).1 last⟩
  · rintro ⟨w, hw, t, yields, shrinks⟩
    obtain rfl := (now.yields t).2 ⟨w, hw, yields⟩
    have last := (Scheduler.isLastLease_iff sched.policy t₀ t).2 shrinks
    refine ⟨turn, sched, { sched with phase := .relogging none }, ht, ?_⟩
    simp only [SecretConfig.Scheduler.step, phase, last, if_true]

/-- **When a scheduler logs in again.** Let a scheduler go on at a moment `m` of a run. It asks for
a login only in an attempt. Let an attempt have started while the token `t₀` was published. The
scheduler asks for a login exactly if its renewal got it a token whose lease is shorter than the one
of `t₀`, and at most the threshold. A token that the store renewed for it was sent for renewal in
the attempt. If nobody else made a token since the attempt started, and the store granted no endless
lease, then the scheduler asks for a login exactly if the renewal shows that the token is close to
its greatest age. -/
theorem Run.logs_in_again_iff (run : Run start (m :: past) s) (fresh : start.IsFresh)
    (scheduler : m.before.scheduler? id = some sched) (turn : m.act = .move (.resume id)) :
    (m.AsksLogin id → ∃ t₀ between, Attempt id t₀ between past) ∧
      ∀ t₀ between, Attempt id t₀ between past →
        (m.AsksLogin id ↔ ∃ w ∈ between, ∃ t, w.Yields id t ∧ sched.policy.Shrinks t₀ t) ∧
        (∀ w ∈ between, ∀ t₁ t, w.Renews id t₁ t → ∃ v ∈ between, v.SendsRenewal id t₁) ∧
        ((∀ w ∈ between, ∀ t, w.Makes t → w.act = .move (.answer id)) →
          (∀ w ∈ between, ∀ t₁ t, w.Renews id t₁ t → t.lease ≠ 0) →
            (m.AsksLogin id ↔ ReachesLimit sched.policy between id)) := by
  have ht := task?_of_scheduler? scheduler
  constructor
  · rintro ⟨-, sched₁, next, hold, asks⟩
    cases run with
    | @next _ p _ a run step =>
        cases Scheduler.does_of_step asks p.now with
        | @relogin before t phase last =>
            cases before with
            | none => exact nomatch last
            | some before => exact run.attempt_of_renewing fresh hold phase
  · intro t₀ between attempt
    obtain ⟨reply, -, now⟩ := attempt.renewing_of_turn run fresh ht turn
    have asks_iff := attempt.asksLogin_iff run fresh ht turn
    refine ⟨asks_iff, ?_, ?_⟩
    · intro w hw t₁ t renews
      exact (now.renewed w hw t₁ t renews).1
    · intro alone finite
      have same {t : Token} (stems : Stems between id t₀ t) : t = t₀ := by
        rcases stems with same | ⟨w, hw, other, makes⟩
        · exact same
        · exact absurd (alone w hw t makes) other
      rw [asks_iff]
      constructor
      · rintro ⟨w, hw, t, yields, shrinks⟩
        cases yields with
        | @renewed t₁ renews =>
            obtain rfl := same (now.renewed w hw t₁ t renews).2
            exact ⟨w, hw, t₁, t, renews, finite w hw t₁ t renews, shrinks⟩
        | skipped skips =>
            obtain rfl := same (now.skipped w hw t skips)
            exact absurd shrinks.1 (Nat.lt_irrefl _)
      · rintro ⟨w, hw, t₁, t, renews, -, shrinks⟩
        obtain rfl := same (now.renewed w hw t₁ t renews).2
        exact ⟨w, hw, t, .renewed renews, shrinks⟩

/-! ## Short leases and endless ones -/

/-- The moment in which an act follows a history. -/
def nextMoment (start : Agent) (history : List Moment) (a : Act) : Moment :=
  let s := latest start history
  ⟨s, a, (s.act a).getD s⟩

theorem run_nextMoment (run : Run start history (latest start history))
    (possible : ((latest start history).act a).isSome) :
    Run start (nextMoment start history a :: history) (nextMoment start history a).after := by
  obtain ⟨s', step⟩ := Option.isSome_iff_exists.1 possible
  have hafter : (nextMoment start history a).after = s' := by
    simp only [nextMoment, step, Option.getD_some]
  rw [hafter, nextMoment, step]
  exact .next run step

/-- A store whose renewals grant a lease. -/
def renewalStart (lease : Duration) : Agent := overMemory { renewalLease := some lease }

/-- A login, and a scheduler that waits until the token is due at the second 50. -/
def dueHistory (lease : Duration) : List Moment :=
  replay (renewalStart lease) []
    [.spawn (.call .login), .move (.proceed 0), .move (.answer 0), .move (.resume 0),
      .startScheduler hastyPolicy, .move (.resume 1), .move (.pass 50000)]

/-- The attempt starts. -/
def fired (lease : Duration) : Moment :=
  nextMoment (renewalStart lease) (dueHistory lease) (.move (.wake 1 .timer))

/-- The renewal is sent. -/
def sending (lease : Duration) : Moment :=
  nextMoment (renewalStart lease) (fired lease :: dueHistory lease) (.move (.proceed 1))

/-- The store renews the token. -/
def granting (lease : Duration) : Moment :=
  nextMoment (renewalStart lease) (sending lease :: fired lease :: dueHistory lease)
    (.move (.answer 1))

/-- A run until the scheduler has the reply to its renewal. -/
def renewedHistory (lease : Duration) : List Moment :=
  granting lease :: sending lease :: fired lease :: dueHistory lease

/-- The scheduler goes on. -/
def deciding (lease : Duration) : Moment :=
  nextMoment (renewalStart lease) (renewedHistory lease) (.move (.resume 1))

/-- The scheduler after a renewal with a lease. -/
def decidingScheduler (lease : Duration) : Scheduler :=
  { policy := hastyPolicy, seen := 1, lastAttempt := some 50000
    phase := .renewing (some 60000)
      (some (.token ((hastyToken 1 0).renewed lease true 50000))) }

theorem run_deciding {lease : Duration}
    (fires :
      ((latest (renewalStart lease) (dueHistory lease)).act (.move (.wake 1 .timer))).isSome)
    (sends : ((fired lease).after.act (.move (.proceed 1))).isSome)
    (grants : ((sending lease).after.act (.move (.answer 1))).isSome)
    (decides : ((granting lease).after.act (.move (.resume 1))).isSome) :
    Run (renewalStart lease) (deciding lease :: renewedHistory lease) (deciding lease).after := by
  have due : Run (renewalStart lease) (dueHistory lease) (latest _ (dueHistory lease)) :=
    Run.start.replay _
  exact run_nextMoment (run_nextMoment (run_nextMoment (run_nextMoment due fires) sends) grants)
    decides

theorem attempt_renewedHistory {lease : Duration} (fires : (fired lease).Fires 1)
    (token : (fired lease).before.session.state.token? = some (hastyToken 1 0)) :
    Attempt 1 (hastyToken 1 0) [granting lease, sending lease] (renewedHistory lease) :=
  .lasts (.lasts (.started fires token) (by rintro (h | ⟨cause, h⟩) <;> exact nomatch h))
    (by rintro (h | ⟨cause, h⟩) <;> exact nomatch h)

/-- The store renews the token with the lease, and no other one. -/
theorem lease_of_renews {lease : Duration} (answered : (granting lease).act.label?
      (granting lease).before = some (.answer 1 (.granted ⟨"mem-token-1", lease, true⟩)))
    (hw : w ∈ [granting lease, sending lease]) (renews : w.Renews 1 t₁ t) : t.lease = lease := by
  obtain ⟨-, g, label, rfl⟩ := renews
  rcases List.mem_cons.1 hw with rfl | hw
  · obtain ⟨-, hgrant⟩ := Session.Label.answer.inj (Option.some.inj (answered.symm.trans label))
    obtain rfl := Answer.granted.inj hgrant
    rfl
  · obtain rfl := List.mem_singleton.1 hw
    have sends : (sending lease).act.label? (sending lease).before = some (.proceed 1) := rfl
    exact nomatch sends.symm.trans label

/-- A lease of five seconds, where ten are the threshold: the scheduler logs in again. -/
theorem logs_in_again_iff_shortLease :
    (renewalStart 5000).IsFresh ∧
      Run (renewalStart 5000) (deciding 5000 :: renewedHistory 5000) (deciding 5000).after ∧
      Attempt 1 (hastyToken 1 0) [granting 5000, sending 5000] (renewedHistory 5000) ∧
      (deciding 5000).AsksLogin 1 ∧
      ReachesLimit hastyPolicy [granting 5000, sending 5000] 1 := by
  have fresh : (renewalStart 5000).IsFresh := isFresh_overMemory _
  have run := @run_deciding 5000 (by decide +kernel) (by decide +kernel)
    (by decide +kernel) (by decide +kernel)
  have scheduler : (deciding 5000).before.scheduler? 1 = some (decidingScheduler 5000) := by
    decide +kernel
  have attempt := @attempt_renewedHistory 5000 ⟨rfl, ⟨_, _, rfl, rfl⟩⟩ (by decide +kernel)
  have alone : ∀ w ∈ [granting 5000, sending 5000], ∀ t, w.Makes t → w.act = .move (.answer 1) := by
    intro w hw t makes
    rcases List.mem_cons.1 hw with rfl | hw
    · rfl
    · obtain rfl := List.mem_singleton.1 hw
      obtain ⟨caller, hact⟩ := makes.act
      exact nomatch hact
  have finite : ∀ w ∈ [granting 5000, sending 5000], ∀ t₁ t, w.Renews 1 t₁ t → t.lease ≠ 0 := by
    intro w hw t₁ t renews
    rw [lease_of_renews (by decide +kernel) hw renews]
    decide
  have asks : (deciding 5000).AsksLogin 1 :=
    ⟨rfl, decidingScheduler 5000, _, task?_of_scheduler? scheduler, rfl⟩
  obtain ⟨-, decides⟩ := run.logs_in_again_iff fresh scheduler rfl
  obtain ⟨-, -, asks_iff⟩ := decides _ _ attempt
  exact ⟨fresh, run, attempt, asks, (asks_iff alone finite).1 asks⟩

/-- A lease without end counts as one that has become shorter: the scheduler logs in again although
the token that it has renewed never expires. -/
theorem endlessLease_logs_in_again :
    (renewalStart 0).IsFresh ∧
      Run (renewalStart 0) (deciding 0 :: renewedHistory 0) (deciding 0).after ∧
      Attempt 1 (hastyToken 1 0) [granting 0, sending 0] (renewedHistory 0) ∧
      (deciding 0).AsksLogin 1 ∧ ¬ ReachesLimit hastyPolicy [granting 0, sending 0] 1 ∧
      ∃ t, (deciding 0).before.session.state.token? = some t ∧
        ∀ now, t.isExpired now = .ok false := by
  have run := @run_deciding 0 (by decide +kernel) (by decide +kernel)
    (by decide +kernel) (by decide +kernel)
  have scheduler : (deciding 0).before.scheduler? 1 = some (decidingScheduler 0) := by
    decide +kernel
  refine ⟨isFresh_overMemory _, run,
    attempt_renewedHistory ⟨rfl, ⟨_, _, rfl, rfl⟩⟩ (by decide +kernel),
    ⟨rfl, decidingScheduler 0, _, task?_of_scheduler? scheduler, rfl⟩, ?_, ?_⟩
  · rintro ⟨w, hw, t₁, t, renews, finite, -⟩
    exact finite (lease_of_renews (by decide +kernel) hw renews)
  · refine ⟨(hastyToken 1 0).renewed 0 true 50000, by decide +kernel, ?_⟩
    intro now
    rfl

end Agent

end SecretConfig
