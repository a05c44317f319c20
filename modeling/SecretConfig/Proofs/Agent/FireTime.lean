import SecretConfig.Proofs.Agent.Tasks
import SecretConfig.Proofs.Session.Publications

set_option autoImplicit false

/-! # When a scheduler has a token renewed

A scheduler looks at the published token and waits until that is due for renewal
(`RenewalPolicy.fireTime`); then it starts an attempt. The attempt waits for its turn at the
session, and renews whatever token is published when its turn comes. A call that was before it in
line may have made another token by then, and that one is renewed however new it is:
`hastyHistory` is such a run. Another token may also be published just as the wait ends. The timer
and the change can then both end it, and where the timer does, the attempt is one for a token that
the scheduler has not seen.

`Wait` is the part of a run from a look of a scheduler to the end of its wait.
`Run.renews_when_due` says that there is no other way: whenever an attempt has a token renewed, the
token that was published when the scheduler looked was due when the attempt started; and the one
that is renewed is that token, or it was made since the look. -/

namespace SecretConfig

/-- From when on the policy wants a token renewed. -/
def RenewalPolicy.fireTime (p : RenewalPolicy) (t : Token) : Instant :=
  t.issuedAt + max (t.lease - p.threshold) p.minInterval

/-! ## What a scheduler waits for -/

namespace Scheduler

variable {s s' : Scheduler} {now : Instant} {session : Session} {call : Option Call}
  {id : CallId} {events : List Event}

/-- A scheduler that waits for an instant after a look waits until the published token is due. -/
theorem due_of_look {due : Instant} (phase : (s.look session).phase = .waiting (some due)) :
    s.policy.enabled = true ∧
      ∃ t, session.state.token? = some t ∧ s.policy.fireTime t ≤ due := by
  unfold look at phase
  cases hfire : s.fireAt session.state with
  | error fault => simp [hfire] at phase
  | ok next =>
      simp only [hfire, Phase.waiting.injEq] at phase
      subst phase
      cases htoken : session.state.token? with
      | none => simp [fireAt, htoken] at hfire
      | some t =>
          cases hwanted : s.policy.enabled && t.isRenewable with
          | false => simp [fireAt, htoken, RenewalPolicy.nextRenewalAt, hwanted] at hfire
          | true =>
              obtain ⟨enabled, renewable⟩ := Bool.and_eq_true_iff.1 hwanted
              rw [fireAt_eq htoken enabled renewable] at hfire
              split at hfire
              · obtain rfl := Option.some.inj (Except.ok.inj hfire)
                refine ⟨enabled, t, rfl, ?_⟩
                unfold due RenewalPolicy.fireTime
                cases s.lastAttempt with
                | none => exact Nat.le_refl _
                | some previous => exact Nat.le_max_left _ _
              · exact nomatch hfire

/-- Replies reach a scheduler in an attempt, and nothing else of it changes. -/
theorem takeReplies_eq (s : Scheduler) (id : CallId) (events : List Event) :
    ∃ s', (Task.scheduler s).takeReplies id events = .scheduler s' ∧ s'.policy = s.policy ∧
      s'.seen = s.seen ∧
      (s'.phase = s.phase ∨ (∃ before reply, s'.phase = .renewing before (some reply)) ∨
        ∃ reply, s'.phase = .relogging (some reply)) := by
  refine Task.takeReplies_keeps (P := fun t => ∃ s', t = .scheduler s' ∧ s'.policy = s.policy ∧
    s'.seen = s.seen ∧
    (s'.phase = s.phase ∨ (∃ before reply, s'.phase = .renewing before (some reply)) ∨
      ∃ reply, s'.phase = .relogging (some reply)))
    ⟨s, rfl, rfl, rfl, .inl rfl⟩ ?_ id events
  rintro _ reply ⟨s', rfl, policy, seen, phase⟩
  refine ⟨s'.deliver reply, rfl, ?_⟩
  unfold deliver
  split
  · exact ⟨policy, seen, .inr (.inl ⟨_, reply, rfl⟩)⟩
  · exact ⟨policy, seen, .inr (.inr ⟨reply, rfl⟩)⟩
  · exact ⟨policy, seen, phase⟩

end Scheduler

namespace Agent

variable {start s s' : Agent} {history past : List Moment} {id : CallId} {t : Token}
  {trace : List Session.Moment} {sched : Scheduler}

/-! ## Attempts -/

/-- The scheduler of an identity looks at the published token. -/
structure Moment.Looks (v : Moment) (id : CallId) (t : Token) : Prop where
  act : v.act = .move (.resume id)
  looking : ∃ sched, v.before.task? id = some (.scheduler sched) ∧ sched.phase = .looking
  token : v.before.session.state.token? = some t

/-- The timer of the scheduler of an identity ends its wait, and an attempt starts. -/
structure Moment.Fires (u : Moment) (id : CallId) : Prop where
  act : u.act = .move (.wake id .timer)
  asks : ∃ sched sched', u.before.task? id = some (.scheduler sched) ∧
    sched.wake u.before.now u.before.session .timer = some (sched', some .renew)

/-- The scheduler of an identity has not seen what is published. -/
def Moment.IsUnseen (u : Moment) (id : CallId) : Prop :=
  ∃ sched, u.before.task? id = some (.scheduler sched) ∧ sched.seen ≠ u.before.session.version

/-- The scheduler of an identity goes on. -/
def Moment.IsTurn (w : Moment) (id : CallId) : Prop :=
  w.act = .move (.resume id) ∨ ∃ cause, w.act = .move (.wake id cause)

/-- The store grants the session a token, which is published. -/
structure Moment.Makes (u : Moment) (t : Token) : Prop where
  act : ∃ caller, u.act = .move (.answer caller)
  published : u.after.session.state = .valid t
  issuedAt : t.issuedAt = u.before.now

/-- A call of the session sends the renewal of a token to the store. -/
structure Moment.SendsRenewal (m : Moment) (id : CallId) (t : Token) : Prop where
  act : m.act = .move (.proceed id)
  sent : .renewalSent id t ∈
    ((m.before.session.step m.before.now (.proceed id)).map Prod.snd).getD []

/-- The scheduler of an identity waits at the end of a history. It looked at the token `t₀`, and
has not gone on in what happened since. -/
inductive Wait (id : CallId) (t₀ : Token) : List Moment → List Moment → Prop
  | looked {v : Moment} {earlier : List Moment} (looks : v.Looks id t₀) :
      Wait id t₀ [] (v :: earlier)
  | lasts {m : Moment} {since history : List Moment} (wait : Wait id t₀ since history)
      (other : ¬ m.IsTurn id) : Wait id t₀ (m :: since) (m :: history)

/-- An attempt of the scheduler of an identity has started after a wait, when the token that it had
looked at was due. A token that is published now was the one then, or it was made since. -/
def Attempted (history : List Moment) (s : Agent) (id : CallId) (p : RenewalPolicy) : Prop :=
  p.enabled = true ∧ ∃ between u since earlier t₀, history = between ++ u :: earlier ∧
    Wait id t₀ since earlier ∧ u.Fires id ∧ p.fireTime t₀ ≤ u.before.now ∧ u.before.now ≤ s.now ∧
      ∀ t, s.session.state.token? = some t →
        t = t₀ ∨ (∃ w ∈ between, w.Makes t) ∨ u.IsUnseen id ∧ ∃ w ∈ since, w.Makes t

/-- A scheduler has looked at a token and waits. -/
structure Waits (history since : List Moment) (s : Agent) (id : CallId) (sched : Scheduler)
    (t₀ : Token) (due : Instant) : Prop where
  wait : Wait id t₀ since history
  enabled : sched.policy.enabled = true
  wanted : sched.policy.fireTime t₀ ≤ due
  /-- Nothing else is published unless the scheduler has not seen it. -/
  current : sched.seen = s.session.version → s.session.state.token? = some t₀
  published : ∀ t, s.session.state.token? = some t → t = t₀ ∨ ∃ w ∈ since, w.Makes t

/-- What a scheduler knows of the session. -/
structure Watches (history : List Moment) (s : Agent) (id : CallId) (sched : Scheduler) : Prop where
  seen : sched.seen ≤ s.session.version
  waits : ∀ due, sched.phase = .waiting (some due) →
    ∃ since t₀, Waits history since s id sched t₀ due
  attempted : ∀ before, sched.phase = .renewing before none →
    Attempted history s id sched.policy

/-- Every scheduler knows what it acts on. -/
def Watched (history : List Moment) (s : Agent) : Prop :=
  ∀ id sched, s.task? id = some (.scheduler sched) → Watches history s id sched

theorem watches_of_started (history : List Moment) (s : Agent) (id : CallId)
    (policy : RenewalPolicy) : Watches history s id { policy } :=
  ⟨Nat.zero_le _, nofun, nofun⟩

/-- An attempt goes on while the session does. -/
theorem Attempted.next {p : RenewalPolicy} {m : Moment} (h : Attempted history s id p)
    (now : s.now ≤ s'.now)
    (token : ∀ t, s'.session.state.token? = some t →
      s.session.state.token? = some t ∨ m.Makes t) : Attempted (m :: history) s' id p := by
  obtain ⟨enabled, between, u, since, earlier, t₀, rfl, wait, fires, wanted, clock, same⟩ := h
  refine ⟨enabled, m :: between, u, since, earlier, t₀, rfl, wait, fires, wanted,
    Nat.le_trans clock now, ?_⟩
  intro t ht
  rcases token t ht with hold | hnew
  · rcases same t hold with rfl | ⟨w, hw, makes⟩ | unseen
    · exact .inl rfl
    · exact .inr (.inl ⟨w, List.mem_cons_of_mem m hw, makes⟩)
    · exact .inr (.inr unseen)
  · exact .inr (.inl ⟨m, List.mem_cons_self, hnew⟩)

/-- A wait lasts while others go on. -/
theorem Waits.next {m : Moment} {since : List Moment} {t₀ : Token} {due : Instant}
    (h : Waits history since s id sched t₀ due) (other : ¬ m.IsTurn id)
    (seen : sched.seen ≤ s.session.version) (version : s.session.version ≤ s'.session.version)
    (state : s'.session.version = s.session.version → s'.session.state = s.session.state)
    (token : ∀ t, s'.session.state.token? = some t →
      s.session.state.token? = some t ∨ m.Makes t) :
    Waits (m :: history) (m :: since) s' id sched t₀ due where
  wait := h.wait.lasts other
  enabled := h.enabled
  wanted := h.wanted
  current hseen := by
    -- nothing was published since the scheduler looked
    have hversion : s'.session.version = s.session.version :=
      Nat.le_antisymm (hseen ▸ seen) version
    rw [state hversion]
    exact h.current (hseen.trans hversion)
  published t ht := by
    rcases token t ht with hold | hnew
    · rcases h.published t hold with rfl | ⟨w, hw, makes⟩
      · exact .inl rfl
      · exact .inr ⟨w, List.mem_cons_of_mem m hw, makes⟩
    · exact .inr ⟨m, List.mem_cons_self, hnew⟩

/-- A scheduler knows what it did while others go on. -/
theorem Watches.next {m : Moment} (h : Watches history s id sched) (other : ¬ m.IsTurn id)
    (now : s.now ≤ s'.now) (version : s.session.version ≤ s'.session.version)
    (state : s'.session.version = s.session.version → s'.session.state = s.session.state)
    (token : ∀ t, s'.session.state.token? = some t →
      s.session.state.token? = some t ∨ m.Makes t) : Watches (m :: history) s' id sched where
  seen := Nat.le_trans h.seen version
  waits due hphase := by
    obtain ⟨since, t₀, waits⟩ := h.waits due hphase
    exact ⟨_, t₀, waits.next other h.seen version state token⟩
  attempted before hphase := (h.attempted before hphase).next now token

/-- A scheduler that waits for nothing else knows as much. -/
theorem Watches.sub {sched' : Scheduler} (h : Watches history s id sched)
    (policy : sched'.policy = sched.policy) (seen : sched'.seen = sched.seen)
    (phase : sched'.phase = sched.phase ∨
      (∀ due, sched'.phase ≠ .waiting due) ∧ ∀ before, sched'.phase ≠ .renewing before none) :
    Watches history s id sched' := by
  rcases phase with same | ⟨noDue, noAttempt⟩
  · refine ⟨seen ▸ h.seen, fun due hphase => ?_, by rw [same, policy]; exact h.attempted⟩
    obtain ⟨since, t₀, waits⟩ := h.waits due (same.symm.trans hphase)
    exact ⟨since, t₀, waits.wait, policy ▸ waits.enabled, policy ▸ waits.wanted,
      seen ▸ waits.current, waits.published⟩
  · exact ⟨seen ▸ h.seen, fun due hphase => absurd hphase (noDue _),
      fun before hphase => absurd hphase (noAttempt before)⟩

theorem Watches.endures {sched' : Scheduler} (h : Watches history s id sched)
    (endures : sched.Endures sched') : Watches history s id sched' := by
  refine h.sub endures.policy endures.seen (endures.phase.imp_right fun stopped => ?_)
  rw [stopped]
  exact ⟨nofun, nofun⟩

/-- Replies reach a scheduler in an attempt, which has its end then. -/
theorem Watches.takeReplies (h : Watches history s id sched) (caller : CallId)
    (events : List Event) :
    ∃ sched', (Task.scheduler sched).takeReplies caller events = .scheduler sched' ∧
      Watches history s id sched' := by
  obtain ⟨sched', htake, policy, seen, phase⟩ := sched.takeReplies_eq caller events
  refine ⟨sched', htake, h.sub policy seen (phase.imp_right ?_)⟩
  rintro (⟨before, reply, hphase⟩ | ⟨reply, hphase⟩)
  · rw [hphase]
    exact ⟨nofun, nofun⟩
  · rw [hphase]
    exact ⟨nofun, nofun⟩

/-- A scheduler that has looked waits for the token that is published. -/
theorem Watches.look {m : Moment} (act : m.act = .move (.resume id)) (before : m.before = s)
    (ht : s.task? id = some (.scheduler sched)) (phase : sched.phase = .looking)
    (version : s'.session.version = s.session.version)
    (state : s'.session.state = s.session.state) :
    Watches (m :: history) s' id (sched.look s.session) := by
  have hlook : (sched.look s.session).policy = sched.policy ∧
      (sched.look s.session).seen = s.session.version ∧
        ∀ before, (sched.look s.session).phase ≠ .renewing before none := by
    unfold Scheduler.look
    cases sched.fireAt s.session.state <;> exact ⟨rfl, rfl, nofun⟩
  obtain ⟨hpolicy, hseen, hother⟩ := hlook
  refine ⟨Nat.le_of_eq (hseen.trans version.symm), ?_, fun before hphase =>
    absurd hphase (hother before)⟩
  intro due hphase
  obtain ⟨enabled, t₀, token, wanted⟩ := Scheduler.due_of_look hphase
  refine ⟨[], t₀, .looked ⟨act, ⟨sched, before ▸ ht, phase⟩, before ▸ token⟩, hpolicy ▸ enabled,
    hpolicy ▸ wanted, fun _ => state ▸ token, ?_⟩
  intro t ht'
  rw [state, token] at ht'
  exact .inl (Option.some.inj ht').symm

/-- The timer of a scheduler ends its wait. -/
theorem Watches.fire {u : Moment} (h : Watches history s id sched) (before : u.before = s)
    (fires : u.Fires id) (ht : s.task? id = some (.scheduler sched)) {due : Instant}
    (phase : sched.phase = .waiting (some due)) (time : due ≤ s.now)
    (state : s'.session.state = s.session.state) (now : s.now ≤ s'.now) :
    Attempted (u :: history) s' id sched.policy := by
  obtain ⟨since, t₀, waits⟩ := h.waits due phase
  refine ⟨waits.enabled, [], u, since, history, t₀, rfl, waits.wait, fires, ?_, ?_, ?_⟩
  · rw [before]
    exact Nat.le_trans waits.wanted time
  · rw [before]
    exact now
  · intro t ht'
    rw [state] at ht'
    by_cases current : sched.seen = s.session.version
    · exact .inl (Option.some.inj (ht'.symm.trans (waits.current current)))
    · -- the change is there as well, and the scheduler has not taken note of it
      refine (waits.published t ht').imp_right fun made => .inr ⟨⟨sched, ?_, ?_⟩, made⟩
      · rw [before]
        exact ht
      · rw [before]
        exact current

theorem Act.Turns.isTurn {m : Moment} {next : Scheduler × Option Call}
    (h : m.act.Turns m.before id sched next) : m.IsTurn id := by
  obtain ⟨before, a, after⟩ := m
  cases h with
  | resumes step => exact .inl rfl
  | @wakes cause wake => exact .inr ⟨cause, rfl⟩

/-- A scheduler goes on. What it asks for is asked after it has taken note of that. -/
theorem Watches.turn (h : Watches history s id sched) (ht : s.task? id = some (.scheduler sched))
    {a : Act} {sched' : Scheduler} {call : Option Call}
    (turn : a.Turns s id sched (sched', call)) (version : s'.session.version = s.session.version)
    (state : s'.session.state = s.session.state) (now : s.now ≤ s'.now) :
    Watches (⟨s, a, s'⟩ :: history) s' id sched' := by
  have seen : sched.seen ≤ s'.session.version := version ▸ h.seen
  cases turn with
  | resumes step =>
      cases Scheduler.does_of_step step s.now with
      | look phase => exact .look rfl rfl ht phase version state
      | stop | notice | relogin | settle | finish | crash => exact ⟨seen, by simp, by simp⟩
      | fire phase =>
          simp [SecretConfig.Scheduler.step, phase] at step
  | wakes wake =>
      cases Scheduler.wakes_of_wake wake with
      | cancelled | changed => exact ⟨seen, by simp, by simp⟩
      | timer phase time =>
          exact ⟨seen, by simp [Scheduler.fire], fun before _ =>
            h.fire rfl ⟨rfl, sched, _, ht, wake⟩ ht phase time state now⟩

/-! ### Every act -/

/-- An act that is no step of the session publishes nothing. -/
theorem Traced.published_of_outside (h : Traced start trace none s)
    (continues : Continues start trace s') :
    s'.session.version = s.session.version ∧ s'.session.state = s.session.state := by
  obtain ⟨calls, traced, outside⟩ := continues
  exact traced.run.published_of_outside h.run outside

/-- The store has answered when a step of the session has the label of an answer. -/
theorem Act.answer_of_label? {a : Act} {answer : Answer}
    (h : a.label? s = some (.answer id answer)) : a = .move (.answer id) := by
  unfold Act.label? at h
  split at h
  · exact nomatch h
  · obtain ⟨r, -, hr⟩ := Option.map_eq_some_iff.1 h
    obtain ⟨rfl, -⟩ := Session.Label.answer.inj hr
    rfl
  · exact nomatch h
  · exact nomatch h

/-- A step of the session publishes what is due for renewal, or makes a token. -/
theorem Watched.steps (h : Watched history s) (traced : Traced start trace none s) {a : Act}
    {l : Session.Label} {events : List Event} (steps : a.Steps s l events s')
    (now : s.now ≤ s'.now) : Watched (⟨s, a, s'⟩ :: history) s' := by
  intro id sched ht
  rw [steps.task?] at ht
  obtain ⟨task, hold, htake⟩ := Option.map_eq_some_iff.1 ht
  cases task with
  | work goal stage =>
      obtain ⟨stage', hwork⟩ := Task.takeReplies_work id events goal stage
      exact nomatch hwork.symm.trans htake
  | scheduler old =>
      have does := Session.does_of_step steps.step
      have other : ¬ (⟨s, a, s'⟩ : Moment).IsTurn id := by
        rintro (rfl | ⟨cause, rfl⟩) <;> exact nomatch steps.label
      have next : Watches (⟨s, a, s'⟩ :: history) s' id old := by
        refine (h id old hold).next other now does.version_le does.state_eq_of_version ?_
        intro t token
        rcases does.granted_or_stays traced.run.coherent token with
          before | ⟨⟨caller, g, rfl, -⟩, published, issuedAt⟩
        · exact .inl before
        · exact .inr ⟨⟨caller, Act.answer_of_label? steps.label⟩, published, issuedAt⟩
      obtain ⟨sched', htake', watches⟩ := next.takeReplies id events
      obtain rfl := Task.scheduler.inj (htake'.symm.trans htake)
      exact watches

/-- The task of a goal that was taken up is work. -/
theorem Traced.atWork_spawn (h : Traced start trace none s) (goal : Goal) :
    (s.spawn goal).1.AtWork s.nextId :=
  (s.works_spawn goal).atWork ⟨goal, _, h.task?_nextId goal⟩

/-- An act of the task itself, after which it is a scheduler: the scheduler has gone on. -/
theorem Traced.turns_of_isOf (h : Traced start trace none s) {a : Act} (own : a.IsOf id s)
    (step : s.act a = some s') (ht : s'.task? id = some (.scheduler sched)) :
    ∃ old call, s.task? id = some (.scheduler old) ∧ a.Turns s id old (sched, call) ∧
      s'.session = call.elim s.session (s.session.acquire id) := by
  have notWork (atWork : s'.AtWork id) : False := by
    obtain ⟨goal, stage, hwork⟩ := atWork
    cases hwork.symm.trans ht
  cases own.own step with
  | spawns new begun =>
      subst new begun
      exact (notWork (h.atWork_spawn _)).elim
  | drops gone =>
      rw [gone, task?_drop, if_pos rfl] at ht
      cases ht
  | reads reads =>
      obtain ⟨goal, o, t, slots, -, -, hread, -⟩ := park_of_stepRead reads
      exact (notWork ((works_of_stepRead reads).atWork ⟨goal, _, hread⟩)).elim
  | works task resumes =>
      exact (notWork ((works_of_resumeWork resumes).atWork ⟨_, _, task⟩)).elim
  | @turns _ old next task turns after =>
      obtain ⟨sched', call⟩ := next
      subst after
      obtain ⟨htask, session⟩ := task?_turn task turns.does
      obtain rfl := Task.scheduler.inj (Option.some.inj (htask.symm.trans ht))
      exact ⟨old, call, task, turns, session⟩

theorem Watched.act (h : Watched history s) (traced : Traced start trace none s) {a : Act}
    (step : s.act a = some s') : Watched (⟨s, a, s'⟩ :: history) s' := by
  have now : s.now ≤ s'.now := (advances_of_act step).now
  rcases traced.act step with ⟨l, events, steps, -⟩ | ⟨outside, continues⟩
  · exact h.steps traced steps now
  · obtain ⟨version, state⟩ := traced.published_of_outside continues
    intro id sched ht
    by_cases own : a.IsOf id s
    · obtain ⟨old, call, hold, turns, -⟩ := traced.turns_of_isOf own step ht
      exact (h id old hold).turn hold turns version state now
    · have keeps := keeps_of_act outside own step
      cases hold : s.task? id with
      | none =>
          obtain ⟨-, policy, endures⟩ := keeps.started _ hold ht
          cases endures with
          | scheduler endures => exact (watches_of_started _ s' id policy).endures endures
      | some task =>
          obtain ⟨task', ht', endures⟩ := keeps.task task hold
          obtain rfl := Option.some.inj (ht'.symm.trans ht)
          cases endures with
          | scheduler endures =>
              have other : ¬ (⟨s, a, s'⟩ : Moment).IsTurn id := by
                rintro (rfl | ⟨cause, rfl⟩) <;> exact own rfl
              have next := (h id _ hold).next other now (Nat.le_of_eq version.symm)
                (fun _ => state) fun t token => .inl (state ▸ token)
              exact next.endures endures

theorem Run.watched (run : Run start history s) (fresh : start.IsFresh) : Watched history s := by
  induction run with
  | start =>
      intro id sched ht
      simp [task?, fresh.tasks] at ht
  | next run step ih =>
      obtain ⟨trace, traced⟩ := run.traced fresh
      exact ih.act traced step

/-! ## Renewals -/

/-- A renewal that is sent is one of the published token, for the call that holds the guard. -/
theorem Moment.SendsRenewal.holder {m : Moment} (h : m.SendsRenewal id t) :
    m.before.session.active = some (id, .granted .renew) ∧
      m.before.session.state.token? = some t := by
  have sent := h.sent
  cases hstep : m.before.session.step m.before.now (.proceed id) with
  | none =>
      rw [hstep] at sent
      exact nomatch sent
  | some r =>
      obtain ⟨session, events⟩ := r
      rw [hstep] at sent
      have hmem : .renewalSent id t ∈ events := sent
      cases Session.does_of_step hstep with
      | sendRenewal holder token =>
          simp only [List.mem_cons, reduceCtorEq, Event.renewalSent.injEq, true_and,
            List.not_mem_nil, or_false, false_or] at hmem
          subst hmem
          exact ⟨holder, token⟩
      | share | crash | lapse | sendLogin | forceLogin | noSession | skipRenewal | closeRevoking
      | close => simp at hmem
      | failLogin label | keep label | lose label | crashRenewing label | endRevocation label =>
          exact label.elim

/-- A scheduler that waits for a renewal is in an attempt. -/
theorem Scheduler.phase_of_awaits? (waits : sched.awaits? = some .renew) :
    ∃ before, sched.phase = .renewing before none := by
  unfold SecretConfig.Scheduler.awaits? at waits
  split at waits
  · rename_i before hphase
    exact ⟨before, hphase⟩
  · exact nomatch waits
  · exact nomatch waits

/-- **A scheduler starts its attempts in time, and renews what was published since it looked.** Let
a scheduler send the renewal of a token `t` at a moment `m` of a run. Its policy is enabled. It had
looked at the published token `t₀`, had waited since, and its timer had ended the wait at a moment
`u`, when `t₀` was due. Either `t` is `t₀`, and due at `m`; or the store granted `t` to the session
after `u`, while the attempt waited for its turn; or the store granted it before `u`, and the
scheduler had not seen that when its wait ended. -/
theorem Run.renews_when_due {m : Moment} (run : Run start (m :: past) s) (fresh : start.IsFresh)
    (scheduler : m.before.scheduler? id = some sched) (sends : m.SendsRenewal id t) :
    sched.policy.enabled = true ∧ ∃ between u since earlier t₀, past = between ++ u :: earlier ∧
      Wait id t₀ since earlier ∧ u.Fires id ∧ sched.policy.fireTime t₀ ≤ u.before.now ∧
        (t = t₀ ∧ sched.policy.fireTime t ≤ m.before.now ∨ (∃ w ∈ between, w.Makes t) ∨
          u.IsUnseen id ∧ ∃ w ∈ since, w.Makes t) := by
  obtain ⟨holder, token⟩ := sends.holder
  have ht := task?_of_scheduler? scheduler
  cases run with
  | next run step =>
      obtain ⟨trace, traced⟩ := run.traced fresh
      -- the scheduler waits for the call that has its turn
      have waits := traced.awaits?_of_active holder
      rw [awaits?_of_task? ht] at waits
      obtain ⟨before, phase⟩ := Scheduler.phase_of_awaits? waits
      obtain ⟨enabled, between, u, since, earlier, t₀, hpast, wait, fires, due, clock, same⟩ :=
        (run.watched fresh id sched ht).attempted before phase
      refine ⟨enabled, between, u, since, earlier, t₀, hpast, wait, fires, due, ?_⟩
      rcases same t token with rfl | made
      · exact .inl ⟨rfl, Nat.le_trans due clock⟩
      · exact .inr made

/-! ## A renewal before its time -/

/-- Tokens are renewed ten seconds before the end of their lease. -/
def hastyPolicy : RenewalPolicy := { threshold := 10000 }

/-- A store that takes four seconds for a login. -/
def hastyStore : MemoryStore := { loginDelay := 4000 }

def hastyStart : Agent := overMemory hastyStore

/-- The token of a login of the store. -/
def hastyToken (number : Nat) (issuedAt : Instant) : Token :=
  ⟨⟨MemoryStore.issuedValue number⟩, 60000, true, issuedAt, .login⟩

/-- A first login, and a scheduler that waits until its token is due at the second 54. -/
def hastyLogin : List Act :=
  [.spawn (.call .login), .move (.proceed 0), .move (.pass 4000), .move (.answer 0),
    .move (.resume 0), .startScheduler hastyPolicy, .move (.resume 1)]

/-- The token is renewed when it is due. -/
def patientHistory : List Moment :=
  replay hastyStart [] (hastyLogin ++ [.move (.pass 54000), .move (.wake 1 .timer)])

/-- A second login is under way when the attempt starts. It makes a token at the second 56, before
the attempt has its turn. -/
def hastyHistory : List Moment :=
  replay hastyStart [] (hastyLogin ++
    [.move (.pass 52000), .spawn (.call .login), .move (.proceed 2), .move (.pass 54000),
      .move (.wake 1 .timer), .move (.pass 56000), .move (.answer 2), .move (.answer 2)])

/-- After some moments the attempt has its turn. -/
def turnAfter (history : List Moment) : Moment :=
  let s := latest hastyStart history
  ⟨s, .move (.proceed 1), (s.act (.move (.proceed 1))).getD s⟩

theorem run_turnAfter (run : Run hastyStart history (latest hastyStart history))
    (possible : ((latest hastyStart history).act (.move (.proceed 1))).isSome) :
    Run hastyStart (turnAfter history :: history) (turnAfter history).after := by
  obtain ⟨s', step⟩ := Option.isSome_iff_exists.1 possible
  have hafter : (turnAfter history).after = s' := by
    simp only [turnAfter, step, Option.getD_some]
  rw [hafter, turnAfter, step]
  exact .next run step

/-- The scheduler of the runs in an attempt. -/
def hastyScheduler : Scheduler :=
  { policy := hastyPolicy, seen := 1, lastAttempt := some 54000
    phase := .renewing (some 60000) none }

theorem renews_when_due_patientHistory :
    hastyStart.IsFresh ∧
      Run hastyStart (turnAfter patientHistory :: patientHistory) (turnAfter patientHistory).after ∧
      (turnAfter patientHistory).before.scheduler? 1 = some hastyScheduler ∧
      (turnAfter patientHistory).SendsRenewal 1 (hastyToken 1 4000) ∧
      ∃ between u since earlier t₀, patientHistory = between ++ u :: earlier ∧
        Wait 1 t₀ since earlier ∧ u.Fires 1 ∧ hastyPolicy.fireTime t₀ ≤ u.before.now := by
  have run : Run hastyStart (turnAfter patientHistory :: patientHistory)
      (turnAfter patientHistory).after := run_turnAfter (Run.start.replay _) (by decide +kernel)
  have scheduler : (turnAfter patientHistory).before.scheduler? 1 = some hastyScheduler := by
    decide +kernel
  have sends : (turnAfter patientHistory).SendsRenewal 1 (hastyToken 1 4000) :=
    ⟨rfl, by decide +kernel⟩
  refine ⟨isFresh_overMemory hastyStore, run, scheduler, sends, ?_⟩
  obtain ⟨-, between, u, since, earlier, t₀, hpast, wait, fires, due, -⟩ :=
    run.renews_when_due (isFresh_overMemory hastyStore) scheduler sends
  exact ⟨between, u, since, earlier, t₀, hpast, wait, fires, due⟩

/-- A scheduler has a token renewed at the instant at which it was made, fifty seconds before it is
due. -/
theorem hastyHistory_renews_early :
    hastyStart.IsFresh ∧ hastyPolicy.enabled = true ∧
      Run hastyStart (turnAfter hastyHistory :: hastyHistory) (turnAfter hastyHistory).after ∧
      (turnAfter hastyHistory).before.scheduler? 1 = some hastyScheduler ∧
      (turnAfter hastyHistory).SendsRenewal 1 (hastyToken 2 56000) ∧
      (turnAfter hastyHistory).before.now + 50000 = hastyPolicy.fireTime (hastyToken 2 56000) := by
  have run : Run hastyStart (turnAfter hastyHistory :: hastyHistory)
      (turnAfter hastyHistory).after := run_turnAfter (Run.start.replay _) (by decide +kernel)
  refine ⟨isFresh_overMemory hastyStore, rfl, run, by decide +kernel, ⟨rfl, by decide +kernel⟩, ?_⟩
  decide +kernel

end Agent

end SecretConfig
