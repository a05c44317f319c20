import SecretConfig.Proofs.Session.Publications
import SecretConfig.Proofs.Session.Scheduling

set_option autoImplicit false

/-! # Runs of a scheduler

A scheduler on duty serves a session that others call as well. In a run of the two (`Scheduler.Run`)
the session takes any of its steps at instants that never go back, whatever is called, answered,
refused, given up or dropped, and by whomever. In between the scheduler goes on, is asked to stop,
or is stopped at once.

Several things can end a wait at one instant. Each of them is an act of its own (`Act.wake`), so
what holds of all runs does not depend on which of them the scheduler goes by.

`Duty.Acts` says once what an act does, and no proof after this file unfolds `Duty.act`. From it
follows what a stretch of a run leaves of the published state (`Run.stretch`): the state is the same
as long as nothing is published, and the version tells whether something was. -/

namespace SecretConfig

namespace Scheduler

/-! ## What happens -/

/-- A scheduler with the session that it serves. -/
structure Duty where
  session : Session
  scheduler : Scheduler
deriving DecidableEq, Inhabited

/-- What happens to a scheduler on duty. -/
inductive Act where
  /-- The session takes a step. -/
  | session (l : Session.Label)
  /-- The scheduler goes on. -/
  | resume
  /-- The wait of the scheduler ends. -/
  | wake (cause : Cause)
  /-- The scheduler is asked to stop. -/
  | cancel
  /-- The scheduler is stopped at once, and its call is dropped. -/
  | abort
deriving DecidableEq, Inhabited

/-- Take the replies among some events that are for the call of an identity. -/
def take (id : CallId) (events : List Event) (s : Scheduler) : Scheduler :=
  events.foldl (fun s e => match e with
    | .returned caller reply => if caller = id then s.deliver reply else s
    | _ => s) s

namespace Duty

/-- The scheduler goes on: where it stands then, and what it asks of the session. -/
def turn (d : Duty) (now : Instant) : Act → Option (Scheduler × Option Call)
  | .resume => d.scheduler.step d.session
  | .wake cause => d.scheduler.wake now d.session cause
  | .session _ | .cancel | .abort => none

/-- What the scheduler asks for is a call on the session under its own identity. -/
def ask (d : Duty) (now : Instant) (id : CallId) : Option Call → Session
  | some call => (d.session.begin now id call).1
  | none => d.session

/-- The scheduler and the session after an act; `none` when the act cannot happen. -/
def act (id : CallId) (d : Duty) (now : Instant) (a : Act) : Option Duty :=
  match a with
  | .session l =>
    (d.session.step now l).map fun (session, events) => ⟨session, d.scheduler.take id events⟩
  | .cancel => some { d with scheduler := { d.scheduler with cancelled := true } }
  | .abort =>
    (d.session.step now (.drop id)).map fun (session, _) =>
      ⟨session, { d.scheduler with phase := .stopped }⟩
  | .resume | .wake _ =>
    (d.turn now a).map fun (scheduler, call) => ⟨d.ask now id call, scheduler⟩

end Duty

/-- One act of a run, with the scheduler and the session before and after it. -/
structure Moment where
  before : Duty
  now : Instant
  act : Act
  after : Duty

namespace Moment

/-- The scheduler goes on. -/
def isTurn (m : Moment) : Bool := (m.before.turn m.now m.act).isSome

/-- The scheduler looks at the published state. -/
def isLook (m : Moment) : Bool := m.isTurn && m.before.scheduler.phase = .looking

/-- The scheduler starts an attempt, for which it asks the session to renew its token. -/
def isAttempt (m : Moment) : Bool :=
  (m.before.turn m.now m.act).any fun t => t.2 = some .renew

/-- The session publishes a state. -/
def Publishes (m : Moment) : Prop := m.before.session.version < m.after.session.version

end Moment

/-- The instants at which attempts started, the latest first. -/
def attemptStarts (history : List Moment) : List Instant :=
  (history.filter Moment.isAttempt).map Moment.now

/-- The runs of a new scheduler that serves a session, the latest moment first. The clock does not
go back. -/
inductive Run (id : CallId) (policy : RenewalPolicy) (start : Session) : List Moment → Duty → Prop
  | start : Run id policy start [] ⟨start, { policy }⟩
  | next {past : List Moment} {d d' : Duty} {now : Instant} {a : Act}
      (run : Run id policy start past d) (step : d.act id now a = some d')
      (clock : ∀ m ∈ past, m.now ≤ now) : Run id policy start (⟨d, now, a, d'⟩ :: past) d'

variable {id : CallId} {policy : RenewalPolicy} {start : Session} {history past later : List Moment}
  {d d' : Duty} {m : Moment} {now : Instant} {a : Act} {call : Option Call} {s s' : Scheduler}
  {events : List Event}

/-! ## Runs from a list of acts -/

/-- The scheduler and the session after the moments of a run. -/
def latest (policy : RenewalPolicy) (start : Session) : List Moment → Duty
  | [] => ⟨start, { policy }⟩
  | m :: _ => m.after

/-- A run goes on with the possible ones of some acts. -/
def replay (id : CallId) (policy : RenewalPolicy) (start : Session) (history : List Moment) :
    List (Instant × Act) → List Moment
  | [] => history
  | (now, a) :: rest =>
    let d := latest policy start history
    match d.act id now a with
    | some d' =>
      if ∀ m ∈ history, m.now ≤ now then
        replay id policy start (⟨d, now, a, d'⟩ :: history) rest
      else replay id policy start history rest
    | none => replay id policy start history rest

theorem Run.replay (run : Run id policy start history (latest policy start history))
    (acts : List (Instant × Act)) :
    Run id policy start (replay id policy start history acts)
      (latest policy start (replay id policy start history acts)) := by
  induction acts generalizing history with
  | nil => exact run
  | cons e rest ih =>
      unfold Scheduler.replay
      dsimp only
      split
      · rename_i d' hact
        split
        · rename_i clock
          exact ih (.next run hact clock)
        · exact ih run
      · exact ih run

/-! ## What an act does -/

/-- Replies change nothing but the phase, and reach nobody but who waits for them. -/
structure Takes (s s' : Scheduler) : Prop where
  policy : s'.policy = s.policy
  seen : s'.seen = s.seen
  lastAttempt : s'.lastAttempt = s.lastAttempt
  waiting : ∀ due, s'.phase = .waiting due → s.phase = .waiting due

theorem Takes.refl (s : Scheduler) : s.Takes s := ⟨rfl, rfl, rfl, fun _ h => h⟩

theorem takes_deliver (h : s.Takes s') (reply : Reply) : s.Takes (s'.deliver reply) := by
  unfold deliver
  split
  · exact ⟨h.policy, h.seen, h.lastAttempt, nofun⟩
  · exact ⟨h.policy, h.seen, h.lastAttempt, nofun⟩
  · exact h

theorem takes_take (id : CallId) (events : List Event) (s : Scheduler) :
    s.Takes (s.take id events) := by
  unfold take
  -- the replies are taken one after the other, beginning with those taken before
  suffices h : ∀ s' : Scheduler, s.Takes s' → s.Takes (events.foldl (fun s e => match e with
      | .returned caller reply => if caller = id then s.deliver reply else s
      | _ => s) s') from h s (.refl s)
  induction events with
  | nil =>
      intro s' h
      exact h
  | cons e rest ih =>
      intro s' h
      rw [List.foldl_cons]
      refine ih _ ?_
      split
      · split
        · exact takes_deliver h _
        · exact h
      · exact h

/-- What an act does to a scheduler on duty. -/
inductive Duty.Acts (id : CallId) (d : Duty) (now : Instant) : Act → Duty → Prop
  /-- The session takes a step, which may bring a reply. -/
  | session {l : Session.Label} {session : Session} {events : List Event}
      (does : d.session.Does now l session events) :
      Acts id d now (.session l) ⟨session, d.scheduler.take id events⟩
  /-- The scheduler looks at the published state. -/
  | look {a : Act} (phase : d.scheduler.phase = .looking)
      (turn : d.turn now a = some (d.scheduler.look d.session, none)) :
      Acts id d now a ⟨d.session, d.scheduler.look d.session⟩
  /-- The scheduler starts an attempt. -/
  | fire {a : Act} {due : Instant} (phase : d.scheduler.phase = .waiting (some due))
      (time : due ≤ now)
      (turn : d.turn now a = some (d.scheduler.fire now d.session, some .renew)) :
      Acts id d now a ⟨d.ask now id (some .renew), d.scheduler.fire now d.session⟩
  /-- The scheduler goes on in another way, and does not wait for an instant then. -/
  | move {a : Act} {phase : Phase} {call : Option Call} (busy : d.scheduler.phase ≠ .looking)
      (turn : d.turn now a = some ({ d.scheduler with phase }, call))
      (other : call ≠ some .renew) (awake : ∀ due, phase ≠ .waiting due) :
      Acts id d now a ⟨d.ask now id call, { d.scheduler with phase }⟩
  | cancel : Acts id d now .cancel { d with scheduler := { d.scheduler with cancelled := true } }
  /-- The scheduler is stopped at once. -/
  | abort {session : Session} {events : List Event}
      (does : d.session.Does now (.drop id) session events) :
      Acts id d now .abort ⟨session, { d.scheduler with phase := .stopped }⟩

/-- The scheduler goes on. -/
theorem Duty.acts_of_turn (does : d.scheduler.Does now d.session s' call)
    (turn : d.turn now a = some (s', call)) : d.Acts id now a ⟨d.ask now id call, s'⟩ := by
  cases does with
  | look phase => exact .look phase turn
  | fire phase time => exact .fire phase time turn
  | stop phase | notice phase | relogin phase | settle phase =>
      exact .move (by rw [phase]; exact nofun) turn nofun nofun
  | finish phase =>
      refine .move ?_ turn nofun nofun
      rcases phase with phase | ⟨before, phase, -⟩
      · rw [phase]
        exact nofun
      · rw [phase]
        exact nofun
  | crash phase =>
      refine .move ?_ turn nofun nofun
      rcases phase with phase | ⟨before, phase⟩
      · rw [phase]
        exact nofun
      · rw [phase]
        exact nofun

/-- **Every act follows a rule.** -/
theorem Duty.acts_of_act (h : d.act id now a = some d') : d.Acts id now a d' := by
  cases a with
  | session l =>
      obtain ⟨⟨session, events⟩, hstep, rfl⟩ := Option.map_eq_some_iff.1 h
      exact .session (Session.does_of_step hstep)
  | cancel =>
      obtain rfl := Option.some.inj h
      exact .cancel
  | abort =>
      obtain ⟨⟨session, events⟩, hstep, rfl⟩ := Option.map_eq_some_iff.1 h
      exact .abort (Session.does_of_step hstep)
  | resume =>
      obtain ⟨⟨s', call⟩, hturn, rfl⟩ := Option.map_eq_some_iff.1 h
      exact acts_of_turn (does_of_step hturn now) hturn
  | wake cause =>
      obtain ⟨⟨s', call⟩, hturn, rfl⟩ := Option.map_eq_some_iff.1 h
      exact acts_of_turn (does_of_wake hturn) hturn

/-! ## What a stretch of a run leaves -/

/-- What the scheduler asks for has to be granted first, so it publishes nothing by asking. -/
theorem Duty.ask_session (d : Duty) (now : Instant) (id : CallId) (call : Option Call) :
    (d.ask now id call).version = d.session.version ∧
      (d.ask now id call).state = d.session.state := by
  cases call with
  | none => exact ⟨rfl, rfl⟩
  | some call =>
      have does : d.session.Does now (.begin id call) (d.ask now id (some call))
          (d.session.begin now id call).2 := Session.does_of_begin rfl
      have hversion : (d.ask now id (some call)).version = d.session.version := by
        rw [does.version_eq, does.published_of_outside rfl]
        rfl
      exact ⟨hversion, does.state_eq_of_version hversion⟩

/-- An act leaves the published state, or publishes another one under a greater version. -/
theorem Duty.Acts.published (h : d.Acts id now a d') :
    d.session.version ≤ d'.session.version ∧
      (d'.session.version = d.session.version → d'.session.state = d.session.state) := by
  cases h with
  | session does | abort does => exact ⟨does.version_le, does.state_eq_of_version⟩
  | look | cancel => exact ⟨Nat.le_refl _, fun _ => rfl⟩
  | fire | move =>
      obtain ⟨hversion, hstate⟩ := d.ask_session now id _
      exact ⟨Nat.le_of_eq hversion.symm, fun _ => hstate⟩

theorem Run.eq_latest (run : Run id policy start history d) : d = latest policy start history := by
  cases run with
  | start => rfl
  | next => rfl

/-- The last act of a run. -/
theorem Run.of_cons (run : Run id policy start (m :: past) d) :
    Run id policy start past m.before ∧ m.before.Acts id m.now m.act m.after ∧ m.after = d := by
  cases run with
  | next run step => exact ⟨run, Duty.acts_of_act step, rfl⟩

/-- The run up to a moment. -/
theorem Run.of_append (run : Run id policy start (later ++ past) d) :
    ∃ d', Run id policy start past d' := by
  induction later generalizing d with
  | nil => exact ⟨d, run⟩
  | cons m rest ih => exact ih run.of_cons.1

/-- **What a stretch of a run leaves of the published state**: its version has grown if something
was published, and otherwise the state is the same. -/
theorem Run.stretch (run : Run id policy start (later ++ past) d')
    (before : Run id policy start past d) :
    d.session.version ≤ d'.session.version ∧
      ((∃ m ∈ later, m.Publishes) ↔ d.session.version ≠ d'.session.version) ∧
      (d'.session.version = d.session.version → d'.session.state = d.session.state) := by
  induction later generalizing d' with
  | nil =>
      obtain rfl : d = d' := before.eq_latest.trans run.eq_latest.symm
      refine ⟨Nat.le_refl _, ?_, fun _ => rfl⟩
      constructor
      · rintro ⟨m, hm, -⟩
        exact absurd hm List.not_mem_nil
      · exact fun h => absurd rfl h
  | cons m rest ih =>
      obtain ⟨here, acts, rfl⟩ := Run.of_cons run
      obtain ⟨hle, hpublishes, hstate⟩ := ih here
      obtain ⟨hle', hstate'⟩ := acts.published
      refine ⟨Nat.le_trans hle hle', ?_, ?_⟩
      · -- the version grows in the last act or in the rest of the stretch
        constructor
        · rintro ⟨v, hv, hpublish⟩
          rcases List.mem_cons.1 hv with rfl | hv
          · have hgrows : v.before.session.version < v.after.session.version := hpublish
            omega
          · have hne := hpublishes.1 ⟨v, hv, hpublish⟩
            omega
        · intro hne
          by_cases hlast : m.before.session.version < m.after.session.version
          · exact ⟨m, List.mem_cons_self, hlast⟩
          · obtain ⟨v, hv, hpublish⟩ := hpublishes.2 (by omega)
            exact ⟨v, List.mem_cons_of_mem m hv, hpublish⟩
      · intro heq
        calc m.after.session.state
            = m.before.session.state := hstate' (by omega)
          _ = d.session.state := hstate (by omega)

/-- No moment of a run leaves a greater version than the run. -/
theorem Run.version_le (run : Run id policy start history d) (hm : m ∈ history) :
    m.after.session.version ≤ d.session.version := by
  obtain ⟨later, past, rfl⟩ := List.append_of_mem hm
  obtain ⟨d', upTo⟩ := run.of_append
  obtain ⟨-, -, rfl⟩ := upTo.of_cons
  exact (run.stretch upTo).1

end Scheduler

end SecretConfig
