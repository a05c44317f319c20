import SecretConfig.Proofs.Scheduler.Runs

set_option autoImplicit false

/-! # A scheduler never sleeps on a stale schedule

A scheduler computes its schedule from the state that it sees when it looks, and then waits. What
has to be shown is that no state published in between gets lost, wherever it falls: before the look,
it is in what the scheduler sees; after it, the version of the session differs from the one that
the scheduler has noted, and that ends the wait.

The invariant is `Abreast`: a scheduler that waits does so for the instant that its policy wants for
the state of its latest look, it has noted the version of that state, and it has not gone on since.
`Run.sleeps_on_schedule` compares that state with the published one. -/

namespace SecretConfig

/-- The instant that a policy wants for the next attempt, if any: while a state is published, after
a last attempt that started at some instant, if there was one. -/
structure RenewalPolicy.Schedules (p : RenewalPolicy) (state : SessionState)
    (last due : Option Instant) : Prop where
  /-- There is none exactly if renewal is off, or no token is published that can be renewed. -/
  none_iff : due = none ↔
    p.enabled = false ∨ ∀ t, state.token? = some t → t.isRenewable = false
  /-- It is when the token wants to be renewed, or a while after the last attempt if that is
  later. -/
  eq_max : ∀ at', due = some at' → ∃ t wanted, state.token? = some t ∧
    p.nextRenewalAt t = .ok (some wanted) ∧
    at' = last.elim wanted fun previous => max wanted (previous + max p.minInterval 1000)

namespace Scheduler

variable {id : CallId} {policy : RenewalPolicy} {start : Session} {history past : List Moment}
  {d d' : Duty} {m : Moment} {now : Instant} {a : Act} {s : Scheduler} {state : SessionState}
  {due last : Option Instant}

/-! ## The schedule for a state -/

theorem nextRenewalAt_eq_some {p : RenewalPolicy} {t : Token} (enabled : p.enabled = true)
    (renewable : t.isRenewable = true)
    (fits : t.issuedAt + max (t.lease - p.threshold) p.minInterval ≤ Instant.last) :
    p.nextRenewalAt t = .ok (some (t.issuedAt + max (t.lease - p.threshold) p.minInterval)) := by
  simp only [RenewalPolicy.nextRenewalAt, enabled, renewable, Bool.and_self, if_true,
    Instant.after_eq_ok_iff.2 ⟨fits, rfl⟩, Except.map]

theorem fireAt_eq_none
    (h : s.policy.enabled = false ∨ ∀ t, state.token? = some t → t.isRenewable = false) :
    s.fireAt state = .ok none := by
  unfold fireAt RenewalPolicy.nextRenewalAt
  cases htoken : state.token? with
  | none => rfl
  | some t =>
      have hnot : (s.policy.enabled && t.isRenewable) = false := by
        rcases h with hoff | hfixed
        · rw [hoff, Bool.false_and]
        · rw [hfixed t htoken, Bool.and_false]
      simp [hnot]

theorem schedules_of_fireAt (h : s.fireAt state = .ok due) :
    s.policy.Schedules state s.lastAttempt due := by
  by_cases hnone : s.policy.enabled = false ∨ ∀ t, state.token? = some t → t.isRenewable = false
  · rw [fireAt_eq_none hnone, Except.ok.injEq] at h
    subst h
    exact ⟨⟨fun _ => hnone, fun _ => rfl⟩, nofun⟩
  · obtain ⟨henabled, t, htoken, hrenewable⟩ : s.policy.enabled = true ∧
        ∃ t, state.token? = some t ∧ t.isRenewable = true := by
      simpa using hnone
    rw [fireAt_eq htoken henabled hrenewable] at h
    split at h
    · rename_i hlast
      obtain rfl := Except.ok.inj h
      refine ⟨⟨nofun, fun hnot => absurd hnot hnone⟩, ?_⟩
      intro at' hat
      obtain rfl := Option.some.inj hat
      -- the instant that the token wants is no later than the one of the attempt
      unfold Scheduler.due at hlast ⊢
      cases hprevious : s.lastAttempt with
      | none =>
          simp only [hprevious] at hlast
          exact ⟨t, _, htoken, nextRenewalAt_eq_some henabled hrenewable hlast, rfl⟩
      | some previous =>
          simp only [hprevious] at hlast
          exact ⟨t, _, htoken, nextRenewalAt_eq_some henabled hrenewable
            (Nat.le_trans (Nat.le_max_left _ _) hlast), rfl⟩
    · exact nomatch h

/-! ## The latest look -/

/-- The scheduler has looked, has noted the version of what it saw, and has not gone on since; an
instant is the one that its policy wants for what it saw. -/
def Looked (policy : RenewalPolicy) (history : List Moment) (seen : Nat) (due : Option Instant) :
    Prop :=
  ∃ later v earlier, history = later ++ v :: earlier ∧ v.isLook = true ∧
    (∀ m ∈ later, m.isTurn = false) ∧ seen = v.before.session.version ∧
    policy.Schedules v.before.session.state (attemptStarts history).head? due

/-- What a scheduler has noted is what has happened. -/
structure Abreast (policy : RenewalPolicy) (history : List Moment) (s : Scheduler) : Prop where
  policy_eq : s.policy = policy
  lastAttempt_eq : s.lastAttempt = (attemptStarts history).head?
  looked : ∀ due, s.phase = .waiting due → Looked policy history s.seen due

theorem isAttempt_of_turn {call : Option Call} (turn : m.before.turn m.now m.act = some (s, call)) :
    m.isAttempt = decide (call = some .renew) := by
  simp [Moment.isAttempt, turn]

theorem isAttempt_of_not_isTurn (h : m.isTurn = false) : m.isAttempt = false := by
  unfold Moment.isTurn at h
  rw [Option.isSome_eq_false_iff, Option.isNone_iff_eq_none] at h
  simp [Moment.isAttempt, h]

theorem attemptStarts_cons (m : Moment) (history : List Moment) :
    attemptStarts (m :: history) =
      if m.isAttempt then m.now :: attemptStarts history else attemptStarts history := by
  unfold attemptStarts
  rw [List.filter_cons]
  split
  · exact List.map_cons
  · rfl

/-- A moment at which the scheduler does not go on keeps it abreast. -/
theorem Abreast.idle (h : Abreast policy history s) (idle : m.isTurn = false) {s' : Scheduler}
    (takes : s.Takes s') : Abreast policy (m :: history) s' := by
  have hstarts : attemptStarts (m :: history) = attemptStarts history := by
    rw [attemptStarts_cons, isAttempt_of_not_isTurn idle]
    rfl
  refine ⟨takes.policy.trans h.policy_eq, ?_, fun due hwaiting => ?_⟩
  · rw [takes.lastAttempt, hstarts]
    exact h.lastAttempt_eq
  · obtain ⟨later, v, earlier, rfl, hlook, hnone, hseen, hdue⟩ :=
      h.looked due (takes.waiting due hwaiting)
    refine ⟨m :: later, v, earlier, rfl, hlook, ?_, takes.seen.trans hseen, hstarts ▸ hdue⟩
    exact List.forall_mem_cons.2 ⟨idle, hnone⟩

/-- A moment at which the scheduler looks brings it abreast. -/
theorem Abreast.look (h : Abreast policy history m.before.scheduler)
    (phase : m.before.scheduler.phase = .looking)
    (turn : m.before.turn m.now m.act =
      some (m.before.scheduler.look m.before.session, none)) :
    Abreast policy (m :: history) (m.before.scheduler.look m.before.session) := by
  have hstarts : attemptStarts (m :: history) = attemptStarts history := by
    rw [attemptStarts_cons, isAttempt_of_turn turn]
    rfl
  have hlook : m.isLook = true := by
    simp [Moment.isLook, Moment.isTurn, turn, phase]
  have hlast := h.lastAttempt_eq
  unfold Scheduler.look
  cases hfire : m.before.scheduler.fireAt m.before.session.state with
  | error fault => exact ⟨h.policy_eq, hstarts ▸ hlast, nofun⟩
  | ok due =>
      refine ⟨h.policy_eq, hstarts ▸ hlast, fun due' hdue' => ?_⟩
      obtain rfl := Phase.waiting.inj hdue'
      have hdue := schedules_of_fireAt hfire
      rw [h.policy_eq, hlast, ← hstarts] at hdue
      exact ⟨[], m, history, rfl, hlook, List.forall_mem_nil _, rfl, hdue⟩

theorem Abreast.step (h : Abreast policy history d.scheduler) (acts : d.Acts id now a d') :
    Abreast policy (⟨d, now, a, d'⟩ :: history) d'.scheduler := by
  cases acts with
  | session does => exact h.idle rfl (takes_take _ _ _)
  | cancel => exact h.idle rfl ⟨rfl, rfl, rfl, fun _ hwaiting => hwaiting⟩
  | abort does => exact h.idle rfl ⟨rfl, rfl, rfl, nofun⟩
  | look phase turn => exact Abreast.look (m := ⟨d, now, a, _⟩) h phase turn
  | fire phase time turn =>
      -- this attempt is the last one from now on
      refine ⟨h.policy_eq, ?_, nofun⟩
      rw [attemptStarts_cons, isAttempt_of_turn (m := ⟨d, now, a, _⟩) turn]
      rfl
  | move busy turn other awake =>
      refine ⟨h.policy_eq, ?_, fun due hwaiting => absurd hwaiting (awake due)⟩
      rw [attemptStarts_cons, isAttempt_of_turn (m := ⟨d, now, a, _⟩) turn, decide_eq_false other]
      exact h.lastAttempt_eq

theorem Run.abreast (run : Run id policy start history d) :
    Abreast policy history d.scheduler := by
  induction run with
  | start => exact ⟨rfl, rfl, nofun⟩
  | next run step clock ih => exact ih.step (Duty.acts_of_act step)

/-! ## The end of a wait -/

/-- A scheduler that waits and goes on does not wait any more. -/
theorem Duty.Acts.not_waiting (h : d.Acts id now a d') (waiting : d.scheduler.phase = .waiting due)
    (turn : (d.turn now a).isSome = true) (due' : Option Instant) :
    d'.scheduler.phase ≠ .waiting due' := by
  cases h with
  | session | cancel | abort => exact absurd turn Bool.false_ne_true
  | look phase => exact nomatch phase.symm.trans waiting
  | fire => exact nofun
  | move busy turn other awake => exact awake due'

/-- A scheduler that looks leaves the session as it is. -/
theorem Duty.Acts.session_of_looking (h : d.Acts id now a d')
    (looking : d.scheduler.phase = .looking) (turn : (d.turn now a).isSome = true) :
    d'.session = d.session := by
  cases h with
  | session | cancel | abort => exact absurd turn Bool.false_ne_true
  | look => rfl
  | fire waiting => exact nomatch waiting.symm.trans looking
  | move busy => exact absurd looking busy

/-- A change of the published state can end the wait of a scheduler at once. -/
theorem Duty.act_of_changed (waiting : d.scheduler.phase = .waiting due)
    (changed : d.scheduler.seen ≠ d.session.version) (now : Instant) :
    d.act id now (.wake .changed) =
      some ⟨d.session, { d.scheduler with phase := .looking }⟩ := by
  simp [Duty.act, Duty.turn, Scheduler.wake, waiting, changed, Duty.ask]

/-! ## Every run -/

/-- **A scheduler never sleeps on a stale schedule.** Whatever happens to the session, and however
it falls between the moments of a scheduler: while the scheduler waits, there is a moment `v` of its
latest look, such that

* it has noted the version that was published at `v`, it waits for the instant that the policy wants
  for that state, and it has not gone on since;
* whatever was published up to `v` has a version that it has noted, and what was published after
  `v` shows in the version of the session;
* if nothing was, it waits for the instant that the policy wants for the published state;
* if something was, that can end its wait at once, for another look, and whichever way it goes on
  ends its wait. -/
theorem Run.sleeps_on_schedule (run : Run id policy start history d)
    (waiting : d.scheduler.phase = .waiting due) :
    ∃ later v earlier, history = later ++ v :: earlier ∧
      v.isLook = true ∧ (∀ m ∈ later, m.isTurn = false) ∧
      d.scheduler.seen = v.before.session.version ∧
      policy.Schedules v.before.session.state (attemptStarts history).head? due ∧
      (∀ m ∈ v :: earlier, m.after.session.version ≤ d.scheduler.seen) ∧
      ((∃ m ∈ later, m.Publishes) ↔ d.scheduler.seen ≠ d.session.version) ∧
      (d.scheduler.seen = d.session.version →
        policy.Schedules d.session.state (attemptStarts history).head? due) ∧
      (d.scheduler.seen ≠ d.session.version → ∀ now,
        d.act id now (.wake .changed) =
          some ⟨d.session, { d.scheduler with phase := .looking }⟩ ∧
        ∀ a d', d.act id now a = some d' → (d.turn now a).isSome = true →
          ∀ due', d'.scheduler.phase ≠ .waiting due') := by
  obtain ⟨later, v, earlier, rfl, hlook, hnone, hseen, hdue⟩ := run.abreast.looked due waiting
  obtain ⟨d₀, upTo⟩ := run.of_append
  obtain ⟨-, acts, rfl⟩ := upTo.of_cons
  obtain ⟨hturn, hlooking⟩ := Bool.and_eq_true_iff.1 hlook
  -- the look itself publishes nothing, so the stretch after it tells what was published since
  have hsession := acts.session_of_looking (of_decide_eq_true hlooking) hturn
  obtain ⟨-, hpublishes, hstate⟩ := run.stretch upTo
  rw [hsession, ← hseen] at hpublishes
  rw [hsession, ← hseen] at hstate
  refine ⟨later, v, earlier, rfl, hlook, hnone, hseen, hdue, ?_, hpublishes, ?_, ?_⟩
  · intro m hm
    rw [hseen, ← hsession]
    exact upTo.version_le hm
  · intro hcurrent
    rw [hstate hcurrent.symm]
    exact hdue
  · intro hchanged now
    refine ⟨Duty.act_of_changed waiting hchanged now, ?_⟩
    intro a d' hact hturn
    exact (Duty.acts_of_act hact).not_waiting waiting hturn

/-- A session that has published nothing yet. -/
def quietStart : Session := { strategy := .userpass "userpass" "user" ⟨"password"⟩, timeout := 500 }

/-- A caller logs in, and the scheduler asks for a renewal in time, which is refused. -/
def refusedHistory : List Moment :=
  replay 7 {} quietStart []
    [(0, .resume), (0, .session (.begin 0 .login)), (0, .session (.proceed 0)),
      (10, .session (.answer 0 (.granted ⟨"a", 10000, true⟩))), (10, .wake .changed),
      (10, .resume), (5010, .wake .timer), (5010, .session (.proceed 7)),
      (5100, .session (.answer 7 (.refused (.unavailable "down")))), (5100, .resume),
      (5100, .resume)]

/-- Thereafter a caller logs in again, while the scheduler waits for its next attempt. -/
def supersededHistory : List Moment :=
  replay 7 {} quietStart refusedHistory
    [(5200, .session (.begin 1 .login)), (5200, .session (.proceed 1)),
      (5300, .session (.answer 1 (.granted ⟨"b", 10000, true⟩)))]

theorem sleeps_on_schedule_supersededHistory :
    RenewalPolicy.Schedules {} (latest {} quietStart refusedHistory).session.state (some 5010)
        (some 6010) ∧
      (latest {} quietStart supersededHistory).act 7 5300 (.wake .changed) =
        some ⟨(latest {} quietStart supersededHistory).session,
          ⟨{}, false, 3, some 5010, .looking⟩⟩ := by
  have refused : Run 7 {} quietStart refusedHistory (latest {} quietStart refusedHistory) :=
    Run.start.replay _
  have superseded : Run 7 {} quietStart supersededHistory
      (latest {} quietStart supersededHistory) := refused.replay _
  constructor
  · obtain ⟨-, -, -, -, -, -, -, -, -, -, current, -⟩ :=
      refused.sleeps_on_schedule (by decide +kernel : _ = Phase.waiting (some 6010))
    exact current (by decide +kernel)
  · obtain ⟨-, -, -, -, -, -, -, -, -, -, -, changed⟩ :=
      superseded.sleeps_on_schedule (by decide +kernel : _ = Phase.waiting (some 6010))
    exact (changed (by decide +kernel) 5300).1.trans (by decide +kernel)

end Scheduler

end SecretConfig
