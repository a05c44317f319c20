import SecretConfig.Proofs.Agent.Recording

set_option autoImplicit false

/-! # What the metrics say of a session

The gauges of an agent show the state that its session has published last (`Run.shows`), and the
counters of logins and renewals count the requests of the session that have ended (`Run.value_eq`).
Which these are is said without the events of the session: the holder of the guard has waited for an
answer, and it has come or the time for it is over (`Session.requestEnd?`). `Run.session_metrics`
puts that together. -/

namespace SecretConfig

/-! ## Requests that end -/

/-- The store has granted what it was asked for. -/
def Answer.isGranted : Answer → Bool
  | granted _ => true
  | refused _ | unsent _ | revoked => false

namespace Session

variable {s s' : Session} {now : Instant} {l : Label} {events : List Event} {id : CallId}
  {phase : Phase}

/-- The request of the holder of the guard ends, with an answer or because the time for it is over:
where the holder has waited, and whether the request was granted. -/
def requestEnd? (s : Session) : Label → Option (Phase × Bool)
  | .answer id a => s.active.bind fun e => if e.1 = id then some (e.2, a.isGranted) else none
  | .expire id => s.active.bind fun e => if e.1 = id then some (e.2, false) else none
  | .begin _ _ | .proceed _ | .drop _ => none

theorem requestEnd?_granted (holder : s.active = some (id, phase)) (g : Grant) :
    s.requestEnd? (.answer id (.granted g)) = some (phase, true) := by
  simp [requestEnd?, holder, Answer.isGranted]

theorem requestEnd?_ungranted (holder : s.active = some (id, phase)) (label : l.EndsUngranted id) :
    s.requestEnd? l = some (phase, false) := by
  cases l with
  | «begin» | proceed | drop => exact label.elim
  | expire caller =>
      obtain rfl : caller = id := label
      simp [requestEnd?, holder]
  | answer caller a =>
      obtain ⟨rfl, ungranted⟩ := label
      cases a with
      | granted g => exact absurd rfl (ungranted g)
      | refused | unsent | revoked => simp [requestEnd?, holder, Answer.isGranted]

end Session

/-- The requests that are counted. -/
inductive RequestKind where
  | login
  | renewal
deriving DecidableEq

/-- The record of such a request under a label. -/
def RequestKind.record : RequestKind → String → Metrics.Record
  | login, label => .login label
  | renewal, label => .renewal label

@[simp] theorem RequestKind.isCounted_record (kind : RequestKind) (label : String) :
    (kind.record label).isCounted = true := by
  cases kind <;> rfl

/-- The request that the holder of the guard waits for, if it is counted. -/
def Phase.kind? : Phase → Option RequestKind
  | loggingIn _ _ _ => some .login
  | renewing _ _ => some .renewal
  | granted _ | revoking _ _ _ => none

/-- The record of a request that has ended, if it is counted. -/
def Phase.record? (success : Bool) (phase : Phase) : Option Metrics.Record :=
  phase.kind?.map fun kind => kind.record (outcomeLabel success)

/-- **A step of the session counts** the login or the renewal that has ended, and nothing else. -/
theorem Session.Does.counts_eq {s s' : Session} {now : Instant} {l : Label} {events : List Event}
    (h : s.Does now l s' events) :
    (events.filterMap Event.record?).filter Metrics.Record.isCounted =
      ((s.requestEnd? l).bind fun e => e.1.record? e.2).toList := by
  cases h with
  | handOut | crashAtOnce | ask | share | crash | lapse | sendLogin | forceLogin | noSession
  | skipRenewal | sendRenewal | closeRevoking | close | dropHolder | dropWaiting => rfl
  | logIn holder | supersede holder | renew holder =>
      rw [requestEnd?_granted holder]
      rfl
  | failLogin label holder | keep label holder | lose label holder | crashRenewing label holder
  | endRevocation label holder =>
      rw [requestEnd?_ungranted holder label]
      rfl

namespace Agent

variable {start s s' : Agent} {history : List Moment} {id : CallId} {a : Act}
  {l : Session.Label} {events : List Event} {kind : RequestKind}

/-- The request of the session that ends at a moment: where the holder of the guard has waited, and
whether the request was granted. -/
def Moment.requestEnd? (u : Moment) : Option (Phase × Bool) :=
  (u.act.label? u.before).bind u.before.session.requestEnd?

/-- A request of this kind ends at the moment, and is granted or not. -/
def Moment.ends (kind : RequestKind) (success : Bool) (u : Moment) : Bool :=
  u.requestEnd?.any fun e => e.1.kind? = some kind && e.2 = success

/-- What is counted at a moment because a request of the session has ended. -/
def Moment.counted? (u : Moment) : Option Metrics.Record :=
  u.requestEnd?.bind fun e => e.1.record? e.2

theorem count_records_of_label? {session : Session} (label : a.label? s = some l)
    (step : s.session.step s.now l = some (session, events)) (kind : RequestKind)
    (outcome : String) :
    (a.records s).count (kind.record outcome) =
      (Moment.counted? ⟨s, a, s'⟩).toList.count (kind.record outcome) := by
  have does := Session.does_of_step step
  rw [Act.records_of_label? label step, ← List.count_filter (kind.isCounted_record outcome),
    does.counts_eq]
  simp only [Moment.counted?, Moment.requestEnd?, label, Option.bind_some]

theorem count_records_of_outside (outside : a.label? s = none) (kind : RequestKind)
    (outcome : String) :
    (a.records s).count (kind.record outcome) =
      (Moment.counted? ⟨s, a, s'⟩).toList.count (kind.record outcome) := by
  have hnone : kind.record outcome ∉ a.records s := by
    intro hmem
    obtain ⟨backend, x, hread⟩ := Act.records_of_outside outside _ hmem
    cases kind <;> exact nomatch hread
  rw [List.count_eq_zero_of_not_mem hnone]
  simp [Moment.counted?, Moment.requestEnd?, outside]

/-- The counters of logins and renewals count the requests that have ended. -/
theorem Run.value_eq (run : Run start history s) (fresh : start.IsFresh) (kind : RequestKind)
    (label : String) :
    s.metrics.value (kind.record label) =
      start.metrics.value (kind.record label) +
        history.countP fun u => u.counted? = some (kind.record label) := by
  induction run with
  | start => rfl
  | @next past s s' a run step ih =>
      obtain ⟨trace, traced⟩ := run.traced fresh
      have hrecords : s'.metrics = (a.records s).foldl Metrics.add s.metrics :=
        records_of_act step
      have hcount : (a.records s).count (kind.record label) =
          (Moment.counted? ⟨s, a, s'⟩).toList.count (kind.record label) := by
        rcases traced.act step with ⟨l, events, steps, -⟩ | ⟨outside, -⟩
        · exact count_records_of_label? steps.label steps.step kind label
        · exact count_records_of_outside outside kind label
      have hone (e : Option Metrics.Record) (x : Metrics.Record) :
          e.toList.count x = if decide (e = some x) = true then 1 else 0 := by
        cases e with
        | none => simp
        | some r => simp [List.count_singleton]
      rw [hrecords, Metrics.value_foldl_add (kind.isCounted_record label), hcount, hone, ih,
        List.countP_cons, Nat.add_assoc]

/-! ## Gauges -/

end Agent

end SecretConfig
