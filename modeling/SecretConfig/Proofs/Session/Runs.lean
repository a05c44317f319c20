import SecretConfig.Proofs.Session.Steps

set_option autoImplicit false

/-! # Runs of a session

A run starts with a fresh session and takes steps at instants that never go back, whatever is
called, answered, given up or dropped (`Session.Run`). It is recorded as the list of its
moments, the latest first, so that the moments before one are the list behind it.

What holds after every step is collected in `Session.Coherent`: waiting calls wait for
somebody, no call is there twice, and whoever waits for a renewal or a login waits with the
token that is published. `Session.Run.callers_iff` says that the guard and its queue hold
exactly the calls that were made and are not over. -/

namespace SecretConfig

namespace Session

/-- One step of a run, with the session before and after it. -/
structure Moment where
  before : Session
  now : Instant
  label : Label
  after : Session
  events : List Event

/-- The runs of a fresh session, the latest moment first. The clock does not go back, and an
identity is given to one call at a time. -/
inductive Run (strategy : Strategy) (timeout : Duration) : List Moment → Session → Prop
  | fresh : Run strategy timeout [] { strategy, timeout }
  | next {past : List Moment} {s s' : Session} {now : Instant} {l : Label} {events : List Event}
      (run : Run strategy timeout past s) (step : s.step now l = some (s', events))
      (clock : ∀ m ∈ past, m.now ≤ now) (unused : ∀ id, l.Begins id → id ∉ s.callers) :
      Run strategy timeout (⟨s, now, l, s', events⟩ :: past) s'

variable {strategy : Strategy} {timeout : Duration} {history past : List Moment} {m : Moment}
  {s s' : Session} {now : Instant} {l : Label} {events : List Event}

/-! ## What happens at a moment -/

namespace Moment

/-- The call that was handed the guard goes on. -/
def GoesOn (m : Moment) (call : Call) : Prop :=
  ∃ id, m.before.active = some (id, .granted call) ∧ m.label = .proceed id

/-- A login succeeds and makes the token. -/
def LogsIn (m : Moment) (t : Token) : Prop :=
  ∃ id forced superseded deadline g,
    m.before.active = some (id, .loggingIn forced superseded deadline) ∧
      m.label = .answer id (.granted g) ∧ t = m.before.strategy.accept g m.now

/-- The store accepts the renewal of the first token, which makes the second. -/
def Renews (m : Moment) (t t' : Token) : Prop :=
  ∃ id deadline g, m.before.active = some (id, .renewing t deadline) ∧
    m.label = .answer id (.granted g) ∧ t' = t.renewed g.lease g.renewable m.now

/-- The renewal of the token ends without success. -/
def FailsToRenew (m : Moment) (t : Token) : Prop :=
  ∃ id deadline, m.before.active = some (id, .renewing t deadline) ∧
    m.label.EndsUngranted id ∧ .renewalEnded false ∈ m.events

end Moment

/-! ## Runs from a list of steps -/

/-- The session after the moments of a run. -/
def latest (strategy : Strategy) (timeout : Duration) : List Moment → Session
  | [] => { strategy, timeout }
  | m :: _ => m.after

/-- The identity that the label gives to a call is not in use. -/
def Label.isUnused (s : Session) : Label → Bool
  | .begin id _ => id ∉ s.callers
  | _ => true

theorem Label.not_mem_callers_of_isUnused (h : l.isUnused s = true) (id : CallId)
    (hid : l.Begins id) : id ∉ s.callers := by
  cases l with
  | «begin» caller call =>
      obtain rfl : caller = id := hid
      simpa [isUnused] using h
  | proceed caller | answer caller a | expire caller | drop caller => exact hid.elim

/-- A run goes on with a step, if the step is possible. -/
def extend (strategy : Strategy) (timeout : Duration) (history : List Moment) (now : Instant)
    (l : Label) : List Moment :=
  let s := latest strategy timeout history
  match s.step now l with
  | some (s', events) =>
    if l.isUnused s ∧ ∀ m ∈ history, m.now ≤ now then ⟨s, now, l, s', events⟩ :: history
    else history
  | none => history

/-- A run goes on with the possible ones of some steps. -/
def replay (strategy : Strategy) (timeout : Duration) (history : List Moment) :
    List (Instant × Label) → List Moment
  | [] => history
  | (now, l) :: rest => replay strategy timeout (extend strategy timeout history now l) rest

theorem Run.extend (run : Run strategy timeout history (latest strategy timeout history))
    (now : Instant) (l : Label) :
    Run strategy timeout (extend strategy timeout history now l)
      (latest strategy timeout (extend strategy timeout history now l)) := by
  unfold Session.extend
  dsimp only
  split
  · rename_i s' events hstep
    split
    · rename_i h
      exact .next run hstep h.2 (Label.not_mem_callers_of_isUnused h.1)
    · exact run
  · exact run

theorem Run.replay (run : Run strategy timeout history (latest strategy timeout history))
    (steps : List (Instant × Label)) :
    Run strategy timeout (replay strategy timeout history steps)
      (latest strategy timeout (replay strategy timeout history steps)) := by
  induction steps generalizing history with
  | nil => exact run
  | cons step rest ih => exact ih (run.extend step.1 step.2)

/-! ## Steps of a run -/

/-- The run up to a moment. -/
theorem Run.of_suffix (run : Run strategy timeout history s) (h : m :: past <:+ history) :
    Run strategy timeout (m :: past) m.after := by
  induction run with
  | fresh => simp at h
  | next run step clock unused ih =>
      rcases List.suffix_cons_iff.1 h with h | h
      · obtain ⟨rfl, rfl⟩ := List.cons.inj h
        exact .next run step clock unused
      · exact ih h

/-- The last step of a run. -/
theorem Run.of_cons (run : Run strategy timeout (m :: past) s) :
    Run strategy timeout past m.before ∧ m.before.Does m.now m.label m.after m.events := by
  cases run with
  | next run step clock unused => exact ⟨run, does_of_step step⟩

/-! ## What holds after every step -/

/-- The guard, its queue and the published state fit together. -/
structure Coherent (s : Session) : Prop where
  /-- Nobody waits for a guard that is free. -/
  queue_nil : s.active = none → s.queue = []
  /-- No call is there twice. -/
  callers_nodup : s.callers.Nodup
  /-- A renewal in flight is one of the published token. -/
  renewing_state : ∀ id t deadline, s.active = some (id, .renewing t deadline) →
    s.state = .renewing t
  /-- A login in flight replaces the published token, if there is one. -/
  superseded_eq : ∀ id forced superseded deadline,
    s.active = some (id, .loggingIn forced superseded deadline) → superseded = s.state.token?
  /-- A login is sent for a call for a token only where there is none. -/
  unforced_token : ∀ id superseded deadline,
    s.active = some (id, .loggingIn false superseded deadline) → s.state.token? = none

theorem Coherent.fresh (strategy : Strategy) (timeout : Duration) :
    Coherent { strategy, timeout } := by
  constructor <;> simp [callers]

/-! ### Callers -/

theorem callers_eq_of_active {s s' : Session} {id : CallId} {phase phase' : Phase}
    (holder : s.active = some (id, phase)) (active : s'.active = some (id, phase'))
    (queue : s'.queue = s.queue) : s'.callers = s.callers := by
  simp [callers, holder, active, queue]

theorem callers_acquire (id : CallId) (call : Call) (h : s.active = none → s.queue = []) :
    (s.acquire id call).callers = s.callers ++ [id] := by
  unfold acquire
  split
  · rename_i hnone
    simp [callers, hnone, h hnone]
  · rename_i holder hsome
    simp [callers, hsome]

theorem callers_release {id : CallId} {phase : Phase} (holder : s.active = some (id, phase)) :
    s.callers = id :: s.release.callers := by
  unfold release
  split
  · rename_i hnil
    simp [callers, holder, hnil]
  · rename_i next call rest hcons
    simp [callers, holder, hcons]

theorem callers_leave {id : CallId} (waiting : ∀ phase, s.active ≠ some (id, phase)) :
    ({ s with queue := s.queue.filter fun c => c.1 ≠ id } : Session).callers =
      s.callers.filter (· ≠ id) := by
  -- the holder is another call, so only the queue gets shorter
  have hactive : (s.active.toList.map Prod.fst).filter (· ≠ id) =
      s.active.toList.map Prod.fst := by
    rw [List.filter_eq_self]
    intro x hx
    obtain ⟨⟨holder, phase⟩, hmem, rfl⟩ := List.mem_map.1 hx
    have hholder : s.active = some (holder, phase) := by simpa using hmem
    simp only [ne_eq, decide_eq_true_eq]
    rintro rfl
    exact waiting phase hholder
  simp only [callers, List.filter_append, hactive, List.filter_map]
  rfl

/-- Who is there after a step: those who were there or came, less those who are over. -/
theorem GuardMove.mem_callers (move : s.GuardMove l s' events) (coherent : s.Coherent)
    (unused : ∀ id, l.Begins id → id ∉ s.callers) (x : CallId) :
    x ∈ s'.callers ↔ ¬ Ends l events x ∧ (l.Begins x ∨ x ∈ s.callers) := by
  cases move with
  | pass id label active queue ends =>
      have hcallers : s'.callers = s.callers := by simp [callers, active, queue]
      have hunused := unused id label
      rw [hcallers, ends x]
      constructor
      · intro hx
        exact ⟨fun he => hunused (he ▸ hx), .inr hx⟩
      · rintro ⟨hne, hx | hx⟩
        · exact absurd (label.eq hx) hne
        · exact hx
  | ask id call label next ends =>
      subst label next
      simp only [callers_acquire id call coherent.queue_nil, List.mem_append, List.mem_singleton,
        ends x, not_false_eq_true, true_and, Label.Begins]
      constructor
      · rintro (hx | rfl)
        · exact .inr hx
        · exact .inl rfl
      · rintro (rfl | hx)
        · exact .inr rfl
        · exact .inl hx
  | hold id phase phase' holder active waits queue label ends =>
      simp [callers_eq_of_active holder active queue, ends x, label x]
  | handOn id phase holder active queue label ends =>
      -- the holder is the first of the callers, and is not among the others
      have hcallers : s'.callers = s.release.callers := by simp [callers, active, queue]
      have hnodup := coherent.callers_nodup
      rw [callers_release holder, List.nodup_cons] at hnodup
      rw [hcallers, ends x, callers_release holder, List.mem_cons]
      constructor
      · intro hx
        exact ⟨fun he => hnodup.1 (he ▸ hx), .inr (.inr hx)⟩
      · rintro ⟨hne, hx | hx | hx⟩
        · exact absurd hx (label x)
        · exact absurd hx hne
        · exact hx
  | leave id label waiting next ends =>
      subst label next
      rw [callers_leave waiting]
      simp [ends x, Label.Begins, and_comm]

theorem GuardMove.callers_nodup (move : s.GuardMove l s' events) (coherent : s.Coherent)
    (unused : ∀ id, l.Begins id → id ∉ s.callers) : s'.callers.Nodup := by
  have hnodup := coherent.callers_nodup
  cases move with
  | pass id label active queue => simpa [callers, active, queue] using hnodup
  | ask id call label next =>
      subst label next
      rw [callers_acquire id call coherent.queue_nil]
      exact List.nodup_append.2 ⟨hnodup, by simp, fun x hx y hy => by
        obtain rfl := List.mem_singleton.1 hy
        exact fun he => unused y rfl (he ▸ hx)⟩
  | hold id phase phase' holder active waits queue =>
      rwa [callers_eq_of_active holder active queue]
  | handOn id phase holder active queue =>
      rw [callers_release holder, List.nodup_cons] at hnodup
      simpa [callers, active, queue] using hnodup.2
  | leave id label waiting next =>
      subst label next
      rw [callers_leave waiting]
      exact hnodup.filter _

theorem GuardMove.queue_nil (move : s.GuardMove l s' events) (coherent : s.Coherent) :
    s'.active = none → s'.queue = [] := by
  cases move with
  | pass id label active queue => rw [active, queue]; exact coherent.queue_nil
  | ask id call label next =>
      subst next
      unfold acquire
      split <;> simp_all
  | hold id phase phase' holder active waits queue => simp [active]
  | handOn id phase holder active queue =>
      rw [active, queue]
      unfold release
      split <;> simp_all
  | leave id label waiting next =>
      subst next
      intro hnone
      simp [coherent.queue_nil hnone]

/-! ### Steps keep a session coherent -/

theorem release_active_granted {id : CallId} {phase : Phase}
    (h : s.release.active = some (id, phase)) : ∃ call, phase = .granted call := by
  unfold release at h
  split at h
  · simp at h
  · rename_i next call rest hcons
    simp only [Option.some.injEq, Prod.mk.injEq] at h
    exact ⟨call, h.2.symm⟩

/-- Who asks for the guard does not change the phase of its holder. -/
theorem acquire_active {id caller : CallId} {call : Call} {phase : Phase}
    (h : (s.acquire caller call).active = some (id, phase)) :
    s.active = some (id, phase) ∨ ∃ call, phase = .granted call := by
  unfold acquire at h
  split at h
  · simp only [Option.some.injEq, Prod.mk.injEq] at h
    exact .inr ⟨call, h.2.symm⟩
  · exact .inl h

/-- What the phase of the holder says about the published state. -/
def FitsState (state : SessionState) : Phase → Prop
  | .granted _ | .revoking _ _ _ => True
  | .loggingIn forced superseded _ =>
    superseded = state.token? ∧ (forced = false → state.token? = none)
  | .renewing t _ => state = .renewing t

theorem Coherent.fits (coherent : s.Coherent) {id : CallId} {phase : Phase}
    (active : s.active = some (id, phase)) : FitsState s.state phase := by
  cases phase with
  | granted | revoking => trivial
  | loggingIn forced superseded deadline =>
      refine ⟨coherent.superseded_eq id forced superseded deadline active, ?_⟩
      rintro rfl
      exact coherent.unforced_token id superseded deadline active
  | renewing t deadline => exact coherent.renewing_state id t deadline active

/-- A step leaves the holder in its phase together with the state, or puts it into a phase that
fits the state after it. -/
theorem Does.fits (h : s.Does now l s' events) (coherent : s.Coherent) {id : CallId}
    {phase : Phase} (active : s'.active = some (id, phase)) : FitsState s'.state phase := by
  cases h with
  | handOut | crashAtOnce | dropWaiting => exact coherent.fits active
  | ask =>
      rcases acquire_active active with hactive | ⟨call, rfl⟩
      · rw [acquire_state]
        exact coherent.fits hactive
      · trivial
  | lapse =>
      obtain ⟨-, rfl⟩ := Prod.mk.inj (Option.some.inj active)
      exact ⟨rfl, fun _ => rfl⟩
  | sendLogin holder token =>
      obtain ⟨-, rfl⟩ := Prod.mk.inj (Option.some.inj active)
      exact ⟨token.symm, fun _ => token⟩
  | forceLogin =>
      obtain ⟨-, rfl⟩ := Prod.mk.inj (Option.some.inj active)
      exact ⟨rfl, nofun⟩
  | sendRenewal | closeRevoking | supersede =>
      obtain ⟨-, rfl⟩ := Prod.mk.inj (Option.some.inj active)
      trivial
  | share | crash | noSession | skipRenewal | close | logIn | failLogin | renew | keep | lose
  | crashRenewing | endRevocation | dropHolder =>
      -- whoever is handed the guard has not gone on yet
      obtain ⟨call, rfl⟩ := release_active_granted active
      trivial

theorem Coherent.step (coherent : s.Coherent) (h : s.Does now l s' events)
    (unused : ∀ id, l.Begins id → id ∉ s.callers) : s'.Coherent where
  queue_nil := h.guardMove.queue_nil coherent
  callers_nodup := h.guardMove.callers_nodup coherent unused
  renewing_state _ _ _ active := h.fits coherent active
  superseded_eq _ _ _ _ active := (h.fits coherent active).1
  unforced_token _ _ _ active := (h.fits coherent active).2 rfl

theorem Run.coherent (run : Run strategy timeout history s) : s.Coherent := by
  induction run with
  | fresh => exact Coherent.fresh strategy timeout
  | next run step clock unused ih => exact ih.step (does_of_step step) unused

/-! ## Calls that are not over -/

/-- The call was made and is not over. -/
def Live : List Moment → CallId → Prop
  | [], _ => False
  | m :: past, id => ¬ Ends m.label m.events id ∧ (m.label.Begins id ∨ Live past id)

/-- The guard and its queue hold the calls that are not over, and no others. -/
theorem Run.callers_iff (run : Run strategy timeout history s) (id : CallId) :
    id ∈ s.callers ↔ Live history id := by
  induction run with
  | fresh => simp [callers, Live]
  | next run step clock unused ih =>
      rw [(does_of_step step).guardMove.mem_callers run.coherent unused, Live, ih]

/-! ## Left-over renewals -/

/-- A renewal of the token was given up where it waited: it was dropped, or its end crashed. -/
def Moment.AbandonsRenewal (m : Moment) (t : Token) : Prop :=
  ∃ id deadline, m.before.active = some (id, .renewing t deadline) ∧
    (m.label = .drop id ∨
      ∃ fault, t.isExpired m.now = .error fault ∧ .returned id (.crashed fault) ∈ m.events)

/-- A renewal of the token is in flight. -/
def IsRenewing (s : Session) (t : Token) : Prop :=
  ∃ id deadline, s.active = some (id, .renewing t deadline)

theorem Does.isRenewing (h : s.Does now l s' events) {t : Token}
    (state : s'.state = .renewing t) :
    s'.IsRenewing t ∨ s.state = .renewing t ∧ ¬ s.IsRenewing t ∨
      Moment.AbandonsRenewal ⟨s, now, l, s', events⟩ t := by
  -- a step of a holder in another phase leaves the state that it found
  have other {id : CallId} {phase : Phase} (holder : s.active = some (id, phase))
      (hphase : ∀ deadline, phase ≠ .renewing t deadline) (hstate : s.state = .renewing t) :
      s.state = .renewing t ∧ ¬ s.IsRenewing t := by
    refine ⟨hstate, ?_⟩
    rintro ⟨id', deadline, hactive⟩
    rw [holder] at hactive
    exact hphase deadline (Prod.mk.inj (Option.some.inj hactive)).2
  cases h with
  | handOut | crashAtOnce | dropWaiting =>
      by_cases hr : s.IsRenewing t
      · exact .inl hr
      · exact .inr (.inl ⟨state, hr⟩)
  | ask =>
      by_cases hr : s.IsRenewing t
      · obtain ⟨id, deadline, hactive⟩ := hr
        exact .inl ⟨id, deadline, by simp [acquire, hactive]⟩
      · exact .inr (.inl ⟨by simpa using state, hr⟩)
  | sendRenewal =>
      obtain rfl := SessionState.renewing.inj state
      exact .inl ⟨_, _, rfl⟩
  | share holder | crash holder | noSession holder | skipRenewal holder | failLogin _ holder
  | endRevocation _ holder =>
      exact .inr (.inl (other holder nofun (by simpa using state)))
  | sendLogin holder | forceLogin holder => exact .inr (.inl (other holder nofun state))
  | lapse | closeRevoking | supersede => exact nomatch state
  | close | logIn | renew | keep | lose => exact nomatch (release_state _).symm.trans state
  | crashRenewing label holder bad =>
      rename_i id current deadline fault
      by_cases ht : current = t
      · subst ht
        exact .inr (.inr ⟨_, _, holder, .inr ⟨fault, bad, by simp⟩⟩)
      · exact .inr (.inl (other holder (by simp [ht]) (by simpa using state)))
  | dropHolder holder =>
      by_cases hr : s.IsRenewing t
      · obtain ⟨id, deadline, hactive⟩ := hr
        rw [holder] at hactive
        obtain ⟨rfl, rfl⟩ := Prod.mk.inj (Option.some.inj hactive)
        exact .inr (.inr ⟨_, _, holder, .inl rfl⟩)
      · exact .inr (.inl ⟨by simpa using state, hr⟩)

/-- The state is `renewing` while a renewal is in flight; otherwise one was given up where it
waited. -/
theorem Run.isRenewing (run : Run strategy timeout history s) {t : Token}
    (state : s.state = .renewing t) :
    s.IsRenewing t ∨ ∃ m ∈ history, m.AbandonsRenewal t := by
  induction run with
  | fresh => exact nomatch state
  | next run step clock unused ih =>
      rcases (does_of_step step).isRenewing state with hr | ⟨hstate, hr⟩ | habandon
      · exact .inl hr
      · obtain ⟨m, hm, habandon⟩ := (ih hstate).resolve_left hr
        exact .inr ⟨m, List.mem_cons_of_mem _ hm, habandon⟩
      · exact .inr ⟨_, List.mem_cons_self, habandon⟩

end Session

end SecretConfig
