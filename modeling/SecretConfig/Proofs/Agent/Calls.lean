import SecretConfig.Proofs.Agent.Runs
import SecretConfig.Proofs.Session.Line
import SecretConfig.Proofs.Session.Scheduling

set_option autoImplicit false

/-! # Tasks and their calls on the session

The session of an agent takes steps of its own, and these make a run of the session. Three facts
go along with that, and need each other (`Traced`):

* a task waits for a call on the session exactly while the call is in line, so that an identity
  that makes a call is not in use;
* identities that are still to be given have no task;
* the request in flight is the one that the holder of the guard waits for.

An act changes the tasks and steps the session in turn. In between, one call may be out of step
with its task: a task that goes to wait does so before the call is made, and a call that is dropped
leaves the line before its task ends. `Traced` names that call. -/

namespace SecretConfig

/-! ## The request in flight -/

/-- The request that the holder of the guard waits for; that of a login depends on the agent. -/
def Phase.request? (login : SessionRequest) : Phase → Option SessionRequest
  | granted _ => none
  | loggingIn _ _ _ => some login
  | renewing t _ => some (.renewal t)
  | revoking t _ _ => some (.revocation t)

/-- The request that an event sends. -/
def Event.request? (login : SessionRequest) : Event → Option (CallId × SessionRequest)
  | loginSent id _ => some (id, login)
  | renewalSent id t => some (id, .renewal t)
  | revocationSent id t => some (id, .revocation t)
  | _ => none

namespace Session

variable {s s' : Session} {now : Instant} {l : Label} {events : List Event}

/-- The request in flight, if there is one, with its call. -/
def inFlight (s : Session) (login : SessionRequest) : List (CallId × SessionRequest) :=
  s.active.toList.filterMap fun e => (e.2.request? login).map (e.1, ·)

theorem inFlight_release (s : Session) (login : SessionRequest) :
    s.release.inFlight login = [] := by
  unfold inFlight release
  split <;> simp [Phase.request?]

theorem inFlight_acquire (s : Session) (id : CallId) (call : Call) (login : SessionRequest) :
    (s.acquire id call).inFlight login = s.inFlight login := by
  unfold inFlight acquire
  split
  · rename_i hnone
    simp [hnone, Phase.request?]
  · rfl

theorem inFlight_of_granted {id : CallId} {call : Call}
    (holder : s.active = some (id, .granted call)) (login : SessionRequest) :
    s.inFlight login = [] := by
  simp [inFlight, holder, Phase.request?]

/-- The label ends whatever request of the call is in flight. -/
def Label.settles (id : CallId) : Label → Bool
  | .begin _ _ | .proceed _ => false
  | .answer caller _ | .expire caller | .drop caller => id = caller

theorem Label.EndsUngranted.settles {id : CallId} (h : l.EndsUngranted id) :
    l.settles id = true := by
  cases l with
  | answer caller a => simpa [Label.settles] using h.1.symm
  | expire caller => simpa [Label.settles] using Eq.symm h
  | «begin» | proceed | drop => exact h.elim

/-- A holder whose request is settled leaves nothing in flight. -/
theorem inFlight_settled {id : CallId} {phase : Phase} (holder : s.active = some (id, phase))
    (settles : l.settles id = true) (login : SessionRequest) :
    ((s.inFlight login).filter fun e => !l.settles e.1) = [] := by
  unfold inFlight
  rw [holder]
  cases hr : phase.request? login <;> simp [hr, settles]

/-- A label that settles no request of the holder leaves what is in flight. -/
theorem inFlight_unsettled (h : ∀ id phase, s.active = some (id, phase) → l.settles id = false)
    (login : SessionRequest) :
    ((s.inFlight login).filter fun e => !l.settles e.1) = s.inFlight login := by
  unfold inFlight
  cases hactive : s.active with
  | none => rfl
  | some e =>
      obtain ⟨id, phase⟩ := e
      cases hr : phase.request? login <;> simp [hr, h id phase hactive]

/-- After a step what was in flight still is, less what the label settles, and so is what the step
sends. -/
theorem Does.inFlight_eq (h : s.Does now l s' events) (login : SessionRequest) :
    s'.inFlight login =
      ((s.inFlight login).filter fun e => !l.settles e.1) ++
        events.filterMap (Event.request? login) := by
  cases h with
  | handOut | crashAtOnce =>
      rw [inFlight_unsettled (fun _ _ _ => rfl)]
      exact (List.append_nil _).symm
  | ask =>
      rw [inFlight_unsettled (fun _ _ _ => rfl), inFlight_acquire]
      exact (List.append_nil _).symm
  | dropWaiting waiting =>
      rename_i id
      have hother (x : CallId) (phase : Phase) (hx : s.active = some (x, phase)) :
          (Label.drop id).settles x = false := by
        simp only [Label.settles, decide_eq_false_iff_not]
        rintro rfl
        exact waiting phase hx
      rw [inFlight_unsettled hother]
      exact (List.append_nil _).symm
  | share holder | crash holder | noSession holder | skipRenewal holder | close holder =>
      rw [inFlight_of_granted holder]
      exact inFlight_release _ login
  | lapse holder | sendLogin holder | forceLogin holder | sendRenewal holder
  | closeRevoking holder =>
      rw [inFlight_of_granted holder]
      rfl
  | supersede holder =>
      rw [inFlight_settled holder (by simp [Label.settles])]
      rfl
  | logIn holder | renew holder | dropHolder holder =>
      rw [inFlight_settled holder (by simp [Label.settles])]
      exact inFlight_release _ login
  | failLogin label holder | keep label holder | lose label holder | crashRenewing label holder
  | endRevocation label holder =>
      rw [inFlight_settled holder label.settles]
      exact inFlight_release _ login

end Session

/-! ## Waiting for a call -/

/-- The call on the session that the scheduler waits for. -/
def Scheduler.awaits? (s : Scheduler) : Option Call :=
  match s.phase with
  | .renewing _ none => some .renew
  | .relogging none => some .login
  | _ => none

/-- A scheduler that goes on waits for nothing, and then for the call that it makes. -/
theorem Scheduler.Does.awaits?_eq {s s' : Scheduler} {now : Instant} {session : Session}
    {call : Option Call} (h : s.Does now session s' call) :
    s.awaits? = none ∧ s'.awaits? = call := by
  cases h with
  | look phase =>
      refine ⟨by simp [Scheduler.awaits?, phase], ?_⟩
      unfold Scheduler.look
      cases s.fireAt session.state <;> rfl
  | stop phase | notice phase | relogin phase | settle phase =>
      exact ⟨by simp [Scheduler.awaits?, phase], rfl⟩
  | fire phase => exact ⟨by simp [Scheduler.awaits?, phase], rfl⟩
  | finish phase =>
      refine ⟨?_, rfl⟩
      rcases phase with phase | ⟨before, phase, -⟩ <;> simp [Scheduler.awaits?, phase]
  | crash phase =>
      refine ⟨?_, rfl⟩
      rcases phase with phase | ⟨before, phase⟩ <;> simp [Scheduler.awaits?, phase]

/-- The call on the session that the task waits for. -/
def Task.awaits? : Task → Option Call
  | .work (.call call) (.calling none) => some call
  | .work (.start _ _) (.calling none) => some .login
  | .work _ (.obtaining _ _ none) => some .getToken
  | .work (.stop _ revoke _) (.closing none) => some (.shutdown revoke)
  | .scheduler sched => sched.awaits?
  | _ => none

theorem Task.awaits?_deliver (t : Task) (reply : Reply) : (t.deliver reply).awaits? = none := by
  cases t with
  | work goal stage => cases goal <;> cases stage <;> rfl
  | scheduler sched =>
      obtain ⟨policy, cancelled, seen, last, phase⟩ := sched
      cases phase <;> rfl

theorem Task.takeReplies_of_not_returned {id : CallId} {events : List Event}
    (h : ∀ reply, .returned id reply ∉ events) (t : Task) : t.takeReplies id events = t := by
  unfold takeReplies
  induction events generalizing t with
  | nil => rfl
  | cons e rest ih =>
      have hrest := ih fun reply hmem => h reply (List.mem_cons_of_mem e hmem)
      rw [List.foldl_cons]
      cases e with
      | returned caller reply =>
          have hc : caller ≠ id := by
            rintro rfl
            exact h reply List.mem_cons_self
          simpa [hc] using hrest t
      | _ => exact hrest t

theorem Task.awaits?_takeReplies {id : CallId} {reply : Reply} {events : List Event}
    (h : .returned id reply ∈ events) (t : Task) : (t.takeReplies id events).awaits? = none := by
  induction events generalizing t with
  | nil => exact nomatch h
  | cons e rest ih =>
      rcases List.mem_cons.1 h with rfl | hrest
      · have hkeeps := Task.takeReplies_keeps (P := fun t => t.awaits? = none)
          (t.awaits?_deliver reply) (fun t reply _ => t.awaits?_deliver reply) id rest
        simpa [Task.takeReplies] using hkeeps
      · exact ih hrest _

namespace Agent

variable {start s s' : Agent} {history past : List Moment} {id caller : CallId} {call : Call}
  {trace : List Session.Moment} {out : Option (CallId × Call)}

/-- The call on the session that the task of an identity waits for. -/
def awaits? (s : Agent) (id : CallId) : Option Call := (s.task? id).bind Task.awaits?

theorem awaits?_modifyTask (f : Task → Task) (caller : CallId) :
    (s.modifyTask id f).awaits? caller =
      if caller = id then ((s.task? id).map f).bind Task.awaits? else s.awaits? caller := by
  unfold awaits?
  rw [task?_modifyTask]
  split
  · rename_i h
    rw [h]
  · rfl

variable {session : Session} {events : List Event} {store : Store} {requests : List PendingRequest}

theorem Absorbs.awaits?_of_not_returned
    (h : ({ s with session, store, requests } : Agent).Absorbs events s')
    (hid : ∀ reply, .returned id reply ∉ events) : s'.awaits? id = s.awaits? id := by
  have htask : s'.task? id = (s.task? id).map (Task.takeReplies id events) := h.task? id
  unfold awaits?
  rw [htask]
  cases s.task? id with
  | none => rfl
  | some t => exact congrArg Task.awaits? (Task.takeReplies_of_not_returned hid t)

theorem Absorbs.awaits?_of_returned (h : s.Absorbs events s') {reply : Reply}
    (hid : .returned id reply ∈ events) : s'.awaits? id = none := by
  unfold awaits?
  rw [h.task?]
  cases s.task? id with
  | none => rfl
  | some t => exact Task.awaits?_takeReplies hid t

/-- The requests of an agent in flight, each with its call. -/
def sent (s : Agent) : List (CallId × SessionRequest) :=
  s.requests.map fun r => (r.caller, r.request)

/-- The request for a login of the session. -/
def login (s : Agent) : SessionRequest := s.loginRequest s.session.strategy

theorem Absorbs.sent (h : ({ s with session, store, requests } : Agent).Absorbs events s')
    (strategy : session.strategy = s.session.strategy) :
    s'.sent = requests.map (fun r => (r.caller, r.request)) ++
        events.filterMap (Event.request? s.login) ∧
      s'.login = s.login := by
  constructor
  · have hrequest (e : Event) :
        (({ s with session, store, requests } : Agent).requestOf e).map
          (fun r => (r.caller, r.request)) = e.request? s.login := by
      cases e with
      | loginSent | renewalSent | revocationSent =>
          simp [requestOf, Event.request?, login, loginRequest, strategy]
      | published | loginEnded | renewalEnded | returned => rfl
    unfold Agent.sent
    rw [h.requests, List.map_append, List.map_filterMap]
    exact congrArg (_ ++ ·) (congrArg (List.filterMap · events) (funext hrequest))
  · unfold login loginRequest
    rw [h.files, h.session, strategy]

/-! ## What goes along with a run -/

/-- The steps of the session of an agent are a run, and tasks, calls and requests fit together; one
call may be out of step with its task. -/
structure Traced (start : Agent) (trace : List Session.Moment) (out : Option (CallId × Call))
    (s : Agent) : Prop where
  run : Session.Run start.session.strategy start.session.timeout trace s.session
  clock : ∀ m ∈ trace, m.now ≤ s.now
  files : s.files = start.files
  /-- Identities that are still to be given have no task. -/
  fresh : ∀ id, s.nextId ≤ id → s.task? id = none
  /-- Tasks wait for the calls that are in line. -/
  line : ∀ id call, s.awaits? id = some call ↔ (id, call) ∈ s.session.line ∨ out = some (id, call)
  apart : ∀ id call, out = some (id, call) → id ∉ s.session.callers
  /-- The request in flight is the one that the holder of the guard waits for. -/
  sent : s.sent = s.session.inFlight s.login

theorem Traced.around (h : Traced start trace out s) (session : s'.session = s.session)
    (tasks : s'.tasks = s.tasks) (requests : s'.requests = s.requests)
    (nextId : s'.nextId = s.nextId) (files : s'.files = s.files) (now : s.now ≤ s'.now) :
    Traced start trace out s' where
  run := session ▸ h.run
  clock m hm := Nat.le_trans (h.clock m hm) now
  files := files.trans h.files
  fresh id hid := by
    rw [nextId] at hid
    simpa only [task?, tasks] using h.fresh id hid
  line id call := by simpa only [awaits?, task?, tasks, session] using h.line id call
  apart := session ▸ h.apart
  sent := by
    simpa only [Agent.sent, login, loginRequest, requests, session, files] using h.sent

/-- The task of an identity that is not in line is changed. -/
theorem Traced.modifyTask (h : Traced start trace out s) (f : Task → Task)
    (idle : id ∉ s.session.callers) (own : ∀ caller call, out = some (caller, call) → caller = id) :
    Traced start trace ((((s.task? id).map f).bind Task.awaits?).map (id, ·))
      (s.modifyTask id f) where
  run := h.run
  clock := h.clock
  files := h.files
  fresh caller hcaller := by
    rw [task?_modifyTask, h.fresh caller hcaller]
    split <;> rfl
  line caller call := by
    rw [awaits?_modifyTask]
    by_cases hc : caller = id
    · subst hc
      have hline : (caller, call) ∉ s.session.line :=
        fun hmem => idle (Session.mem_callers_of_mem_line hmem)
      simp only [if_true, hline, modifyTask, false_or, Option.map_eq_some_iff, Prod.mk.injEq]
      constructor
      · exact fun hcall => ⟨call, hcall, trivial, rfl⟩
      · rintro ⟨_, hcall, -, rfl⟩
        exact hcall
    · have hout : out ≠ some (caller, call) := fun he => hc (own caller call he)
      have hother : ((((s.task? id).map f).bind Task.awaits?).map (id, ·)) ≠ some (caller, call) := by
        rintro he
        obtain ⟨_, -, hp⟩ := Option.map_eq_some_iff.1 he
        exact hc (Prod.mk.inj hp).1.symm
      rw [if_neg hc, h.line caller call]
      simp only [hout, hother, or_false]
      rfl
  apart caller call he := by
    obtain ⟨_, -, hp⟩ := Option.map_eq_some_iff.1 he
    obtain ⟨rfl, -⟩ := Prod.mk.inj hp
    exact idle
  sent := h.sent

theorem Traced.not_mem_callers (h : Traced start trace none s) (idle : s.awaits? id = none) :
    id ∉ s.session.callers := by
  rw [← Session.map_fst_line]
  intro hid
  obtain ⟨⟨caller, call⟩, hmem, rfl⟩ := List.mem_map.1 hid
  exact nomatch idle.symm.trans ((h.line caller call).2 (.inl hmem))

theorem Traced.setTask (h : Traced start trace out s) {old : Task} (task : s.task? id = some old)
    (idle : id ∉ s.session.callers) (own : ∀ caller call, out = some (caller, call) → caller = id)
    (t : Task) : Traced start trace (t.awaits?.map (id, ·)) (s.setTask id t) := by
  have hset := h.modifyTask (fun _ => t) idle own
  rw [task] at hset
  exact hset

/-- A task is changed and waits for the same. -/
theorem Traced.modify_same (h : Traced start trace out s) {f : Task → Task}
    (same : ∀ t, s.task? id = some t → (f t).awaits? = t.awaits?) :
    Traced start trace out (s.modifyTask id f) where
  run := h.run
  clock := h.clock
  files := h.files
  fresh caller hcaller := by
    rw [task?_modifyTask, h.fresh caller hcaller]
    split <;> rfl
  line caller call := by
    have hsame : (s.modifyTask id f).awaits? caller = s.awaits? caller := by
      rw [awaits?_modifyTask]
      by_cases hc : caller = id
      · subst hc
        rw [if_pos rfl]
        unfold awaits?
        cases ht : s.task? caller with
        | none => rfl
        | some t => exact same t ht
      · rw [if_neg hc]
    rw [hsame]
    exact h.line caller call
  apart := h.apart
  sent := h.sent

/-- A task that does not wait for a call gets the next identity. -/
theorem Traced.append (h : Traced start trace out s) {t : Task} (idle : t.awaits? = none) :
    Traced start trace out
      { s with tasks := s.tasks ++ [(s.nextId, t)], nextId := s.nextId + 1 } where
  run := h.run
  clock := h.clock
  files := h.files
  fresh caller hcaller := by
    have hlt : s.nextId < caller := hcaller
    rw [task?_append, h.fresh caller (Nat.le_of_lt hlt), if_neg (Nat.ne_of_lt hlt)]
    rfl
  line caller call := by
    have hsame : ({ s with tasks := s.tasks ++ [(s.nextId, t)], nextId := s.nextId + 1 } :
        Agent).awaits? caller = s.awaits? caller := by
      unfold awaits?
      rw [task?_append]
      cases ht : s.task? caller with
      | some old => rfl
      | none =>
          by_cases hc : s.nextId = caller
          · simp [hc, idle]
          · simp [hc]
    rw [hsame]
    exact h.line caller call
  apart := h.apart
  sent := h.sent

/-! ### Steps of the session -/

/-- A step of the session, once the line after it and the requests are known to fit. -/
theorem Traced.absorbs (h : Traced start trace out s) {l : Session.Label}
    (step : s.session.step s.now l = some (session, events))
    (absorbs : ({ s with session, store, requests } : Agent).Absorbs events s')
    (unused : ∀ id, l.Begins id → id ∉ s.session.callers) {out' : Option (CallId × Call)}
    (line : ∀ id call,
      s'.awaits? id = some call ↔ (id, call) ∈ session.line ∨ out' = some (id, call))
    (apart : ∀ id call, out' = some (id, call) → id ∉ session.callers)
    (sent : s'.sent = session.inFlight s'.login) :
    Traced start (⟨s.session, s.now, l, session, events⟩ :: trace) out' s' where
  run := by
    rw [absorbs.session]
    exact .next h.run step h.clock unused
  clock m hm := by
    rw [absorbs.now]
    rcases List.mem_cons.1 hm with rfl | hm
    · exact Nat.le_refl _
    · exact h.clock m hm
  files := absorbs.files.trans h.files
  fresh id hid := by
    rw [absorbs.nextId] at hid
    rw [absorbs.task?]
    exact congrArg (Option.map (Task.takeReplies id events)) (h.fresh id hid)
  line id call := by
    rw [absorbs.session]
    exact line id call
  apart id call he := by
    rw [absorbs.session]
    exact apart id call he
  sent := by
    rw [absorbs.session]
    exact sent

/-- What is sent joins what is in flight, less what the label settles. -/
theorem Traced.sent_of_does (h : Traced start trace out s) {l : Session.Label}
    (does : s.session.Does s.now l session events)
    (absorbs : ({ s with session, store, requests } : Agent).Absorbs events s')
    (kept : requests = s.requests.filter fun r => !l.settles r.caller) :
    s'.sent = session.inFlight s'.login := by
  obtain ⟨hsent, hlogin⟩ := absorbs.sent does.strategy_eq
  have hkept : requests.map (fun r => (r.caller, r.request)) =
      (s.session.inFlight s.login).filter fun e => !l.settles e.1 := by
    rw [← h.sent, kept, Agent.sent, List.filter_map]
    rfl
  rw [hsent, hlogin, hkept, does.inFlight_eq]

theorem absorbs_ask (s : Agent) (id : CallId) (call : Call) :
    ∃ session events, s.session.step s.now (.begin id call) = some (session, events) ∧
      ({ s with session } : Agent).Absorbs events (s.ask id call) := by
  have step : s.session.step s.now (.begin id call) = some (s.session.begin s.now id call) := rfl
  obtain ⟨s', hs', absorbs⟩ := stepSession_of_step step
  have hask : s.ask id call = s' := by simp [Agent.ask, hs']
  rw [hask]
  exact ⟨_, _, step, absorbs⟩

/-- A call that a task waits for is made. -/
theorem Traced.ask (h : Traced start trace (some (id, call)) s) :
    ∃ m : Session.Moment, m.label = .begin id call ∧
      Traced start (m :: trace) none (s.ask id call) := by
  have hid := h.apart id call rfl
  obtain ⟨session, events, step, absorbs⟩ := absorbs_ask s id call
  have does := Session.does_of_step step
  refine ⟨_, rfl, h.absorbs step absorbs ?_ ?_ nofun
    (h.sent_of_does does absorbs (List.filter_eq_self.2 fun _ _ => rfl).symm)⟩
  · rintro caller rfl
    exact hid
  · intro caller c
    cases does.lineMove h.run.coherent with
    | pass x label line ends =>
        obtain rfl : id = x := label
        rw [line]
        by_cases hc : caller = id
        · subst hc
          -- the call is over already, and its task has the reply
          obtain ⟨⟨⟩⟩ | ⟨reply, hreply⟩ := (ends caller).2 rfl
          have hline : (caller, c) ∉ s.session.line :=
            fun hmem => hid (Session.mem_callers_of_mem_line hmem)
          simp [absorbs.awaits?_of_returned hreply, hline]
        · have hnot (reply : Reply) : .returned caller reply ∉ events :=
            fun hmem => hc ((ends caller).1 (.inr ⟨reply, hmem⟩))
          have hne : id ≠ caller := fun he => hc he.symm
          rw [absorbs.awaits?_of_not_returned hnot]
          simpa [hne] using h.line caller c
    | join x call' label line ends =>
        obtain ⟨rfl, rfl⟩ := Session.Label.begin.inj label
        have hnot (reply : Reply) : .returned caller reply ∉ events :=
          fun hmem => ends caller (.inr ⟨reply, hmem⟩)
        rw [absorbs.awaits?_of_not_returned hnot, line]
        simpa [eq_comm, and_comm] using h.line caller c
    | hold label | handOn x call' label => exact absurd rfl (label id)
    | leave x label => exact nomatch label

/-- A step of the session that neither makes nor drops a call. -/
theorem Traced.goesOn (h : Traced start trace none s) {l : Session.Label}
    (step : s.session.step s.now l = some (session, events))
    (absorbs : ({ s with session, store, requests } : Agent).Absorbs events s')
    (begins : ∀ x, ¬ l.Begins x) (drops : ∀ x, l ≠ .drop x)
    (kept : requests = s.requests.filter fun r => !l.settles r.caller) :
    Traced start (⟨s.session, s.now, l, session, events⟩ :: trace) none s' := by
  have does := Session.does_of_step step
  refine h.absorbs step absorbs (fun x hx => absurd hx (begins x)) ?_ nofun
    (h.sent_of_does does absorbs kept)
  intro caller call
  have same (on : ¬ Session.Ends l events caller) : s'.awaits? caller = s.awaits? caller :=
    absorbs.awaits?_of_not_returned fun reply hmem => on (.inr ⟨reply, hmem⟩)
  have hold := h.line caller call
  simp only [reduceCtorEq, or_false] at hold ⊢
  cases does.lineMove h.run.coherent with
  | pass x label => exact absurd label (begins x)
  | join x call' label =>
      subst label
      exact absurd rfl (begins x)
  | hold label line ends =>
      rw [same (ends caller), line]
      exact hold
  | handOn x call' label line ends =>
      by_cases hc : caller = x
      · subst hc
        -- the call is over, and its task has the reply
        obtain hdrop | ⟨reply, hreply⟩ := (ends caller).2 rfl
        · exact absurd hdrop (drops caller)
        · rw [absorbs.awaits?_of_returned hreply]
          have hnodup := h.run.coherent.callers_nodup
          rw [← Session.map_fst_line, line, List.map_cons, List.nodup_cons] at hnodup
          refine ⟨nofun, fun hmem => absurd ?_ hnodup.1⟩
          exact List.mem_map.2 ⟨_, hmem, rfl⟩
      · rw [same fun hends => hc ((ends caller).1 hends), hold, line, List.mem_cons]
        exact or_iff_right fun he => hc (Prod.mk.inj he).1
  | leave x label => exact absurd label (drops x)

theorem mem_line_of_drop {s session : Session} {now : Instant} {events : List Event}
    (does : s.Does now (.drop id) session events) (coherent : s.Coherent) (e : CallId × Call) :
    e ∈ session.line ↔ e ∈ s.line ∧ e.1 ≠ id := by
  cases does.lineMove coherent with
  | pass x label | join x call label => exact nomatch label
  | hold label line ends => exact absurd (.inl rfl) (ends id)
  | handOn x call label line ends =>
      obtain rfl := (ends id).1 (.inl rfl)
      have hnodup := coherent.callers_nodup
      rw [← Session.map_fst_line, line, List.map_cons, List.nodup_cons] at hnodup
      rw [line, List.mem_cons]
      constructor
      · intro hmem
        refine ⟨.inr hmem, ?_⟩
        intro he
        exact hnodup.1 (List.mem_map.2 ⟨e, hmem, he⟩)
      · rintro ⟨rfl | hmem, hne⟩
        · exact absurd rfl hne
        · exact hmem
  | leave x label line =>
      obtain rfl := Session.Label.drop.inj label
      rw [line, List.mem_filter]
      simp

/-- A call that is dropped leaves the session and takes its request along. -/
theorem absorbs_abandon (s : Agent) (id : CallId) :
    ∃ session, s.session.step s.now (.drop id) = some (session, []) ∧
      ({ s with session, requests := (s.forget id).requests } : Agent).Absorbs []
        (s.abandon id) := by
  obtain ⟨session, step⟩ : ∃ session, s.session.step s.now (.drop id) = some (session, []) := by
    simp only [Session.step]
    split
    · split <;> exact ⟨_, rfl⟩
    · exact ⟨_, rfl⟩
  obtain ⟨s', hs', absorbs⟩ := stepSession_of_step step
  have habandon : s.abandon id = s'.forget id := by simp [Agent.abandon, hs']
  refine ⟨session, step, ?_⟩
  rw [habandon]
  exact { absorbs with
    requests := by simp only [forget, absorbs.requests, List.filterMap_nil, List.append_nil] }

theorem task?_abandon (s : Agent) (id caller : CallId) :
    (s.abandon id).task? caller = s.task? caller := by
  obtain ⟨session, -, absorbs⟩ := absorbs_abandon s id
  exact (absorbs.task? caller).trans Option.map_id'

/-- A call is dropped wherever it is; its task still waits for it, if it did. -/
theorem Traced.abandon (h : Traced start trace none s) (id : CallId) :
    id ∉ (s.abandon id).session.callers ∧
      ∃ m : Session.Moment, m.label = .drop id ∧
        Traced start (m :: trace) ((s.awaits? id).map (id, ·)) (s.abandon id) := by
  obtain ⟨session, step, absorbs⟩ := absorbs_abandon s id
  have does := Session.does_of_step step
  have hline := mem_line_of_drop does h.run.coherent
  have out : id ∉ session.callers := by
    rw [← Session.map_fst_line]
    intro hmem
    obtain ⟨e, he, hid⟩ := List.mem_map.1 hmem
    exact ((hline e).1 he).2 hid
  refine ⟨by rwa [absorbs.session], _, rfl,
    h.absorbs step absorbs nofun ?_ ?_ (h.sent_of_does does absorbs ?_)⟩
  · intro caller call
    rw [absorbs.awaits?_of_not_returned nofun, hline]
    have hold := h.line caller call
    simp only [reduceCtorEq, or_false] at hold
    by_cases hc : caller = id
    · subst hc
      simp
    · have hne : id ≠ caller := fun he => hc he.symm
      simpa [hc, hne] using hold
  · intro caller call he
    obtain ⟨c, -, hp⟩ := Option.map_eq_some_iff.1 he
    obtain ⟨rfl, -⟩ := Prod.mk.inj hp
    exact out
  · refine List.filter_congr fun r _ => ?_
    simp [Session.Label.settles]

end Agent

end SecretConfig
