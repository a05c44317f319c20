import SecretConfig.Proofs.Agent.Ledger
import SecretConfig.Proofs.Agent.Recording
import SecretConfig.Proofs.Store.Calls

set_option autoImplicit false

/-! # Calls of an agent on its store

A store is called by tasks for themselves, by the session while callers wait for it, and by builds
that read. `Moment.finished?` says of a moment which of these calls ends, and with which reply.
`serves_of_act` then is all that an act does to a store in memory: a call ends, and the store after
it is the one that `MemoryStore.answer` says, at this moment and not when the call was started; or
no call ends, and of the store nothing has changed but the paths that were asked for. A call that is
dropped or given up on the way therefore leaves no trace in the store.

A read of a build that is cut off by its limit does not end in this sense: the build has an answer,
but the store gave none. -/

namespace SecretConfig

/-! ## Who calls the store -/

/-- The call on the store that a task makes for itself. -/
def Goal.storeCall? (files : Files) : Goal → Option StoreCall
  | login strategy => (strategy.flow files).toOption.map .login
  | renew t => some (.renew t)
  | revoke t => some (.revoke t)
  | read path t => some (.read path t)
  | write path t data => some (.write path t data)
  | _ => none

/-- What a task that has made a call on the store returns. -/
def Outcome.storeReply? : Outcome → Option StoreReply
  | token t => some (.issued t.value.value)
  | done => some .done
  | payload p => some (.found p)
  | refused fault => some (.refused fault)
  | _ => none

/-- The call on the store that a request of the session is. -/
def SessionRequest.storeCall? : SessionRequest → Option StoreCall
  | login flow => some (.login flow)
  | unsent _ => none
  | renewal t => some (.renew t)
  | revocation t => some (.revoke t)

/-- What the session hears of the store. -/
def Session.Label.storeReply? : Session.Label → Option StoreReply
  | .answer _ (.granted g) => some (.issued g.value)
  | .answer _ (.refused fault) => some (.refused fault)
  | .answer _ .revoked => some .done
  | _ => none

/-- The store answers a request as it does any such call. -/
theorem SessionRequest.answer_memory {request : SessionRequest} {call : StoreCall}
    (hcall : request.storeCall? = some call) (m : MemoryStore) (id : CallId) :
    ((Store.memory m).answer request).2 = .memory (m.answer call).2 ∧
      (Session.Label.answer id ((Store.memory m).answer request).1).storeReply? =
        some (m.answer call).1 := by
  cases request with
  | login flow =>
      obtain rfl := Option.some.inj hcall
      refine ⟨rfl, ?_⟩
      cases hanswer : (m.login flow).1 <;>
        simp [Store.answer, Store.login, Store.answerOf, Session.Label.storeReply?,
          MemoryStore.answer, hanswer, StoreReply.ofGrant]
  | unsent fault => cases hcall
  | renewal t =>
      obtain rfl := Option.some.inj hcall
      refine ⟨rfl, ?_⟩
      cases hanswer : (m.renew t).1 <;>
        simp [Store.answer, Store.renew, Store.answerOf, Session.Label.storeReply?,
          MemoryStore.answer, hanswer, StoreReply.ofGrant]
  | revocation t =>
      obtain rfl := Option.some.inj hcall
      exact ⟨rfl, rfl⟩

/-- The value of a token is the one that the store has granted. -/
theorem Strategy.value_accept {strategy : Strategy} {files : Files} {flow : LoginFlow}
    {m : MemoryStore} {g : Grant} (hflow : strategy.flow files = .ok flow)
    (granted : (m.login flow).1 = .ok g) (now : Instant) :
    (strategy.accept g now).value.value = g.value := by
  cases flow with
  | static v =>
      obtain rfl := Strategy.flow_eq_static hflow
      exact (MemoryStore.value_of_static granted).symm
  | login method path body =>
      rw [Strategy.accept_of_ne_token (Strategy.ne_token_of_flow hflow)]

namespace Agent

variable {start s s' : Agent} {m : MemoryStore} {id : CallId} {goal : Goal} {a : Act}
  {u : Moment} {call : StoreCall} {reply : StoreReply}

/-- The call on the store that ends at a moment, with the reply that the caller gets: a task has
made it for itself, the session has waited for it, or it is a read of a build. -/
def Moment.finished? (u : Moment) : Option (CallId × StoreCall × StoreReply) :=
  match u.act with
  | .move (.resume id) =>
    match u.before.task? id with
    | some (.work goal (.waiting _)) =>
      (goal.storeCall? u.before.files).bind fun call =>
        (u.after.result? id).bind fun e => e.2.storeReply?.map (id, call, ·)
    | _ => none
  | .move (.answer id) =>
    (u.act.answered? u.before).bind fun r => r.request.storeCall?.bind fun call =>
      ((u.act.label? u.before).bind Session.Label.storeReply?).map (id, call, ·)
  | .move (.read id index) =>
    match u.before.task? id with
    | some (.work _ (.reading o t slots)) =>
      slots[index]?.bind fun r =>
        if r.readyAt ≤ u.before.now then
          (u.before.answerTo o t r).map (id, .read r.read.plan.path t, .ofRead ·)
        else none
    | _ => none
  | _ => none

/-- One call ends at most. -/
theorem finished?_unique {id' : CallId} {call' : StoreCall} {reply' : StoreReply}
    (h : u.finished? = some (id, call, reply)) (h' : u.finished? = some (id', call', reply')) :
    id = id' ∧ call = call' ∧ reply = reply' := by
  obtain ⟨hid, hrest⟩ := Prod.mk.inj (Option.some.inj (h.symm.trans h'))
  exact ⟨hid, Prod.mk.inj hrest⟩

/-- Where a call comes from that ends. -/
theorem Moment.of_finished (finished : u.finished? = some (id, call, reply)) :
    (∃ goal readyAt, u.act = .move (.resume id) ∧
        u.before.task? id = some (.work goal (.waiting readyAt))) ∨
      (∃ r, u.act = .move (.answer id) ∧
        u.before.requests.find? (fun r => r.caller = id) = some r) ∨
      ∃ goal o t slots index, u.act = .move (.read id index) ∧
        u.before.task? id = some (.work goal (.reading o t slots)) := by
  unfold finished? at finished
  split at finished
  · rename_i caller act
    split at finished
    · rename_i goal readyAt ht
      obtain ⟨call', -, hresult⟩ := Option.bind_eq_some_iff.1 finished
      obtain ⟨e, -, hreply⟩ := Option.bind_eq_some_iff.1 hresult
      obtain ⟨reply', -, heq⟩ := Option.map_eq_some_iff.1 hreply
      obtain ⟨rfl, -⟩ := Prod.mk.inj heq
      exact .inl ⟨goal, readyAt, act, ht⟩
    · cases finished
  · rename_i caller act
    obtain ⟨r, hr, hrest⟩ := Option.bind_eq_some_iff.1 finished
    obtain ⟨call', -, hreply⟩ := Option.bind_eq_some_iff.1 hrest
    obtain ⟨reply', -, heq⟩ := Option.map_eq_some_iff.1 hreply
    obtain ⟨rfl, -⟩ := Prod.mk.inj heq
    rw [act] at hr
    exact .inr (.inl ⟨r, act, hr⟩)
  · rename_i caller index act
    split at finished
    · rename_i goal o t slots ht
      obtain ⟨r, -, hread⟩ := Option.bind_eq_some_iff.1 finished
      obtain ⟨-, hreply⟩ := Option.ite_none_right_eq_some.1 hread
      obtain ⟨answer, -, heq⟩ := Option.map_eq_some_iff.1 hreply
      obtain ⟨rfl, -⟩ := Prod.mk.inj heq
      exact .inr (.inr ⟨goal, o, t, slots, index, act, ht⟩)
    · cases finished
  · cases finished

/-! ## What an act does to the store -/

/-- Of a store in memory nothing has changed, but for the paths that were asked for. -/
def Noted (m : MemoryStore) (s : Agent) : Prop :=
  ∃ paths, s.store = .memory { m with reads := m.reads ++ paths }

theorem noted_of_eq (h : s.store = .memory m) : Noted m s :=
  ⟨[], by rw [h, List.append_nil]⟩

theorem KeepsStore.noted (h : s.KeepsStore s') (memory : s.store = .memory m) : Noted m s' := by
  obtain ⟨reads, hstore⟩ := h
  exact ⟨_, by rw [hstore, memory, Store.recordReads_eq]⟩

theorem noted_spawn (memory : s.store = .memory m) (goal : Goal) : Noted m (s.spawn goal).1 := by
  cases goal with
  | call | start => exact noted_of_eq ((store_ask _ _ _).trans memory)
  | layers | properties => exact noted_of_eq ((store_enterBuild _ _ _ _ _).trans memory)
  | stop => exact noted_of_eq ((store_enterStop _ _ _ _ _).trans memory)
  | refresh | load | stopScheduler | pause | login | renew | revoke | write =>
      exact noted_of_eq memory
  | read path t =>
      refine ⟨[path], ?_⟩
      show s.store.recordRead path = _
      rw [memory]
      rfl

/-- A call on the store ends, or the store is as it was. -/
inductive Moment.Serves (u : Moment) (m : MemoryStore) : Prop
  | finishes (id : CallId) (call : StoreCall)
      (finished : u.finished? = some (id, call, (m.answer call).1))
      (store : u.after.store = .memory (m.answer call).2)
  | rests (idle : u.finished? = none) (noted : Noted m u.after)

/-- A task that acts for itself ends with the reply of the store. -/
theorem serves_of_perform {readyAt : Instant} (memory : s.store = .memory m)
    (ht : s.task? id = some (.work goal (.waiting readyAt))) :
    Moment.Serves ⟨s, .move (.resume id), s.perform id goal⟩ m := by
  -- what the task returns is read off the outcome with which it ends
  have ends (call : StoreCall) (outcome : Outcome)
      (hcall : goal.storeCall? s.files = some call)
      (after : s.perform id goal =
        ({ s with store := .memory (m.answer call).2 } : Agent).finish id goal outcome)
      (reply : outcome.storeReply? = some (m.answer call).1) :
      Moment.Serves ⟨s, .move (.resume id), s.perform id goal⟩ m := by
    have hresult : (s.perform id goal).result? id = some (s.now, outcome) := by
      rw [after]
      exact result?_finish (s := { s with store := .memory (m.answer call).2 }) ht
    refine .finishes id call ?_ (by rw [after]; rfl)
    simp [Moment.finished?, ht, hcall, hresult, reply]
  have unchanged : { s with store := .memory m } = s := by rw [← memory]
  cases goal with
  | login strategy =>
      cases hflow : strategy.flow s.files with
      | error fault =>
          have after : s.perform id (.login strategy) =
              s.finish id (.login strategy) (.failed (.authentication fault)) := by
            simp only [perform, hflow]
          refine .rests ?_ (noted_of_eq ?_)
          · simp [Moment.finished?, ht, Goal.storeCall?, hflow, Except.toOption]
          · rw [after]
            exact memory
      | ok flow =>
          refine ends (.login flow) (loginOutcome strategy s.now (m.login flow).1) ?_ ?_ ?_
          · simp [Goal.storeCall?, hflow, Except.toOption]
          · simp only [perform, hflow, memory, Store.login]
            rfl
          · cases hanswer : (m.login flow).1 with
            | error fault =>
                simp [loginOutcome, Outcome.storeReply?, MemoryStore.answer, hanswer,
                  StoreReply.ofGrant]
            | ok g =>
                simp [loginOutcome, Outcome.storeReply?, MemoryStore.answer, hanswer,
                  StoreReply.ofGrant, Strategy.value_accept hflow hanswer]
  | renew t =>
      cases hanswer : (m.renew t).1 with
      | ok g =>
          refine ends (.renew t) (.token (t.renewed g.lease g.renewable s.now)) rfl ?_ ?_
          · simp only [perform, memory, Store.renew, hanswer]
            rfl
          · simp [Outcome.storeReply?, MemoryStore.answer, hanswer, StoreReply.ofGrant,
              Token.renewed, MemoryStore.value_of_renewed hanswer]
      | error fault =>
          refine ends (.renew t) (.refused fault) rfl ?_ ?_
          · simp only [perform, memory, Store.renew, hanswer]
            rfl
          · simp [Outcome.storeReply?, MemoryStore.answer, hanswer, StoreReply.ofGrant]
  | revoke t =>
      refine ends (.revoke t) .done rfl ?_ rfl
      simp only [perform, memory, Store.revoke]
      rfl
  | read path t =>
      cases hanswer : m.read path t with
      | ok p =>
          refine ends (.read path t) (.payload p) rfl ?_ ?_
          · simp only [perform, memory, Store.read, hanswer, MemoryStore.answer]
            rw [unchanged]
          · simp [Outcome.storeReply?, MemoryStore.answer, hanswer, StoreReply.ofRead]
      | error fault =>
          refine ends (.read path t) (.refused fault) rfl ?_ ?_
          · simp only [perform, memory, Store.read, hanswer, MemoryStore.answer]
            rw [unchanged]
          · simp [Outcome.storeReply?, MemoryStore.answer, hanswer, StoreReply.ofRead]
  | write path t data =>
      cases hanswer : (m.write path t data).1 with
      | ok u =>
          refine ends (.write path t data) .done rfl ?_ ?_
          · simp only [perform, memory, Store.write, hanswer]
            rfl
          · simp [Outcome.storeReply?, MemoryStore.answer, hanswer, StoreReply.ofUnit]
      | error fault =>
          refine ends (.write path t data) (.refused fault) rfl ?_ ?_
          · simp only [perform, memory, Store.write, hanswer]
            rfl
          · simp [Outcome.storeReply?, MemoryStore.answer, hanswer, StoreReply.ofUnit]
  | call | layers | properties | refresh | load | start | stop | stopScheduler | pause =>
      refine .rests ?_ (noted_of_eq memory)
      simp [Moment.finished?, ht, Goal.storeCall?]

/-- A task that goes on. -/
theorem serves_of_stepTask (memory : s.store = .memory m) (step : s.stepTask id = some s') :
    Moment.Serves ⟨s, .move (.resume id), s'⟩ m := by
  cases resumes_of_stepTask step with
  | @works goal stage ht step =>
      by_cases waits : ∃ readyAt, stage = .waiting readyAt
      · obtain ⟨readyAt, rfl⟩ := waits
        simp only [resumeWork, Option.ite_none_right_eq_some, Option.some.injEq] at step
        obtain ⟨-, rfl⟩ := step
        exact serves_of_perform memory ht
      · have own (readyAt : Instant) : stage ≠ .waiting readyAt := fun h => waits ⟨readyAt, h⟩
        refine .rests ?_ ((keepsStore_of_resumeWork own step).noted memory)
        cases stage with
        | waiting readyAt => exact absurd rfl (own readyAt)
        | _ => simp [Moment.finished?, ht]
  | @turns sched next ht turn after =>
      subst after
      have store := (store_turn s id next).trans memory
      exact .rests (by simp [Moment.finished?, ht]) (noted_of_eq store)

/-- A read of a build that ends in time has the reply of the store. -/
theorem serves_of_stepRead {index : Nat} (memory : s.store = .memory m)
    (step : s.stepRead id index = some s') :
    Moment.Serves ⟨s, .move (.read id index), s'⟩ m := by
  obtain ⟨goal, o, t, slots, -, -, ht, -⟩ := park_of_stepRead step
  obtain ⟨r, answer, hr, -, hanswer, rfl⟩ := slot_of_stepRead ht step
  rcases answerTo_cases hanswer with ⟨ready, rfl⟩ | ⟨early, -, -⟩
  · refine .finishes id (.read r.read.plan.path t) ?_ memory
    simp [Moment.finished?, ht, hr, ready, hanswer, memory, Store.read, MemoryStore.answer]
  · refine .rests ?_ (noted_of_eq memory)
    simp [Moment.finished?, ht, hr, Nat.not_le.2 early]

/-- The store answers a request of the session. -/
theorem serves_of_answer (memory : s.store = .memory m)
    (step : s.act (.move (.answer id)) = some s') :
    Moment.Serves ⟨s, .move (.answer id), s'⟩ m := by
  obtain ⟨r, hr, -, answered⟩ := stepSession_of_answer step
  obtain ⟨session, events, -, absorbs⟩ := absorbs_of_stepSession answered
  have hstore : s'.store = ((Store.memory m).answer r.request).2 := by
    rw [absorbs.store, memory]
  cases hcall : r.request.storeCall? with
  | none =>
      refine .rests (by simp [Moment.finished?, Act.answered?, hr, hcall]) (noted_of_eq ?_)
      rw [hstore]
      cases hrequest : r.request with
      | unsent fault => rfl
      | login | renewal | revocation => simp [hrequest, SessionRequest.storeCall?] at hcall
  | some call =>
      obtain ⟨left, reply⟩ := SessionRequest.answer_memory hcall m id
      refine .finishes id call ?_ (hstore.trans left)
      simp [Moment.finished?, Act.answered?, Act.label?, hr, hcall, memory, reply]

/-- **What an act does to the store.** Either a call ends, and the caller gets the reply of the
store as it is at this moment; or nothing changes, but for the paths that were asked for. -/
theorem serves_of_act (memory : s.store = .memory m) (step : s.act a = some s') :
    Moment.Serves ⟨s, a, s'⟩ m := by
  cases a with
  | spawn goal =>
      obtain rfl := Option.some.inj step
      exact .rests rfl (noted_spawn memory goal)
  | startScheduler policy =>
      obtain rfl := Option.some.inj step
      exact .rests rfl (noted_of_eq memory)
  | drop caller =>
      obtain rfl := Option.some.inj step
      exact .rests rfl (noted_of_eq ((store_abandon s caller).trans memory))
  | move move =>
      cases move with
      | proceed caller =>
          obtain ⟨session, events, -, absorbs⟩ := absorbs_of_stepSession step
          exact .rests rfl (noted_of_eq (absorbs.store.trans memory))
      | answer caller => exact serves_of_answer memory step
      | expire caller =>
          obtain ⟨r, -, -, expired⟩ := stepSession_of_expire step
          obtain ⟨session, events, -, absorbs⟩ := absorbs_of_stepSession expired
          exact .rests rfl (noted_of_eq (absorbs.store.trans memory))
      | read caller index => exact serves_of_stepRead memory step
      | resume caller => exact serves_of_stepTask memory step
      | wake caller cause =>
          obtain ⟨sched, next, -, -, rfl⟩ := turn_of_wake step
          exact .rests rfl (noted_of_eq ((store_turn s caller next).trans memory))
      | pass now =>
          obtain ⟨-, rfl⟩ := eq_of_pass step
          exact .rests rfl (noted_of_eq memory)

end Agent

end SecretConfig
