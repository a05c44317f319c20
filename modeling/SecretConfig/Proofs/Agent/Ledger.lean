import SecretConfig.Proofs.Agent.Eras
import SecretConfig.Proofs.Store.Memory

set_option autoImplicit false

/-! # What the store has issued and revoked

A store in memory counts the logins that have ended and keeps the values that were revoked. Over
the life of an agent these agree with the run of its session (`Ledger`): what was revoked, together
with what is about to be, is what the session has sent for revocation, and no value is issued twice
for a login.

Apart from the answers to the session, the tasks of an agent only read (`Era.keepsStore`). -/

namespace SecretConfig

namespace Agent

variable {start s s' : Agent} {id main caller : CallId} {trace calls : List Session.Moment}
  {scheduler : Option CallId} {goal : Goal} {stage : Stage} {c : Settings}

/-! ## Tasks and the store -/

/-- The store is the same but for the paths that were read. -/
def KeepsStore (s s' : Agent) : Prop :=
  ∃ reads : List PlannedRead,
    s'.store = reads.foldl (fun store r => store.recordRead r.plan.path) s.store

theorem KeepsStore.of_eq (h : s'.store = s.store) : s.KeepsStore s' := ⟨[], h⟩

theorem store_ask (s : Agent) (id : CallId) (call : Call) : (s.ask id call).store = s.store := by
  obtain ⟨session, events, -, absorbs⟩ := absorbs_ask s id call
  exact absorbs.store

theorem store_turn (s : Agent) (id : CallId) (next : Scheduler × Option Call) :
    (s.turn id next).store = s.store := by
  obtain ⟨sched, call⟩ := next
  cases call with
  | none => rfl
  | some call => exact store_ask _ id call

theorem store_abandon (s : Agent) (id : CallId) : (s.abandon id).store = s.store := by
  obtain ⟨session, -, absorbs⟩ := absorbs_abandon s id
  exact absorbs.store

theorem store_enterStop (s : Agent) (id : CallId) (scheduler : Option CallId) (revoke : Bool)
    (failure : Option Error) : (s.enterStop id scheduler revoke failure).store = s.store := by
  cases scheduler with
  | none => exact store_ask _ id _
  | some target => rfl

theorem store_finishBuild (s : Agent) (id : CallId) (goal : Goal)
    (result : Except Error (List Layer)) : (s.finishBuild id goal result).store = s.store := by
  unfold Agent.finishBuild
  split
  case h_6 => exact store_enterStop _ id _ _ _
  all_goals rfl

theorem store_enterBuild (s : Agent) (id : CallId) (goal : Goal) (o : BuildOptions)
    (descriptors : List Descriptor) :
    (s.enterBuild id goal o descriptors).store = s.store := by
  unfold Agent.enterBuild
  obtain ⟨planned, records⟩ := Build.plan s.registry o descriptors
  dsimp only
  split
  · exact store_finishBuild _ id goal _
  · exact store_finishBuild _ id goal _
  · exact store_ask _ id _

theorem store_loggedIn (s : Agent) (id : CallId) (goal : Goal) (policy : RenewalPolicy)
    (revoke : Bool) (reply : Reply) :
    (s.loggedIn id goal policy revoke reply).store = s.store := by
  unfold Agent.loggedIn
  split
  · split <;> rfl
  · rfl

theorem store_schedulerStopped (s : Agent) (id : CallId) (goal : Goal) :
    (s.schedulerStopped id goal).store = s.store := by
  unfold Agent.schedulerStopped
  split
  · exact store_ask _ id _
  · rfl

/-- A task that does not act for itself only reads. -/
theorem keepsStore_of_resumeWork (own : ∀ readyAt, stage ≠ .waiting readyAt)
    (step : s.resumeWork id goal stage = some s') : s.KeepsStore s' := by
  unfold Agent.resumeWork at step
  split at step
  · split at step
    · obtain rfl := Option.some.inj step
      exact .of_eq (store_loggedIn s id _ _ _ _)
    · obtain rfl := Option.some.inj step
      exact .of_eq rfl
  · simp only [Option.ite_none_right_eq_some, Option.some.injEq] at step
    obtain ⟨-, rfl⟩ := step
    exact .of_eq (store_enterBuild s id goal _ _)
  · split at step
    · obtain rfl := Option.some.inj step
      exact ⟨_, rfl⟩
    · obtain rfl := Option.some.inj step
      exact .of_eq (store_finishBuild s id goal _)
    · obtain rfl := Option.some.inj step
      exact .of_eq rfl
  · simp only [Option.ite_none_right_eq_some, Option.some.injEq] at step
    obtain ⟨-, rfl⟩ := step
    exact .of_eq (store_finishBuild s id goal _)
  · split at step
    · obtain rfl := Option.some.inj step
      exact .of_eq (store_schedulerStopped s id goal)
    · simp only [Option.ite_none_right_eq_some, Option.some.injEq] at step
      obtain ⟨-, rfl⟩ := step
      exact .of_eq ((store_schedulerStopped _ id goal).trans (store_abandon s _))
  · obtain rfl := Option.some.inj step
    exact .of_eq rfl
  · exact absurd rfl (own _)
  all_goals exact nomatch step

/-- An agent is asked to start, to refresh or to stop. -/
theorem goal_of_allows (allowed : s.allows c (.spawn goal) = true) :
    goal = c.startGoal ∨ goal = .refresh ∨ ∃ scheduler, goal = c.stopGoal scheduler := by
  unfold Agent.allows at allowed
  cases hserving : s.serving? with
  | none =>
      simp only [hserving, Bool.and_eq_true, decide_eq_true_eq] at allowed
      exact .inl allowed.2
  | some scheduler =>
      simp only [hserving, Bool.or_eq_true, Bool.and_eq_true, decide_eq_true_eq] at allowed
      exact .inr (allowed.imp_right fun h => ⟨scheduler, h.1⟩)

/-- Whatever is not a step of the session at most reads. -/
theorem Era.keepsStore (h : s.Era) (traced : Traced start trace none s) {a : Act}
    (allowed : s.allows c a = true) (none : a.label? s = none) (step : s.act a = some s') :
    s.KeepsStore s' := by
  cases a with
  | spawn goal =>
      obtain rfl := Option.some.inj step
      rcases goal_of_allows allowed with rfl | rfl | ⟨scheduler, rfl⟩
      · exact .of_eq (store_ask _ _ _)
      · exact .of_eq rfl
      · exact .of_eq (store_enterStop _ _ _ _ _)
  | startScheduler policy => cases allowed
  | drop id =>
      obtain rfl := Option.some.inj step
      exact .of_eq (store_abandon s id)
  | move move =>
      cases move with
      | proceed id | expire id => cases none
      | answer id =>
          cases step.symm.trans (stepAnswer_eq_none none)
      | read id index =>
          obtain ⟨goal, o, t, slots, slots', records, -, rfl⟩ := park_of_stepRead step
          exact .of_eq rfl
      | resume id =>
          cases resumes_of_stepTask step with
          | works ht step =>
              refine keepsStore_of_resumeWork (fun readyAt hstage => ?_) step
              subst hstage
              cases h.serves traced ht with
              | builds kind building => cases building
          | turns ht turn after =>
              subst after
              exact .of_eq (store_turn s id _)
      | wake id cause =>
          obtain ⟨sched, next, -, -, rfl⟩ := turn_of_wake step
          exact .of_eq (store_turn s id next)
      | pass now =>
          obtain ⟨-, rfl⟩ := eq_of_pass step
          exact .of_eq rfl

/-! ## One answer -/

section Answers

variable {a : Act} {l : Session.Label} {events : List Event} {r : PendingRequest}

/-- The store answers what the holder of the guard waits for. -/
theorem Traced.active_of_answered (h : Traced start trace none s) (hr : a.answered? s = some r) :
    ∃ phase, s.session.active = some (r.caller, phase) ∧
      phase.request? s.login = some r.request := by
  have hmem : r ∈ s.requests := by
    unfold Act.answered? at hr
    split at hr
    · exact List.mem_of_find?_eq_some hr
    · exact nomatch hr
  have hsent : (r.caller, r.request) ∈ s.session.inFlight s.login := by
    rw [← h.sent]
    exact List.mem_map.2 ⟨r, hmem, rfl⟩
  obtain ⟨⟨id, phase⟩, hactive, hrequest⟩ := List.mem_filterMap.1 hsent
  obtain ⟨request, hphase, hpair⟩ := Option.map_eq_some_iff.1 hrequest
  obtain ⟨rfl, rfl⟩ := Prod.mk.inj hpair
  exact ⟨phase, Option.mem_toList.1 hactive, hphase⟩

/-- The answer that the session takes is that of the store. -/
theorem Act.answered?_of_label? {answer : Answer} (h : a.label? s = some (.answer id answer)) :
    ∃ r, a.answered? s = some r ∧ answer = (s.store.answer r.request).1 := by
  unfold Act.label? at h
  split at h
  · exact nomatch h
  · obtain ⟨r, hr, hlabel⟩ := Option.map_eq_some_iff.1 h
    exact ⟨r, hr, (Session.Label.answer.inj hlabel).2.symm⟩
  · exact nomatch h
  · exact nomatch h

/-- The request in flight revokes what the session waits for. -/
theorem revoked_of_request? {phase : Phase} {request : SessionRequest}
    (holder : s.session.active = some (id, phase))
    (sent : phase.request? s.login = some request) :
    request.revoked = s.session.revoking?.toList.map fun t => t.value.value := by
  unfold Session.revoking?
  rw [holder]
  cases phase with
  | granted => exact nomatch sent
  | loggingIn =>
      obtain rfl := Option.some.inj sent
      unfold Agent.login loginRequest
      split <;> rfl
  | renewing | revoking =>
      obtain rfl := Option.some.inj sent
      rfl

/-- The value that is issued to the session has the number of its login, unless it is configured. -/
theorem Traced.value_of_issued? (h : Traced start trace none s) {m : MemoryStore}
    (store : s.store = .memory m) (steps : a.Steps s l events s')
    (login : ∀ v, start.session.strategy ≠ .token v) {value : String}
    (issued : Session.Moment.issued? ⟨s.session, s.now, l, s'.session, events⟩ = some value) :
    ∃ r flow, a.answered? s = some r ∧ r.request = .login flow ∧
      value = MemoryStore.issuedValue (m.logins + 1) := by
  unfold Session.Moment.issued? at issued
  dsimp only at issued
  split at issued
  · rename_i g holder
    obtain ⟨r, hr, hanswer⟩ := Act.answered?_of_label? steps.label
    obtain ⟨phase, holder', sent⟩ := h.active_of_answered hr
    obtain ⟨-, rfl⟩ := Prod.mk.inj (Option.some.inj (holder'.symm.trans holder))
    have hrequest : s.login = r.request := Option.some.inj sent
    unfold Agent.login loginRequest at hrequest
    split at hrequest
    · rename_i flow hflow
      rw [h.run.sound.strategy_eq] at hflow
      rw [store, ← hrequest] at hanswer
      have other (v : Secret) : flow ≠ .static v := by
        rintro rfl
        exact login v (Strategy.flow_eq_static hflow)
      refine ⟨r, flow, hr, hrequest.symm, ?_⟩
      rw [← Option.some.inj issued]
      exact Store.value_of_granted m other hanswer.symm
    · rw [← hrequest] at hanswer
      exact nomatch hanswer
  · exact nomatch issued

end Answers

/-! ## A whole run -/

/-- The store agrees with the run of the session. -/
structure Ledger (start : Agent) (base : MemoryStore) (trace : List Session.Moment) (s : Agent)
    (m : MemoryStore) : Prop where
  store : s.store = .memory m
  /-- What was revoked, and what is about to be, is what was sent for revocation. -/
  revoked : m.revoked ++ (s.session.revoking?.toList.map fun t => t.value.value) =
    base.revoked ++ ((Session.revoked trace).map fun t => t.value.value).reverse
  /-- No value is issued twice for a login, unless it is configured. -/
  issued : (∀ v, start.session.strategy ≠ .token v) →
    (Session.issued trace).Nodup ∧
      ∀ value ∈ Session.issued trace, ∃ n ≤ m.logins, value = MemoryStore.issuedValue n

theorem Ledger.fresh (fresh : start.IsFresh) {base : MemoryStore}
    (store : start.store = .memory base) : Ledger start base [] start base where
  store := store
  revoked := by
    rw [fresh.session]
    rfl
  issued _ := ⟨List.nodup_nil, nofun⟩

/-- Calls are made and dropped, but not one that waits for a revocation. -/
theorem Ledger.outside {base m : MemoryStore} (h : Ledger start base trace s m)
    (traced : Traced start trace none s) (traced' : Traced start (calls ++ trace) none s')
    (outside : ∀ m ∈ calls, m.label.isOutside = true) (keeps : s.KeepsStore s')
    (same : s'.session.revoking? = s.session.revoking?) :
    ∃ m', Ledger start base (calls ++ trace) s' m' := by
  obtain ⟨reads, hstore⟩ := keeps
  obtain ⟨-, hissued, hrevoked, -⟩ := traced'.run.outside traced.run outside
  refine ⟨{ m with reads := m.reads ++ reads.map fun r => r.plan.path }, ?_, ?_, ?_⟩
  · rw [hstore, h.store, Store.recordReads_eq]
  · rw [same, hrevoked]
    exact h.revoked
  · rw [hissued]
    exact h.issued

/-- The session takes a step. -/
theorem Ledger.steps {base m : MemoryStore} (h : Ledger start base trace s m)
    (traced : Traced start trace none s) {a : Act} {l : Session.Label} {events : List Event}
    (steps : a.Steps s l events s')
    (prompt : s.session.revoking? ≠ none → a.answered? s ≠ none) :
    ∃ m', Ledger start base (⟨s.session, s.now, l, s'.session, events⟩ :: trace) s' m' := by
  have does := Session.does_of_step steps.step
  have inside := Act.isOutside_of_label? steps.label
  -- the store changes by the answer, and that is to what the session waits for
  obtain ⟨m', hstore, hrevoked, hlogins, hissued⟩ : ∃ m', s'.store = .memory m' ∧
      m'.revoked = m.revoked ++ (s.session.revoking?.toList.map fun t => t.value.value) ∧
      m.logins ≤ m'.logins ∧ ∀ r flow, a.answered? s = some r → r.request = .login flow →
        m'.logins = m.logins + 1 := by
    cases hr : a.answered? s with
    | none =>
        have idle : s.session.revoking? = none :=
          Decidable.byContradiction fun hbusy => prompt hbusy hr
        have hsame := steps.store
        rw [hr, h.store] at hsame
        refine ⟨m, hsame, ?_, Nat.le_refl _, fun _ _ h => nomatch h⟩
        rw [idle]
        exact (List.append_nil _).symm
    | some r =>
        obtain ⟨phase, holder, sent⟩ := traced.active_of_answered hr
        obtain ⟨m', hanswer, hrevoked, hle, hlogin⟩ := Store.answer_tally m r.request
        have hstore := steps.store
        rw [hr, h.store] at hstore
        refine ⟨m', hstore.trans hanswer, ?_, hle, ?_⟩
        · rw [hrevoked, revoked_of_request? holder sent]
        · rintro r' flow hr' hrequest
          obtain rfl := Option.some.inj hr'
          exact hlogin flow hrequest
  refine ⟨m', hstore, ?_, ?_⟩
  · -- what the step sends for revocation is in flight after it
    have hsent := does.revoking?_toList inside
    rw [hrevoked, h.revoked, hsent, Session.revoked_cons, Session.Moment.revoked, ← hsent,
      List.map_append, List.reverse_append, List.append_assoc]
    cases s'.session.revoking? <;> rfl
  · intro login
    obtain ⟨nodup, bound⟩ := h.issued login
    rw [Session.issued_cons]
    cases hvalue : Session.Moment.issued? ⟨s.session, s.now, l, s'.session, events⟩ with
    | none =>
        refine ⟨nodup, ?_⟩
        intro value hmem
        obtain ⟨n, hn, rfl⟩ := bound value hmem
        exact ⟨n, Nat.le_trans hn hlogins, rfl⟩
    | some value =>
        obtain ⟨r, flow, hr, hrequest, rfl⟩ := traced.value_of_issued? h.store steps login hvalue
        have hnext := hissued r flow hr hrequest
        refine ⟨List.nodup_cons.2 ⟨?_, nodup⟩, ?_⟩
        · intro hmem
          obtain ⟨n, hn, hsame⟩ := bound _ hmem
          have heq := MemoryStore.issuedValue_injective hsame
          omega
        · intro value hmem
          rcases List.mem_cons.1 hmem with rfl | hmem
          · exact ⟨m.logins + 1, Nat.le_of_eq hnext.symm, rfl⟩
          · obtain ⟨n, hn, rfl⟩ := bound value hmem
            exact ⟨n, Nat.le_trans hn hlogins, rfl⟩

end Agent

end SecretConfig
