import SecretConfig.Proofs.Agent.Runs
import SecretConfig.Proofs.Aggregation.Build
import SecretConfig.Proofs.Session.Retention
import SecretConfig.Proofs.Session.Scheduling
import SecretConfig.Proofs.Store.Memory

set_option autoImplicit false

/-! # Undisturbed runs

In an undisturbed run over a store in memory nobody revokes a token or puts faults into reads:
there are calls on the session other than for its end, refreshes and schedulers. What is
revoked, or about to be, was then replaced by a login, and every read that has ended did so at a
moment of the run. `Upheld` says so, together with how far each task has come, and `Run.upheld`
carries it along the run.

The history is a parameter of the invariant: an act adds a moment, and what refers to earlier
moments stays (`Upheld.mono`). -/

namespace SecretConfig

namespace Agent

variable {start s s' : Agent} {base : MemoryStore} {history past : List Moment} {m : Moment}
  {id : CallId}

/-! ## The setting -/

/-- The reads of a build of the source. -/
def reads (s : Agent) : List PlannedRead := s.source.descriptors.filterMap s.registry.read?

/-- The act neither revokes a token nor changes a secret from outside: calls on the session
other than for its end, refreshes, and schedulers. -/
def Act.isPeaceful : Act → Bool
  | .move _ | .startScheduler _ | .spawn .refresh => true
  | .spawn (.call (.shutdown _)) => false
  | .spawn (.call _) => true
  | _ => false

/-- An agent at rest over a store in memory that answers every read in time and without a
fault. -/
structure Undisturbed (start : Agent) (base : MemoryStore) : Prop where
  store : start.store = .memory base
  faults : base.readFailures = Dict.empty
  delays : ∀ path, base.readDelay path ≤ start.source.options.readTimeout
  revoked : base.revoked = []
  requests : start.requests = []
  tasks : start.tasks = []
  active : start.session.active = none
  queue : start.session.queue = []

/-- A login replaces the token of a value by one of another value. -/
def Moment.Supersedes (m : Moment) (value : Secret) : Prop :=
  ∃ id forced old deadline g, m.act = .move (.answer id) ∧
    m.before.session.active = some (id, .loggingIn forced (some old) deadline) ∧
    old.value = value ∧
    m.after.session.state = .valid (m.before.session.strategy.accept g m.before.now) ∧
    (m.before.session.strategy.accept g m.before.now).value ≠ value

/-! ## The invariant -/

/-- A read of a refresh ended at a moment of the run, and what was revoked by then had been
replaced by a login. -/
def ReadEnded (base : MemoryStore) (history : List Moment) (id : CallId) (index : Nat)
    (r : PlannedRead) (o : BuildOptions) (t : Token) (result : Except Error Layer) : Prop :=
  ∃ u past m slots, u :: past <:+ history ∧ u.act = .move (.read id index) ∧
    u.before.task? id = some (.work .refresh (.reading o t slots)) ∧
    u.before.store = .memory m ∧ m.ReadsLike base ∧
    (∀ v ∈ m.revoked, ∃ w ∈ past, w.Supersedes ⟨v⟩) ∧
    result = (r.layer o (m.read r.plan.path t)).1

/-- A refresh succeeded at a moment of the run, with a layer from each of its reads. -/
def Refreshed (start : Agent) (base : MemoryStore) (history : List Moment) (id : CallId)
    (endedAt : Instant) (ps : Properties) : Prop :=
  ∃ t layers, ∃ u ∈ history, u.act = .move (.resume id) ∧
    u.after.result? id = some (endedAt, .properties ps) ∧
    u.after.source.published = Snapshot.ofLayers (Layer.sorted layers) ∧
    layers.length = start.reads.length ∧
    ∀ index r, start.reads[index]? = some r → ∃ layer, layers[index]? = some layer ∧
      ReadEnded base history id index r start.source.options t (.ok layer)

/-- What a task may be at, and what it has done so far. -/
inductive Fits (start : Agent) (base : MemoryStore) (history : List Moment) (id : CallId) :
    Task → Prop
  | scheduler (sched : Scheduler) : Fits start base history id (.scheduler sched)
  | calling {call : Call} (reply : Option Reply) (peaceful : ∀ revoke, call ≠ .shutdown revoke) :
      Fits start base history id (.work (.call call) (.calling reply))
  | called {call : Call} {endedAt : Instant} {outcome : Outcome}
      (h : ∀ ps, outcome ≠ .properties ps) :
      Fits start base history id (.work (.call call) (.ended endedAt outcome))
  | queued : Fits start base history id (.work .refresh .queued)
  | obtaining (reply : Option Reply) :
      Fits start base history id
        (.work .refresh (.obtaining start.source.options start.reads reply))
  | reading {t : Token} {slots : List ReadSlot} (planned : slots.map ReadSlot.read = start.reads)
      (inTime : ∀ r ∈ slots, r.readyAt ≤ r.deadline)
      (done : ∀ index r result, slots[index]? = some r → r.outcome = some result →
        ReadEnded base history id index r.read start.source.options t result) :
      Fits start base history id (.work .refresh (.reading start.source.options t slots))
  | refreshed {endedAt : Instant} {ps : Properties}
      (h : Refreshed start base history id endedAt ps) :
      Fits start base history id (.work .refresh (.ended endedAt (.properties ps)))
  | failed {endedAt : Instant} {outcome : Outcome} (h : ∀ ps, outcome ≠ .properties ps) :
      Fits start base history id (.work .refresh (.ended endedAt outcome))

/-- What holds all along an undisturbed run. -/
structure Upheld (start : Agent) (base : MemoryStore) (history : List Moment) (s : Agent) :
    Prop where
  registry : s.registry = start.registry
  descriptors : s.source.descriptors = start.source.descriptors
  options : s.source.options = start.source.options
  /-- What is revoked was replaced by a login. -/
  store : ∃ m, s.store = .memory m ∧ m.ReadsLike base ∧
    ∀ v ∈ m.revoked, ∃ w ∈ history, w.Supersedes ⟨v⟩
  /-- What is about to be revoked was replaced by a login. -/
  requests : ∀ r ∈ s.requests, ∀ t, r.request = .revocation t →
    ∃ w ∈ history, w.Supersedes t.value
  /-- Nobody ends the session. -/
  calls : ∀ revoke, .shutdown revoke ∉ s.session.pendingCalls
  tasks : ∀ e ∈ s.tasks, Fits start base history e.1 e.2

theorem readDelay_le_of_entries {m : MemoryStore} {d : Duration}
    (h : ∀ e ∈ m.readDelays.entries, e.2 ≤ d) (path : String) : m.readDelay path ≤ d := by
  unfold MemoryStore.readDelay Dict.get?
  generalize m.readDelays.entries = entries at h
  induction entries with
  | nil => exact Nat.zero_le d
  | cons e rest ih =>
      unfold Entries.get?
      split
      · exact h e List.mem_cons_self
      · exact ih fun e' he' => h e' (List.mem_cons_of_mem e he')

theorem Undisturbed.upheld (h : start.Undisturbed base) : Upheld start base [] start where
  registry := rfl
  descriptors := rfl
  options := rfl
  store := ⟨base, h.store, ⟨rfl, rfl, rfl⟩, by simp [h.revoked]⟩
  requests := by simp [h.requests]
  calls := by simp [Session.pendingCalls, h.active, h.queue]
  tasks := by simp [h.tasks]

/-! ## More history -/

theorem ReadEnded.mono {index : Nat} {r : PlannedRead} {o : BuildOptions} {t : Token}
    {result : Except Error Layer} (h : ReadEnded base history id index r o t result) :
    ReadEnded base (m :: history) id index r o t result := by
  obtain ⟨u, past, m', slots, hsuffix, h⟩ := h
  exact ⟨u, past, m', slots, hsuffix.trans (List.suffix_cons m history), h⟩

theorem Refreshed.mono {endedAt : Instant} {ps : Properties}
    (h : Refreshed start base history id endedAt ps) :
    Refreshed start base (m :: history) id endedAt ps := by
  obtain ⟨t, layers, u, hu, hact, htask, hpublished, hlength, hreads⟩ := h
  refine ⟨t, layers, u, List.mem_cons_of_mem m hu, hact, htask, hpublished, hlength, ?_⟩
  intro index r hr
  obtain ⟨layer, hlayer, hended⟩ := hreads index r hr
  exact ⟨layer, hlayer, hended.mono⟩

theorem Fits.mono {t : Task} (h : Fits start base history id t) :
    Fits start base (m :: history) id t := by
  cases h with
  | scheduler sched => exact .scheduler sched
  | calling reply peaceful => exact .calling reply peaceful
  | called h => exact .called h
  | queued => exact .queued
  | obtaining reply => exact .obtaining reply
  | reading planned inTime done =>
      exact .reading planned inTime fun index r result hr hresult =>
        (done index r result hr hresult).mono
  | refreshed h => exact .refreshed h.mono
  | failed h => exact .failed h

theorem Upheld.mono (h : Upheld start base history s) : Upheld start base (m :: history) s where
  registry := h.registry
  descriptors := h.descriptors
  options := h.options
  store := by
    obtain ⟨m', hstore, hlike, hrevoked⟩ := h.store
    refine ⟨m', hstore, hlike, fun v hv => ?_⟩
    obtain ⟨w, hw, hsupersedes⟩ := hrevoked v hv
    exact ⟨w, List.mem_cons_of_mem m hw, hsupersedes⟩
  requests r hr t ht := by
    obtain ⟨w, hw, hsupersedes⟩ := h.requests r hr t ht
    exact ⟨w, List.mem_cons_of_mem m hw, hsupersedes⟩
  calls := h.calls
  tasks e he := (h.tasks e he).mono

/-! ## Parts of an act -/

theorem Fits.deliver {t : Task} (h : Fits start base history id t) (reply : Reply) :
    Fits start base history id (t.deliver reply) := by
  cases h with
  | scheduler sched => exact .scheduler _
  | calling _ peaceful => exact .calling _ peaceful
  | called h => exact .called h
  | queued => exact .queued
  | obtaining => exact .obtaining _
  | reading planned inTime done => exact .reading planned inTime done
  | refreshed h => exact .refreshed h
  | failed h => exact .failed h

theorem Upheld.reads (h : Upheld start base history s) : s.reads = start.reads := by
  simp only [Agent.reads, h.registry, h.descriptors]

theorem Upheld.setTask (h : Upheld start base history s) {t : Task}
    (fits : Fits start base history id t) : Upheld start base history (s.setTask id t) where
  registry := h.registry
  descriptors := h.descriptors
  options := h.options
  store := h.store
  requests := h.requests
  calls := h.calls
  tasks e he := by
    rcases mem_setTask he with rfl | ⟨he, -⟩
    · exact fits
    · exact h.tasks e he

theorem Upheld.withSource (h : Upheld start base history s) (source : Source)
    (descriptors : source.descriptors = s.source.descriptors)
    (options : source.options = s.source.options) :
    Upheld start base history { s with source } where
  registry := h.registry
  descriptors := descriptors.trans h.descriptors
  options := options.trans h.options
  store := h.store
  requests := h.requests
  calls := h.calls
  tasks := h.tasks

theorem Upheld.withStore (h : Upheld start base history s) {m : MemoryStore}
    (like : m.ReadsLike base) (revoked : ∀ v ∈ m.revoked, ∃ w ∈ history, w.Supersedes ⟨v⟩) :
    Upheld start base history { s with store := .memory m } where
  registry := h.registry
  descriptors := h.descriptors
  options := h.options
  store := ⟨m, rfl, like, revoked⟩
  requests := h.requests
  calls := h.calls
  tasks := h.tasks

theorem Upheld.record (h : Upheld start base history s) (records : List Metrics.Record) :
    Upheld start base history (s.record records) :=
  ⟨h.registry, h.descriptors, h.options, h.store, h.requests, h.calls, h.tasks⟩

theorem Upheld.forget (h : Upheld start base history s) (id : CallId) :
    Upheld start base history (s.forget id) where
  registry := h.registry
  descriptors := h.descriptors
  options := h.options
  store := h.store
  requests r hr := h.requests r (List.mem_filter.1 hr).1
  calls := h.calls
  tasks := h.tasks

/-- A step of the session, of which the revocations that it asks for are known to be those of
tokens that a login replaced. -/
theorem Upheld.absorbs (h : Upheld start base history s) {l : Session.Label} {session : Session}
    {events : List Event} (does : s.session.Does s.now l session events)
    (absorbs : { s with session }.Absorbs events s')
    (peaceful : ∀ caller revoke, l ≠ .begin caller (.shutdown revoke))
    (sent : ∀ caller t, .revocationSent caller t ∈ events →
      ∃ w ∈ history, w.Supersedes t.value) : Upheld start base history s' where
  registry := absorbs.registry.trans h.registry
  descriptors := by rw [absorbs.source]; exact h.descriptors
  options := by rw [absorbs.source]; exact h.options
  store := by rw [absorbs.store]; exact h.store
  requests r hr t ht := by
    rw [absorbs.requests, List.mem_append] at hr
    rcases hr with hr | hr
    · exact h.requests r hr t ht
    · obtain ⟨e, he, hrequest⟩ := List.mem_filterMap.1 hr
      cases e with
      | revocationSent caller t' =>
          simp only [requestOf, Option.some.injEq] at hrequest
          subst hrequest
          obtain rfl := SessionRequest.revocation.inj ht
          exact sent caller _ he
      | loginSent caller forced =>
          simp only [requestOf, loginRequest, Option.some.injEq] at hrequest
          subst hrequest
          split at ht <;> cases ht
      | renewalSent caller t' =>
          simp only [requestOf, Option.some.injEq] at hrequest
          subst hrequest
          cases ht
      | published | loginEnded | renewalEnded | returned => cases hrequest
  calls revoke hrevoke := by
    rw [absorbs.session] at hrevoke
    rcases does.guardMove.pendingCalls hrevoke with hpending | ⟨caller, hlabel⟩
    · exact h.calls revoke hpending
    · exact peaceful caller revoke hlabel
  tasks e he := by
    rw [absorbs.tasks] at he
    obtain ⟨e', he', rfl⟩ := List.mem_map.1 he
    exact Task.takeReplies_keeps (h.tasks e' he') (fun _ reply h => h.deliver reply) _ _

/-- A step of the session that is no answer asks for no revocation. -/
theorem Upheld.stepSession (h : Upheld start base history s) {l : Session.Label}
    (step : s.stepSession l = some s')
    (peaceful : ∀ caller revoke, l ≠ .begin caller (.shutdown revoke))
    (unanswered : ∀ caller a, l ≠ .answer caller a) : Upheld start base history s' := by
  obtain ⟨session, events, does, absorbs⟩ := absorbs_of_stepSession step
  refine h.absorbs does absorbs peaceful fun caller t ht => ?_
  rcases does.revocationSent ht with ⟨t', holder, -, -, -, g, -, hlabel, -⟩ |
    ⟨revoke, holder, hactive, -⟩
  · exact absurd hlabel (unanswered holder _)
  · refine absurd ?_ (h.calls revoke)
    have hactive' : s.session.active = some (holder, .granted (.shutdown revoke)) := hactive
    simp [Session.pendingCalls, hactive']

theorem Upheld.ask (h : Upheld start base history s) (id : CallId) {call : Call}
    (peaceful : ∀ revoke, call ≠ .shutdown revoke) :
    Upheld start base history (s.ask id call) :=
  h.stepSession (l := .begin id call) rfl
    (fun _ revoke hlabel => peaceful revoke (Session.Label.begin.inj hlabel).2) nofun

/-! ## Answers -/

/-- The revocation that an answer leads to is that of a token that the answer replaces. -/
theorem Upheld.stepAnswer (h : Upheld start base history s) (step : s.stepAnswer id = some s') :
    Upheld start base (⟨s, .move (.answer id), s'⟩ :: history) s' := by
  obtain ⟨r, found, -, answered⟩ := stepSession_of_answer step
  obtain ⟨m, hstore, hlike, hrevoked⟩ := h.store
  obtain ⟨m', hanswer, hlike', hrevoked'⟩ := Store.answer_memory m r.request
  generalize hm : (⟨s, .move (.answer id), s'⟩ : Moment) = now
  rw [hstore, hanswer] at answered
  generalize ((Store.memory m).answer r.request).1 = a at answered
  -- the store answers before the session takes the answer
  have hreply : Upheld start base (now :: history)
      { s.forget id with store := .memory m' } := by
    refine (h.mono.forget id).withStore ⟨hlike'.secrets.trans hlike.secrets,
      hlike'.faults.trans hlike.faults, hlike'.delays.trans hlike.delays⟩ fun v hv => ?_
    rcases hrevoked' v hv with hv | ⟨t, ht, rfl⟩
    · obtain ⟨w, hw, hsupersedes⟩ := hrevoked v hv
      exact ⟨w, List.mem_cons_of_mem now hw, hsupersedes⟩
    · exact h.mono.requests r (List.mem_of_find?_eq_some found) t ht
  obtain ⟨session, events, does, absorbs⟩ := absorbs_of_stepSession answered
  refine hreply.absorbs does absorbs nofun fun caller t ht => ?_
  refine ⟨now, List.mem_cons_self, ?_⟩
  subst hm
  -- of all answers, only that to a login which supersedes a token leads to a revocation
  cases does with
  | supersede holder origin other =>
      rename_i g
      simp only [List.mem_cons, reduceCtorEq, Event.revocationSent.injEq, false_or,
        List.not_mem_nil, or_false] at ht
      obtain ⟨-, rfl⟩ := ht
      refine ⟨_, _, _, _, g, rfl, holder, rfl, ?_, Ne.symm other⟩
      rw [absorbs.session]
      rfl
  | _ => simp at ht

/-! ## Reads -/

/-- An answer that could be late is there already. -/
theorem answerTo_eq {o : BuildOptions} {t : Token} {r : ReadSlot} {m : MemoryStore}
    {answer : ReadAnswer} (store : s.store = .memory m) (inTime : r.readyAt ≤ r.deadline)
    (h : s.answerTo o t r = some answer) : answer = m.read r.read.plan.path t := by
  unfold answerTo at h
  split at h
  · rw [store] at h
    exact (Option.some.inj h).symm
  · split at h
    · lia
    · exact nomatch h

theorem Upheld.stepRead (h : Upheld start base history s) {index : Nat}
    (step : s.stepRead id index = some s') :
    Upheld start base (⟨s, .move (.read id index), s'⟩ :: history) s' := by
  unfold Agent.stepRead at step
  split at step
  · rename_i goal o t slots htask
    split at step
    · rename_i r hr
      split at step
      · exact nomatch step
      · obtain ⟨m, hstore, hlike, hrevoked⟩ := h.store
        have hfits := h.tasks _ (mem_tasks_of_task? htask)
        generalize hm : (⟨s, .move (.read id index), s'⟩ : Moment) = now
        cases hfits with
        | reading planned inTime done =>
            simp only [Option.map_eq_some_iff] at step
            obtain ⟨answer, hsome, hs'⟩ := step
            rw [answerTo_eq hstore (inTime r (List.mem_of_getElem? hr)) hsome] at hs'
            subst hs'
            refine (h.mono.record _).setTask (.reading ?_ ?_ ?_)
            · rw [map_read_set hr, planned]
            · intro r' hr'
              rcases List.mem_or_eq_of_mem_set hr' with hr' | rfl
              · exact inTime r' hr'
              · exact inTime r (List.mem_of_getElem? hr)
            · intro k r' result hr' hresult
              by_cases hk : index = k
              · subst hk
                obtain ⟨hlt, -⟩ := List.getElem?_eq_some_iff.1 hr
                rw [List.getElem?_set_self hlt] at hr'
                obtain rfl := Option.some.inj hr'
                obtain rfl := Option.some.inj hresult
                subst hm
                exact ⟨_, history, m, slots, List.suffix_refl _, rfl, htask, hstore, hlike,
                  hrevoked, rfl⟩
              · rw [List.getElem?_set_ne hk] at hr'
                exact (done k r' result hr' hresult).mono
    · exact nomatch step
  · exact nomatch step

/-- When all reads have ended well, each has its layer among those made. -/
theorem layer_of_outcomes {slots : List ReadSlot} {made : List Layer}
    (ended : ∀ r ∈ slots, r.outcome.isSome = true)
    (h : slots.filterMap ReadSlot.outcome = made.map .ok) :
    made.length = slots.length ∧ ∀ (index : Nat) (r : ReadSlot), slots[index]? = some r →
      ∃ layer, made[index]? = some layer ∧ r.outcome = some (.ok layer) := by
  induction slots generalizing made with
  | nil =>
      have hmade : made = [] := List.map_eq_nil_iff.1 h.symm
      subst hmade
      exact ⟨rfl, by simp⟩
  | cons r rest ih =>
      obtain ⟨result, hresult⟩ := Option.isSome_iff_exists.1 (ended r List.mem_cons_self)
      rw [List.filterMap_cons_some hresult] at h
      cases made with
      | nil => exact nomatch h
      | cons layer made =>
          obtain ⟨rfl, hrest⟩ := List.cons.inj h
          obtain ⟨hlength, hlayers⟩ :=
            ih (fun r' hr' => ended r' (List.mem_cons_of_mem r hr')) hrest
          refine ⟨by simp [hlength], fun index r' hr' => ?_⟩
          cases index with
          | zero =>
              obtain rfl := Option.some.inj hr'
              exact ⟨layer, rfl, hresult⟩
          | succ index => exact hlayers index r' hr'

/-! ## Tasks -/

/-- A build that ends in an error ends its refresh without properties. -/
theorem Upheld.finishBuild_error (h : Upheld start base history s) (id : CallId) (e : Error) :
    Upheld start base history (s.finishBuild id .refresh (.error e)) := by
  refine (h.withSource s.source.release ?_ ?_).setTask (.failed nofun)
  · unfold Source.release; split <;> rfl
  · unfold Source.release; split <;> rfl

/-- A refresh of which all reads made their layers publishes them. -/
theorem Upheld.finishBuild_ok (h : Upheld start base history s) {old : Task}
    (htask : s.task? id = some old) {t : Token} {made : List Layer}
    (hm : m = ⟨m.before, .move (.resume id), s.finishBuild id .refresh (.ok (Layer.sorted made))⟩)
    (hin : m ∈ history) (length : made.length = start.reads.length)
    (ended : ∀ index r, start.reads[index]? = some r → ∃ layer, made[index]? = some layer ∧
      ReadEnded base history id index r start.source.options t (.ok layer)) :
    Upheld start base history (s.finishBuild id .refresh (.ok (Layer.sorted made))) := by
  have hsource : ∀ layers, (s.source.publish layers).descriptors = s.source.descriptors ∧
      (s.source.publish layers).options = s.source.options ∧
      (s.source.publish layers).published = Snapshot.ofLayers layers := by
    intro layers
    unfold Source.publish Source.release
    split <;> exact ⟨rfl, rfl, rfl⟩
  obtain ⟨hdescriptors, hoptions, hpublished⟩ := hsource (Layer.sorted made)
  refine (h.withSource _ hdescriptors hoptions).setTask (.refreshed ?_)
  refine ⟨t, made, m, hin, by rw [hm], ?_, ?_, length, ended⟩
  · rw [hm]
    exact result?_finish (s := { s with source := s.source.publish (Layer.sorted made) }) htask
  · rw [hm]
    exact hpublished

theorem Upheld.enterBuild (h : Upheld start base history s) {old : Task}
    (htask : s.task? id = some old)
    (hm : m = ⟨m.before, .move (.resume id),
      s.enterBuild id .refresh s.source.options s.source.descriptors⟩) (hin : m ∈ history) :
    Upheld start base history (s.enterBuild id .refresh s.source.options s.source.descriptors) := by
  unfold Agent.enterBuild at hm ⊢
  cases hplan : Build.plan s.registry s.source.options s.source.descriptors with
  | mk planned records =>
      have hreads : ∀ reads, planned = .ok reads → reads = start.reads := by
        rintro reads rfl
        rw [← h.reads]
        exact Build.reads_of_plan (by rw [hplan])
      rw [hplan] at hm
      cases planned with
      | error e => exact (h.record records).finishBuild_error id e
      | ok reads =>
          cases reads with
          | nil =>
              -- a build without reads ends at once
              have hnil : start.reads = [] := (hreads [] rfl).symm
              have hsorted : [] = Layer.sorted [] := by simp [Layer.sorted]
              dsimp only at hm ⊢
              rw [hsorted] at hm ⊢
              exact (h.record records).finishBuild_ok (t := default) htask hm hin (by simp [hnil])
                (by simp [hnil])
          | cons r reads =>
              have hobtaining : Fits start base history id
                  (.work .refresh (.obtaining s.source.options (r :: reads) none)) := by
                rw [h.options, hreads (r :: reads) rfl]
                exact .obtaining none
              exact ((h.record records).setTask hobtaining).ask id nofun

theorem Upheld.sendReads (h : Upheld start base history s) (undisturbed : start.Undisturbed base)
    (id : CallId) (t : Token) :
    Upheld start base history (s.sendReads id .refresh start.source.options t start.reads) := by
  obtain ⟨m, hstore, hlike, hrevoked⟩ := h.store
  obtain ⟨m', hm', hlike', hrevoked'⟩ := Store.recordReads_memory m start.reads
  unfold Agent.sendReads
  dsimp only
  rw [hstore, hm']
  refine (h.withStore ⟨hlike'.secrets.trans hlike.secrets, hlike'.faults.trans hlike.faults,
    hlike'.delays.trans hlike.delays⟩ (hrevoked' ▸ hrevoked)).setTask (.reading ?_ ?_ ?_)
  · simp [Function.comp_def]
  · intro r hr
    obtain ⟨planned, -, rfl⟩ := List.mem_map.1 hr
    have hdelay := undisturbed.delays planned.plan.path
    have hsame : m'.readDelay planned.plan.path = base.readDelay planned.plan.path := by
      rw [hlike'.readDelay, hlike.readDelay]
    show s.now + m'.readDelay planned.plan.path ≤ s.now + start.source.options.readTimeout
    lia
  · intro index r result hr hresult
    obtain ⟨planned, -, rfl⟩ := List.mem_map.1 (List.mem_of_getElem? hr)
    exact nomatch hresult

theorem Upheld.resumeWork (h : Upheld start base history s) (undisturbed : start.Undisturbed base)
    {goal : Goal} {stage : Stage} (htask : s.task? id = some (.work goal stage))
    (step : s.resumeWork id goal stage = some s') :
    Upheld start base (⟨s, .move (.resume id), s'⟩ :: history) s' := by
  have hfits := h.tasks _ (mem_tasks_of_task? htask)
  generalize hm : (⟨s, .move (.resume id), s'⟩ : Moment) = now
  have hin : now ∈ now :: history := List.mem_cons_self
  have later : Upheld start base (now :: history) s := h.mono
  cases hfits with
  | calling reply peaceful =>
      cases reply with
      | none => exact nomatch step
      | some reply =>
          obtain rfl := Option.some.inj step
          exact later.setTask (.called (by cases reply <;> exact nofun))
  | called | refreshed | failed => exact nomatch step
  | queued =>
      simp only [Agent.resumeWork, Option.ite_none_right_eq_some, Option.some.injEq] at step
      obtain ⟨-, rfl⟩ := step
      subst hm
      exact later.enterBuild htask rfl hin
  | obtaining reply =>
      cases reply with
      | none => exact nomatch step
      | some reply =>
          cases reply with
          | token t =>
              obtain rfl := Option.some.inj step
              exact later.sendReads undisturbed id t
          | failed e =>
              obtain rfl := Option.some.inj step
              exact later.finishBuild_error id e
          | closed | crashed =>
              obtain rfl := Option.some.inj step
              refine (later.withSource (s.source.drop id) ?_ ?_).setTask (.failed nofun)
              · unfold Source.drop Source.release
                split <;> (try split) <;> rfl
              · unfold Source.drop Source.release
                split <;> (try split) <;> rfl
  | reading planned inTime done =>
      rename_i t slots
      simp only [Agent.resumeWork, Option.ite_none_right_eq_some, Option.some.injEq,
        List.all_eq_true] at step
      obtain ⟨hended, rfl⟩ := step
      cases hcollect : Build.collect (slots.filterMap ReadSlot.outcome) with
      | error e => exact later.finishBuild_error id e
      | ok layers =>
          obtain ⟨made, hmade, rfl⟩ := Build.collect_eq_ok_iff.1 hcollect
          obtain ⟨hlength, hlayers⟩ := layer_of_outcomes hended hmade
          rw [hcollect] at hm
          subst hm
          refine later.finishBuild_ok (t := t) htask rfl hin ?_ ?_
          · rw [hlength, ← planned, List.length_map]
          · intro index r hr
            rw [← planned, List.getElem?_map] at hr
            obtain ⟨slot, hslot, rfl⟩ := Option.map_eq_some_iff.1 hr
            obtain ⟨layer, hlayer, houtcome⟩ := hlayers index slot hslot
            exact ⟨layer, hlayer, (done index slot _ hslot houtcome).mono⟩

theorem Upheld.turn (h : Upheld start base history s) {sched : Scheduler}
    {next : Scheduler × Option Call} (does : sched.Does s.now s.session next.1 next.2) :
    Upheld start base history (s.turn id next) := by
  obtain ⟨sched', call⟩ := next
  have hset : Upheld start base history (s.setTask id (.scheduler sched')) :=
    h.setTask (.scheduler sched')
  cases call with
  | none => exact hset
  | some call =>
      refine hset.ask id fun revoke => ?_
      rcases does.call_eq with rfl | rfl <;> exact nofun

theorem Upheld.stepTask (h : Upheld start base history s) (undisturbed : start.Undisturbed base)
    (step : s.stepTask id = some s') :
    Upheld start base (⟨s, .move (.resume id), s'⟩ :: history) s' := by
  cases resumes_of_stepTask step with
  | works htask step => exact h.resumeWork undisturbed htask step
  | turns htask turn after =>
      subst after
      exact h.mono.turn (Scheduler.does_of_step turn s.now)

/-! ## Acts -/

/-- A task joins the others and takes up its goal. -/
theorem Upheld.join (h : Upheld start base history s) {t old : Task}
    (fits : Fits start base history s.nextId t) :
    Upheld start base history
      ({ s with tasks := s.tasks ++ [(s.nextId, old)], nextId := s.nextId + 1 }.setTask
        s.nextId t) where
  registry := h.registry
  descriptors := h.descriptors
  options := h.options
  store := h.store
  requests := h.requests
  calls := h.calls
  tasks e he := by
    simp only [Agent.setTask, modifyTask, List.map_append, List.mem_append, List.mem_map,
      List.mem_singleton] at he
    rcases he with ⟨e', he', rfl⟩ | ⟨e', rfl, rfl⟩
    · split
      · exact fits
      · exact h.tasks e' he'
    · simpa using fits

theorem Upheld.spawn (h : Upheld start base history s) {goal : Goal}
    (peaceful : (Act.spawn goal).isPeaceful = true) :
    Upheld start base history (s.spawn goal).1 := by
  cases goal with
  | call call =>
      have hcall : ∀ revoke, call ≠ .shutdown revoke := by
        rintro revoke rfl
        exact nomatch peaceful
      exact (h.join (.calling none hcall)).ask s.nextId hcall
  | refresh =>
      refine (h.join (t := .work .refresh .queued) .queued).withSource
        (s.source.acquire s.nextId) ?_ ?_
      · unfold Source.acquire; split <;> rfl
      · unfold Source.acquire; split <;> rfl
  | layers | properties | start | load | stop | stopScheduler | pause | login | renew | revoke
  | read | write => exact nomatch peaceful

theorem Upheld.startScheduler (h : Upheld start base history s) (policy : RenewalPolicy) :
    Upheld start base history (s.startScheduler policy).1 where
  registry := h.registry
  descriptors := h.descriptors
  options := h.options
  store := h.store
  requests := h.requests
  calls := h.calls
  tasks e he := by
    rcases List.mem_append.1 he with he | he
    · exact h.tasks e he
    · obtain rfl := List.mem_singleton.1 he
      exact .scheduler _

theorem Upheld.step (h : Upheld start base history s) (undisturbed : start.Undisturbed base)
    {move : Move} (step : s.step move = some s') :
    Upheld start base (⟨s, .move move, s'⟩ :: history) s' := by
  cases move with
  | proceed id => exact h.mono.stepSession step (by rintro _ _ ⟨⟩) (by rintro _ _ ⟨⟩)
  | answer id => exact h.stepAnswer step
  | expire id =>
      obtain ⟨r, -, -, expired⟩ := stepSession_of_expire step
      exact (h.mono.forget id).stepSession expired (by rintro _ _ ⟨⟩) (by rintro _ _ ⟨⟩)
  | read id index => exact h.stepRead step
  | resume id => exact h.stepTask undisturbed step
  | wake id cause =>
      obtain ⟨sched, next, -, hwake, rfl⟩ := turn_of_wake step
      exact h.mono.turn (Scheduler.does_of_wake hwake)
  | pass t =>
      simp only [Agent.step, Option.ite_none_right_eq_some, Option.some.injEq] at step
      obtain ⟨-, rfl⟩ := step
      exact ⟨h.registry, h.descriptors, h.options, h.mono.store, h.mono.requests, h.calls,
        h.mono.tasks⟩

theorem Upheld.act (h : Upheld start base history s) (undisturbed : start.Undisturbed base)
    {a : Act} (peaceful : a.isPeaceful = true) (step : s.act a = some s') :
    Upheld start base (⟨s, a, s'⟩ :: history) s' := by
  cases a with
  | move move => exact h.step undisturbed step
  | spawn goal =>
      obtain rfl := Option.some.inj step
      exact h.mono.spawn peaceful
  | startScheduler policy =>
      obtain rfl := Option.some.inj step
      exact h.mono.startScheduler policy
  | drop id => exact nomatch peaceful

theorem Run.upheld (run : Run start history s) (undisturbed : start.Undisturbed base)
    (peaceful : ∀ m ∈ history, m.act.isPeaceful = true) : Upheld start base history s := by
  induction run with
  | start => exact undisturbed.upheld
  | next run step ih =>
      have before := ih fun m hm => peaceful m (List.mem_cons_of_mem _ hm)
      exact before.act undisturbed (peaceful _ List.mem_cons_self) step

end Agent

end SecretConfig
