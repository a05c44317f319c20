import SecretConfig.Proofs.Agent.Tasks
import SecretConfig.Proofs.Aggregation.Outcomes

set_option autoImplicit false

/-! # The course of a build

A build that is asked of an agent plans its reads, obtains a token, sends all reads with it and
collects what they make of their answers. Other tasks go on all the time, and the reads end in any
order.

`Course` says where a build stands in a run, with what has happened to it so far: which moments of
the run have sent its reads, and at which each of those has ended. Nobody else has to do with it
(`Course.others`), apart from the session, which replies to its call (`Course.steps`). -/

namespace SecretConfig

namespace Goal

/-- The options and the descriptors of a goal that is a build. -/
def build? : Goal → Option (BuildOptions × List Descriptor)
  | layers o ds | properties o ds => some (o, ds)
  | _ => none

/-- How a build ends. -/
def conclusion (goal : Goal) : Except Error (List Layer) → Outcome
  | .error e => .failed e
  | .ok ls =>
    match goal with
    | properties _ _ => .properties (Layer.merge ls)
    | _ => .layers ls

end Goal

theorem Task.awaits?_obtaining (goal : Goal) (o : BuildOptions) (reads : List PlannedRead)
    (reply : Option Reply) :
    (work goal (.obtaining o reads reply)).awaits? =
      if reply.isNone then some .getToken else none := by
  cases goal <;> cases reply <;> rfl

/-- Only who ends a session is told that it is closed. -/
theorem Session.mem_line_of_closed {s s' : Session} {now : Instant} {l : Label}
    {events : List Event} {id : CallId} (h : s.Does now l s' events)
    (returned : .returned id .closed ∈ events) :
    ∃ revoke, (id, .shutdown revoke) ∈ s.line := by
  cases h with
  | close holder =>
      obtain ⟨⟩ : id = _ := by simpa using returned
      rw [line_of_active holder]
      exact ⟨_, List.mem_cons_self⟩
  | endRevocation label holder =>
      obtain ⟨rfl, rfl⟩ : id = _ ∧ Reply.closed = _ := by simpa using returned
      rw [line_of_active holder]
      exact ⟨true, List.mem_cons_self⟩
  | _ => simp at returned

namespace Agent

variable {start s s' : Agent} {history past later : List Moment} {m u v w : Moment}
  {id index : Nat} {goal : Goal} {o : BuildOptions} {ds : List Descriptor} {t : Token}
  {trace : List Session.Moment} {a : Act}

/-! ## What happens to a build -/

/-- The step that the session takes at a moment; the task that is taken up calls for a token. -/
def Moment.sessionLabel? (u : Moment) : Option Session.Label :=
  match u.act with
  | .spawn _ => some (.begin u.before.nextId .getToken)
  | a => a.label? u.before

/-- The session replies to the call of a build. -/
def Moment.Replies (u : Moment) (id : CallId) (reply : Reply) : Prop :=
  .returned id reply ∈
    (u.sessionLabel?.bind (u.before.session.step u.before.now)).elim [] Prod.snd

theorem replies_of_label? {l : Session.Label} {session : Session} {events : List Event}
    {reply : Reply} (label : a.label? s = some l)
    (step : s.session.step s.now l = some (session, events))
    (returned : .returned id reply ∈ events) : Moment.Replies ⟨s, a, s'⟩ id reply := by
  cases a with
  | spawn goal | startScheduler policy | drop caller => exact nomatch label
  | move move => simpa [Moment.Replies, Moment.sessionLabel?, label, step] using returned

/-- The reads that a build sends at a moment, each with its token. -/
def Moment.readsSent (u : Moment) (id : CallId) : List (PlannedRead × Token) :=
  match u.act, u.before.task? id with
  | .move (.resume caller), some (.work _ (.obtaining _ reads (some (.token t)))) =>
    if caller = id then reads.map (·, t) else []
  | _, _ => []

/-- The reads that a build has sent. -/
def readsSent (history : List Moment) (id : CallId) : List (PlannedRead × Token) :=
  history.flatMap fun u => u.readsSent id

/-- The read of a build that ends at a moment: its place among the reads, and the answer to it. -/
def Moment.readEnd? (u : Moment) (id : CallId) : Option (Nat × PlannedRead × ReadAnswer) :=
  match u.act, u.before.task? id with
  | .move (.read caller index), some (.work _ (.reading o t slots)) =>
    if caller = id then
      slots[index]?.bind fun r => (u.before.answerTo o t r).map (index, r.read, ·)
    else none
  | _, _ => none

/-- A read ends at `u` that was sent at `v`: with what the store says then, once the store has had
its time, or without an answer, once the build has waited long enough. -/
structure Moment.EndsRead (u v : Moment) (id index : Nat) (o : BuildOptions) (r : PlannedRead)
    (t : Token) (answer : ReadAnswer) : Prop where
  ended : u.readEnd? id = some (index, r, answer)
  -- an answer that is there counts, even if the build had waited long enough
  answer : v.before.now + v.before.store.readDelay r.plan.path ≤ u.before.now ∧
      answer = u.before.store.read r.plan.path t ∨
    u.before.now < v.before.now + v.before.store.readDelay r.plan.path ∧
      v.before.now + o.readTimeout ≤ u.before.now ∧
      answer = .error (.timedOutAfter "read" o.readTimeout)

/-- The reads of a build, when it is asked for. -/
def Moment.planned (m : Moment) (ds : List Descriptor) : List PlannedRead :=
  ds.filterMap m.before.registry.read?

/-- A build has sent its reads, at `v` and all with one token, which the session returned. -/
structure HasSent (m : Moment) (ds : List Descriptor) (later : List Moment) (t : Token)
    (v : Moment) : Prop where
  replied : ∃ u ∈ later ++ [m], u.Replies m.before.nextId (.token t)
  sent : v ∈ later
  reads : v.readsSent m.before.nextId = (m.planned ds).map (·, t)
  once : readsSent later m.before.nextId = (m.planned ds).map (·, t)

/-- A read that was sent at `v` waits for its answer, or has made something of it. -/
structure Follows (m : Moment) (o : BuildOptions) (later : List Moment) (t : Token) (v : Moment)
    (index : Nat) (r : ReadSlot) : Prop where
  readyAt : r.readyAt = v.before.now + v.before.store.readDelay r.read.plan.path
  deadline : r.deadline = v.before.now + o.readTimeout
  outcome : ∀ result, r.outcome = some result → ∃ u answer, u ∈ later ∧
    u.EndsRead v m.before.nextId index o r.read t answer ∧ result = (r.read.layer o answer).1

/-- Where the build stands that was asked for at `m`, and what has happened since. -/
inductive Course (m : Moment) (goal : Goal) (o : BuildOptions) (ds : List Descriptor)
    (later : List Moment) (s : Agent) : Prop
  | dropped (gone : ∃ u ∈ later, u.act = .drop m.before.nextId)
      (unsent : ds.findSome? (m.before.registry.obstacle? o) ≠ none ∨ m.planned ds = [] →
        readsSent later m.before.nextId = [])
      (task : s.task? m.before.nextId = none)
  /-- A descriptor that has to be there does not resolve. -/
  | blocked {e : Error} (obstacle : ds.findSome? (m.before.registry.obstacle? o) = some e)
      (unsent : readsSent later m.before.nextId = [])
      (task : s.task? m.before.nextId = some (.work goal (.ended m.before.now (.failed e))))
  /-- There is nothing to read. -/
  | idle (clear : ds.findSome? (m.before.registry.obstacle? o) = none) (empty : m.planned ds = [])
      (unsent : readsSent later m.before.nextId = [])
      (task : s.task? m.before.nextId =
        some (.work goal (.ended m.before.now (goal.conclusion (.ok [])))))
  /-- It waits for a token. -/
  | obtaining {reply : Option Reply}
      (clear : ds.findSome? (m.before.registry.obstacle? o) = none) (needed : m.planned ds ≠ [])
      (replied : ∀ r, reply = some r →
        r ≠ .closed ∧ ∃ u ∈ later ++ [m], u.Replies m.before.nextId r)
      (unsent : readsSent later m.before.nextId = [])
      (task : s.task? m.before.nextId =
        some (.work goal (.obtaining o (m.planned ds) reply)))
  /-- It got none. -/
  | denied {reply : Reply} {endedAt : Instant}
      (clear : ds.findSome? (m.before.registry.obstacle? o) = none) (needed : m.planned ds ≠ [])
      (refused : ∀ t, reply ≠ .token t) (failed : reply ≠ .closed)
      (replied : ∃ u ∈ later ++ [m], u.Replies m.before.nextId reply)
      (unsent : readsSent later m.before.nextId = [])
      (task : s.task? m.before.nextId = some (.work goal (.ended endedAt reply.outcome)))
  /-- It waits for its reads. -/
  | reading {t : Token} {v : Moment} {slots : List ReadSlot}
      (clear : ds.findSome? (m.before.registry.obstacle? o) = none) (needed : m.planned ds ≠ [])
      (sent : HasSent m ds later t v) (reads : slots.map ReadSlot.read = m.planned ds)
      (follows : ∀ (index : Nat) r, slots[index]? = some r →
        Follows m o later t v index r)
      (task : s.task? m.before.nextId = some (.work goal (.reading o t slots)))
  /-- All of its reads have ended. -/
  | collected {t : Token} {v : Moment} {answers : List ReadAnswer} {endedAt : Instant}
      (clear : ds.findSome? (m.before.registry.obstacle? o) = none) (needed : m.planned ds ≠ [])
      (sent : HasSent m ds later t v) (complete : answers.length = (m.planned ds).length)
      (answered : ∀ (index : Nat) r answer, (m.planned ds)[index]? = some r →
        answers[index]? = some answer →
          ∃ u ∈ later, u.EndsRead v m.before.nextId index o r t answer)
      (task : s.task? m.before.nextId = some (.work goal (.ended endedAt
        (goal.conclusion (Build.collect (Build.results o (m.planned ds) answers))))))

/-! ## Moments at which others act -/

theorem readsSent_cons (unsent : w.readsSent id = []) (later : List Moment) :
    readsSent (w :: later) id = readsSent later id := by
  rw [readsSent, List.flatMap_cons, unsent]
  rfl

theorem HasSent.next (h : HasSent m ds later t v) (unsent : w.readsSent m.before.nextId = []) :
    HasSent m ds (w :: later) t v where
  replied := by
    obtain ⟨u, hu, replies⟩ := h.replied
    exact ⟨u, List.mem_cons_of_mem w hu, replies⟩
  sent := List.mem_cons_of_mem w h.sent
  reads := h.reads
  once := (readsSent_cons unsent later).trans h.once

theorem Follows.next {r : ReadSlot} (h : Follows m o later t v index r) (w : Moment) :
    Follows m o (w :: later) t v index r where
  readyAt := h.readyAt
  deadline := h.deadline
  outcome result hresult := by
    obtain ⟨u, answer, hu, ends, made⟩ := h.outcome result hresult
    exact ⟨u, answer, List.mem_cons_of_mem w hu, ends, made⟩

/-- A moment that does not touch the task of a build leaves it where it stands. -/
theorem Course.next (h : Course m goal o ds later s)
    (unsent : w.readsSent m.before.nextId = [])
    (task : s'.task? m.before.nextId = s.task? m.before.nextId) :
    Course m goal o ds (w :: later) s' := by
  have same := readsSent_cons unsent later
  -- the history grows at its front, so what has happened stays a member of it
  cases h with
  | dropped gone none task' =>
      obtain ⟨u, hu, drops⟩ := gone
      exact .dropped ⟨u, List.mem_cons_of_mem w hu, drops⟩ (fun h => same.trans (none h))
        (task.trans task')
  | blocked obstacle none task' => exact .blocked obstacle (same.trans none) (task.trans task')
  | idle clear empty none task' => exact .idle clear empty (same.trans none) (task.trans task')
  | obtaining clear needed replied none task' =>
      refine .obtaining clear needed (fun r hr => ?_) (same.trans none) (task.trans task')
      obtain ⟨failed, u, hu, replies⟩ := replied r hr
      exact ⟨failed, u, List.mem_cons_of_mem w hu, replies⟩
  | denied clear needed refused failed replied none task' =>
      obtain ⟨u, hu, replies⟩ := replied
      exact .denied clear needed refused failed ⟨u, List.mem_cons_of_mem w hu, replies⟩
        (same.trans none) (task.trans task')
  | reading clear needed sent reads follows task' =>
      exact .reading clear needed (sent.next unsent) reads
        (fun index r hr => (follows index r hr).next w) (task.trans task')
  | collected clear needed sent complete answered task' =>
      refine .collected clear needed (sent.next unsent) complete ?_ (task.trans task')
      intro index r answer hr hanswer
      obtain ⟨u, hu, ends⟩ := answered index r answer hr hanswer
      exact ⟨u, List.mem_cons_of_mem w hu, ends⟩

/-- Replies reach a build that waits for a token. -/
theorem takeReplies_obtaining (id : CallId) (events : List Event) (goal : Goal) (o : BuildOptions)
    (reads : List PlannedRead) (reply : Option Reply) :
    ∃ reply', (Task.work goal (.obtaining o reads reply)).takeReplies id events =
        .work goal (.obtaining o reads reply') ∧
      (reply' = reply ∨ ∃ r, reply' = some r ∧ .returned id r ∈ events) := by
  refine Task.takeReplies_keeps_of_returned (P := fun t => ∃ reply',
    t = .work goal (.obtaining o reads reply') ∧
      (reply' = reply ∨ ∃ r, reply' = some r ∧ .returned id r ∈ events)) ⟨reply, rfl, .inl rfl⟩ ?_
  rintro t r hmem ⟨reply', rfl, -⟩
  exact ⟨some r, rfl, .inr ⟨r, rfl, hmem⟩⟩

/-- An act that is not of the task sends no reads of it. -/
theorem readsSent_of_not_isOf (other : ¬ a.IsOf id s) :
    Moment.readsSent ⟨s, a, s'⟩ id = [] := by
  unfold Moment.readsSent
  split
  · rename_i caller goal o reads t hact htask
    have hact' : a = .move (.resume caller) := hact
    subst hact'
    have hne : caller ≠ id := fun h => other h.symm
    rw [if_neg hne]
  · rfl

/-- A step of the session sends no reads. -/
theorem readsSent_of_label? {l : Session.Label} (label : a.label? s = some l) :
    Moment.readsSent ⟨s, a, s'⟩ id = [] := by
  unfold Moment.readsSent
  split
  · rename_i caller goal o reads t hact htask
    have hact' : a = .move (.resume caller) := hact
    subst hact'
    exact nomatch label
  · rfl

/-- A step of the session may reply to a build. -/
theorem Course.steps (h : Course m goal o ds later s) (traced : Traced start trace none s)
    {l : Session.Label} {events : List Event} (steps : a.Steps s l events s') :
    Course m goal o ds (⟨s, a, s'⟩ :: later) s' := by
  have unsent : Moment.readsSent ⟨s, a, s'⟩ m.before.nextId = [] :=
    readsSent_of_label? steps.label
  have same {stage : Stage} (ht : s.task? m.before.nextId = some (.work goal stage))
      (deaf : ∀ reply, stage.deliver reply = stage) :
      s'.task? m.before.nextId = s.task? m.before.nextId := by
    have hdeaf (reply : Reply) : (Task.work goal stage).deliver reply = .work goal stage :=
      congrArg (Task.work goal) (deaf reply)
    rw [steps.task?, ht, Option.map_some, Task.takeReplies_eq_self hdeaf]
  have course := h
  cases h with
  | obtaining clear needed replied none ht =>
      rename_i reply
      obtain ⟨reply', htake, hfrom⟩ := takeReplies_obtaining m.before.nextId events goal o
        (m.planned ds) reply
      have ht' : s'.task? m.before.nextId =
          some (.work goal (.obtaining o (m.planned ds) reply')) := by
        rw [steps.task?, ht, ← htake]
        rfl
      refine .obtaining clear needed (fun r hr => ?_) ((readsSent_cons unsent later).trans none) ht'
      rcases hfrom with rfl | ⟨r', rfl, hmem⟩
      · obtain ⟨failed, u, hu, replies⟩ := replied r hr
        exact ⟨failed, u, List.mem_cons_of_mem _ hu, replies⟩
      · obtain rfl := Option.some.inj hr
        refine ⟨?_, _, List.mem_cons_self, replies_of_label? steps.label steps.step hmem⟩
        rintro rfl
        -- only who ends the session is told that it is closed, and a build waits for a token
        obtain ⟨revoke, hline⟩ := Session.mem_line_of_closed (Session.does_of_step steps.step) hmem
        have waits := (traced.line _ _).2 (.inl hline)
        rw [awaits?_of_task? ht, Task.awaits?_obtaining] at waits
        cases reply with
        | none => exact nomatch waits
        | some reply => exact nomatch waits
  | dropped _ _ ht =>
      refine course.next unsent ?_
      rw [steps.task?, ht]
      rfl
  | blocked _ _ ht | idle _ _ _ ht | denied _ _ _ _ _ _ ht | reading _ _ _ _ _ ht
  | collected _ _ _ _ _ ht => exact course.next unsent (same ht fun _ => rfl)

/-- The task of a build works, or was dropped. -/
theorem Course.task (h : Course m goal o ds later s) :
    s.task? m.before.nextId = none ∨
      ∃ stage, s.task? m.before.nextId = some (.work goal stage) := by
  cases h with
  | dropped _ _ task => exact .inl task
  | blocked _ _ task | idle _ _ _ task | obtaining _ _ _ _ task | denied _ _ _ _ _ _ task
  | reading _ _ _ _ _ task | collected _ _ _ _ _ task => exact .inr ⟨_, task⟩

/-- What others do leaves a build where it stands. -/
theorem Course.others (h : Course m goal o ds later s) (given : m.before.nextId < s.nextId)
    (outside : a.label? s = none) (other : ¬ a.IsOf m.before.nextId s)
    (step : s.act a = some s') : Course m goal o ds (⟨s, a, s'⟩ :: later) s' := by
  have keeps := keeps_of_act outside other step
  refine h.next (readsSent_of_not_isOf other) ?_
  rcases h.task with hnone | ⟨stage, hwork⟩
  · -- the identity was given once, so no scheduler can be started under it
    rw [hnone]
    exact keeps.none given hnone
  · rw [hwork]
    exact keeps.work hwork

end Agent

end SecretConfig
