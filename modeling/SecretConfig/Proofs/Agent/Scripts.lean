import SecretConfig.Proofs.Agent.BuildSteps
import SecretConfig.Proofs.Agent.StoreCalls

set_option autoImplicit false

/-! # Calls on a scripted store

While an agent acts, a script can change the store in memory below it: faults are put, delays set,
secrets exchanged. `ScriptedRun` are the runs of both, in any order. What has happened in such a run
fixes what stands in the store, and `Accounts` says how: the values that were revoked, the numbers
of the values that were issued, and for each kind of calls the faults that still wait. It is kept
by a step of a script (`Accounts.script`), by an act with which a call ends (`Accounts.finishes`)
and by all other acts (`Accounts.rests`). `ScriptedRun.store_calls` reads off what this means for
the calls of a run. -/

namespace SecretConfig

/-- A request that is given up leaves nothing in flight. -/
theorem Session.Does.inFlight_of_expire {s s' : Session} {now : Instant} {id : CallId}
    {events : List Event} (h : s.Does now (.expire id) s' events) (login : SessionRequest) :
    s'.inFlight login = [] := by
  cases h with
  | failLogin | keep | lose | crashRenewing | endRevocation => exact inFlight_release _ login

namespace Agent

variable {start s s' : Agent} {base m : MemoryStore} {id : CallId} {a : Act} {u : Moment}
  {trace : List Session.Moment} {call : StoreCall} {reply : StoreReply} {q : FaultQueue}

/-! ## Scripted runs -/

/-- What happens to an agent over a scripted store. -/
inductive Happening where
  | acted (u : Moment)
  | scripted (step : MemoryStore.Script)

variable {history past : List Happening} {e : Happening}

/-- The runs of an agent over a store in memory, the latest happening first. Steps of a script come
between the acts of the agent. -/
inductive ScriptedRun (start : Agent) : List Happening → Agent → Prop
  | start : ScriptedRun start [] start
  | act {past : List Happening} {s s' : Agent} {a : Act} (run : ScriptedRun start past s)
      (step : s.act a = some s') : ScriptedRun start (.acted ⟨s, a, s'⟩ :: past) s'
  | script {past : List Happening} {s : Agent} {m : MemoryStore} (run : ScriptedRun start past s)
      (memory : s.store = .memory m) (step : MemoryStore.Script) :
      ScriptedRun start (.scripted step :: past) { s with store := .memory (m.script step) }

namespace Happening

/-- The call that ends. -/
def finished? : Happening → Option (CallId × StoreCall × StoreReply)
  | acted u => u.finished?
  | scripted _ => none

/-- The value that a login issues which is not static. -/
def issued? (e : Happening) : Option String :=
  match e.finished? with
  | some (_, .login (.login _ _ _), .issued value) => some value
  | _ => none

/-- A task is dropped where it waits, with all of its calls. -/
def Drops (id : CallId) : Happening → Prop
  | acted u => u.act = .drop id ∧ u.before.task? id ≠ none
  | scripted _ => False

/-- The faults that a script has wait. -/
def queued (q : FaultQueue) : Happening → List StoreFault
  | acted _ => []
  | scripted step => step.queues q

/-- The fault that a call takes which ends. -/
def taken (q : FaultQueue) : Happening → List StoreFault
  | acted u =>
    match u.finished?, u.before.store with
    | some (_, call, _), .memory m =>
      if call.queue? = some q then (m.queue q).head?.toList else []
    | _, _ => []
  | scripted _ => []

end Happening

/-! ## Who has a call that ends -/

/-- Only a task that is there has calls that end. -/
theorem Traced.task_of_finished (traced : Traced start trace none s)
    (finished : Moment.finished? ⟨s, a, s'⟩ = some (id, call, reply)) : s.task? id ≠ none := by
  intro gone
  rcases Moment.of_finished finished with
    ⟨goal, readyAt, -, ht⟩ | ⟨r, -, hr⟩ | ⟨goal, o, t, slots, index, -, ht⟩
  · cases gone.symm.trans ht
  · -- the session waits for the answer, and so does the task
    have hcaller : r.caller = id := by simpa using List.find?_some hr
    obtain ⟨phase, holder, -⟩ := traced.active_of_answered (a := .move (.answer id)) hr
    have hline := Session.line_of_active holder
    have waits := (traced.line r.caller _).2 (.inl (hline ▸ List.mem_cons_self))
    rw [hcaller, awaits?, gone] at waits
    cases waits
  · cases gone.symm.trans ht

/-- A task that has gone does not come back. -/
theorem Traced.gone_of_act (traced : Traced start trace none s) (given : id < s.nextId)
    (gone : s.task? id = none) (step : s.act a = some s') : s'.task? id = none := by
  rcases traced.act step with ⟨l, events, steps, -⟩ | ⟨outside, -⟩
  · rw [steps.task?, gone]
    rfl
  · by_cases own : a.IsOf id s
    · cases own.own step with
      | spawns new => exact absurd new (Nat.ne_of_lt given)
      | drops dropped => rw [dropped, task?_drop, if_pos rfl]
      | reads reads => simp [Agent.stepRead, gone] at reads
      | works ht | turns ht => cases gone.symm.trans ht
    · exact (keeps_of_act outside own step).none given gone

/-! ## Accounts of the store -/

/-- The store agrees with what has happened to it. -/
structure Accounts (base : MemoryStore) (history : List Happening) (s : Agent) (m : MemoryStore) :
    Prop where
  store : s.store = .memory m
  revoked : ∀ e ∈ history, ∀ id t, e.finished? = some (id, .revoke t, .done) →
    t.value.value ∈ m.revoked
  issued : ∀ e ∈ history, ∀ value, e.issued? = some value →
    ∃ n ≤ m.logins, value = MemoryStore.issuedValue n
  queues : ∀ q, base.queue q ++ history.reverse.flatMap (·.queued q) =
    history.reverse.flatMap (·.taken q) ++ m.queue q

/-- What has happened is older than what happens now. -/
theorem flatMap_reverse_cons {β : Type} (f : Happening → List β) (e : Happening)
    (past : List Happening) :
    (e :: past).reverse.flatMap f = past.reverse.flatMap f ++ f e := by
  simp

theorem Accounts.script (h : Accounts base past s m) (step : MemoryStore.Script) :
    Accounts base (.scripted step :: past) { s with store := .memory (m.script step) }
      (m.script step) where
  store := rfl
  revoked e he id t finished := by
    rcases List.mem_cons.1 he with rfl | he
    · cases finished
    · rw [(m.tally_script step).1]
      exact h.revoked e he id t finished
  issued e he value hvalue := by
    rcases List.mem_cons.1 he with rfl | he
    · cases hvalue
    · rw [(m.tally_script step).2]
      exact h.issued e he value hvalue
  queues q := by
    rw [flatMap_reverse_cons, flatMap_reverse_cons, m.queue_script, ← List.append_assoc, h.queues]
    simp [Happening.queued, Happening.taken]

/-- Nothing happens to the store, but that paths are asked for. -/
theorem Accounts.rests (h : Accounts base past s m) (idle : u.finished? = none)
    {paths : List String} (store : s'.store = .memory { m with reads := m.reads ++ paths }) :
    Accounts base (.acted u :: past) s' { m with reads := m.reads ++ paths } where
  store := store
  revoked e he id t finished := by
    rcases List.mem_cons.1 he with rfl | he
    · cases idle.symm.trans finished
    · exact h.revoked e he id t finished
  issued e he value hvalue := by
    rcases List.mem_cons.1 he with rfl | he
    · simp [Happening.issued?, Happening.finished?, idle] at hvalue
    · exact h.issued e he value hvalue
  queues q := by
    have hqueue : MemoryStore.queue { m with reads := m.reads ++ paths } q = m.queue q := by
      cases q <;> rfl
    rw [flatMap_reverse_cons, flatMap_reverse_cons, hqueue, ← List.append_assoc, h.queues]
    simp [Happening.queued, Happening.taken, idle]

/-- A login that is not static has issued what it returns. -/
theorem Happening.login_of_issued {value : String} (issued : e.issued? = some value) :
    ∃ id method path body, e.finished? = some (id, .login (.login method path body),
      .issued value) := by
  unfold issued? at issued
  split at issued
  · rename_i id method path body value' finished
    obtain rfl := Option.some.inj issued
    exact ⟨id, method, path, body, finished⟩
  · cases issued

/-- What the login that ends has issued has its number. -/
theorem value_of_finished {value : String}
    (finished : u.finished? = some (id, call, (m.answer call).1))
    (issued : (Happening.acted u).issued? = some value) :
    value = MemoryStore.issuedValue (m.logins + 1) ∧ (m.answer call).2.logins = m.logins + 1 := by
  obtain ⟨id', method, path, body, hlogin⟩ := Happening.login_of_issued issued
  obtain ⟨-, rfl, hreply⟩ := finished?_unique finished hlogin
  exact MemoryStore.value_of_issued hreply

/-- A call ends. -/
theorem Accounts.finishes (h : Accounts base past s m) (before : u.before.store = .memory m)
    (finished : u.finished? = some (id, call, (m.answer call).1))
    (store : s'.store = .memory (m.answer call).2) :
    Accounts base (.acted u :: past) s' (m.answer call).2 where
  store := store
  revoked e he id' t finished' := by
    rw [m.revoked_answer, List.mem_append]
    rcases List.mem_cons.1 he with rfl | he
    · obtain ⟨-, rfl, -⟩ := finished?_unique finished finished'
      exact .inr List.mem_cons_self
    · exact .inl (h.revoked e he id' t finished')
  issued e he value hvalue := by
    rcases List.mem_cons.1 he with rfl | he
    · obtain ⟨rfl, hlogins⟩ := value_of_finished finished hvalue
      exact ⟨m.logins + 1, Nat.le_of_eq hlogins.symm, rfl⟩
    · obtain ⟨n, hn, rfl⟩ := h.issued e he value hvalue
      exact ⟨n, Nat.le_trans hn (m.logins_le_answer call), rfl⟩
  queues q := by
    have htaken : (Happening.acted u).taken q ++ (m.answer call).2.queue q = m.queue q := by
      rw [m.queue_answer]
      simp only [Happening.taken, finished, before]
      split
      · cases m.queue q <;> rfl
      · rfl
    rw [flatMap_reverse_cons, flatMap_reverse_cons, List.append_assoc, htaken, ← h.queues]
    simp [Happening.queued]

/-- What a scripted run keeps. -/
structure Booked (start : Agent) (base : MemoryStore) (history : List Happening) (s : Agent) :
    Prop where
  accounts : ∃ m, Accounts base history s m
  traced : ∃ trace, Traced start trace none s
  dropped : ∀ e ∈ history, ∀ id, e.Drops id → id < s.nextId ∧ s.task? id = none

theorem ScriptedRun.booked (run : ScriptedRun start history s) (fresh : start.IsFresh)
    (memory : start.store = .memory base) : Booked start base history s := by
  induction run with
  | start =>
      have accounts : Accounts base [] start base :=
        ⟨memory, fun e he => absurd he List.not_mem_nil, fun e he => absurd he List.not_mem_nil,
          fun q => by simp⟩
      exact ⟨⟨base, accounts⟩, ⟨[], fresh.traced⟩, fun e he => absurd he List.not_mem_nil⟩
  | script run memory' step ih =>
      obtain ⟨⟨m, accounts⟩, ⟨trace, traced⟩, dropped⟩ := ih
      obtain rfl := Store.memory.inj (memory'.symm.trans accounts.store)
      refine ⟨⟨_, accounts.script step⟩, ⟨trace, traced.withStore _⟩, fun e he id drops => ?_⟩
      rcases List.mem_cons.1 he with rfl | he
      · exact drops.elim
      · exact dropped e he id drops
  | @act past s s' a run step ih =>
      obtain ⟨⟨m, accounts⟩, ⟨trace, traced⟩, dropped⟩ := ih
      refine ⟨?_, ?_, fun e he id drops => ?_⟩
      · cases serves_of_act accounts.store step with
        | finishes id call finished store =>
            exact ⟨_, accounts.finishes accounts.store finished store⟩
        | rests idle noted =>
            obtain ⟨paths, store⟩ := noted
            exact ⟨_, accounts.rests idle store⟩
      · rcases traced.act step with ⟨l, events, -, next⟩ | ⟨-, calls, next, -⟩
        · exact ⟨_, next⟩
        · exact ⟨_, next⟩
      · have given {id : CallId} (h : id < s.nextId) : id < s'.nextId :=
          Nat.lt_of_lt_of_le h (advances_of_act step).nextId
        rcases List.mem_cons.1 he with rfl | he
        · obtain ⟨act, there⟩ := drops
          obtain rfl : a = .drop id := act
          obtain rfl := Option.some.inj step
          obtain ⟨t, ht⟩ := Option.ne_none_iff_exists'.1 there
          exact ⟨given (traced.given ht), by rw [task?_drop, if_pos rfl]⟩
        · obtain ⟨hgiven, gone⟩ := dropped e he id drops
          exact ⟨given hgiven, traced.gone_of_act hgiven gone step⟩

/-! ## What the calls of a run do -/

/-- A run up to one of its acts. -/
theorem ScriptedRun.upTo (run : ScriptedRun start history s) (hu : .acted u ∈ history) :
    ∃ past, ScriptedRun start past u.before ∧ u.before.act u.act = some u.after := by
  induction run with
  | start => exact absurd hu List.not_mem_nil
  | script run memory step ih =>
      rcases List.mem_cons.1 hu with heq | hu
      · cases heq
      · exact ih hu
  | act run step ih =>
      rcases List.mem_cons.1 hu with heq | hu
      · obtain rfl := Happening.acted.inj heq
        exact ⟨_, run, step⟩
      · exact ih hu

/-- The reply to a call is that of the store as it is when the call ends. -/
theorem reply_of_finished (memory : s.store = .memory m) (step : s.act a = some s')
    (finished : Moment.finished? ⟨s, a, s'⟩ = some (id, call, reply)) :
    reply = (m.answer call).1 ∧ s'.store = .memory (m.answer call).2 := by
  cases serves_of_act memory step with
  | finishes id' call' finished' store =>
      obtain ⟨-, rfl, rfl⟩ := finished?_unique finished finished'
      exact ⟨rfl, store⟩
  | rests idle => cases idle.symm.trans finished

/-- What was revoked is refused from then on. -/
theorem ScriptedRun.refuses_revoked (run : ScriptedRun start history s) (fresh : start.IsFresh)
    (memory : start.store = .memory base) :
    history.Pairwise fun e earlier => ∀ id t, earlier.finished? = some (id, .revoke t, .done) →
      ∀ id' call reply, e.finished? = some (id', call, reply) →
        call.presents? = some t.value.value → ∃ fault, reply = .refused fault := by
  induction run with
  | start => exact .nil
  | script run memory' step ih =>
      refine .cons (fun _ _ _ _ _ _ _ _ finished => ?_) ih
      cases finished
  | act run step ih =>
      obtain ⟨m, accounts⟩ := (run.booked fresh memory).accounts
      refine .cons (fun e he id t revoked id' call reply finished presents => ?_) ih
      rw [(reply_of_finished accounts.store step finished).1]
      exact MemoryStore.refused_of_presents presents (accounts.revoked e he id t revoked)

/-- No value is issued twice. -/
theorem ScriptedRun.issues_once (run : ScriptedRun start history s) (fresh : start.IsFresh)
    (memory : start.store = .memory base) : (history.filterMap Happening.issued?).Nodup := by
  induction run with
  | start => exact List.nodup_nil
  | script run memory' step ih =>
      rw [List.filterMap_cons_none rfl]
      exact ih
  | @act past s s' a run step ih =>
      obtain ⟨m, accounts⟩ := (run.booked fresh memory).accounts
      cases hvalue : (Happening.acted ⟨s, a, s'⟩).issued? with
      | none =>
          rw [List.filterMap_cons_none hvalue]
          exact ih
      | some value =>
          rw [List.filterMap_cons_some hvalue, List.nodup_cons]
          refine ⟨fun hmem => ?_, ih⟩
          obtain ⟨id, method, path, body, hlogin⟩ := Happening.login_of_issued hvalue
          obtain ⟨hreply, -⟩ := reply_of_finished accounts.store step hlogin
          obtain ⟨hnew, -⟩ := MemoryStore.value_of_issued hreply.symm
          -- all values that were issued before have lower numbers
          obtain ⟨e, he, hold⟩ := List.mem_filterMap.1 hmem
          obtain ⟨n, hn, heq⟩ := accounts.issued e he value hold
          have hsame := MemoryStore.issuedValue_injective (hnew.symm.trans heq)
          omega

/-- What was dropped does not end. -/
theorem ScriptedRun.keeps_dropped (run : ScriptedRun start history s) (fresh : start.IsFresh)
    (memory : start.store = .memory base) :
    history.Pairwise fun e earlier => ∀ id, earlier.Drops id →
      ∀ call reply, e.finished? ≠ some (id, call, reply) := by
  induction run with
  | start => exact .nil
  | script run memory' step ih =>
      refine .cons (fun _ _ _ _ _ _ finished => ?_) ih
      cases finished
  | act run step ih =>
      obtain ⟨-, ⟨trace, traced⟩, dropped⟩ := run.booked fresh memory
      exact .cons (fun e he id drops call reply finished =>
        traced.task_of_finished finished (dropped e he id drops).2) ih

/-- When a request is given up, nothing is in flight. -/
theorem requests_of_expire (traced : Traced start trace none s)
    (step : s.act (.move (.expire id)) = some s') : s'.requests = [] := by
  rcases traced.act step with ⟨l, events, steps, next⟩ | ⟨outside, -⟩
  · obtain rfl : Session.Label.expire id = l := Option.some.inj steps.label
    have hsent := next.sent
    rw [(Session.does_of_step steps.step).inFlight_of_expire] at hsent
    exact List.map_eq_nil_iff.1 hsent
  · cases outside

/-- **Calls on a store in memory.** A run starts with an agent that is fresh, over any store in
memory; calls of tasks, of the session and of builds go on at the same time, scripts step in
between, and anything may be dropped or given up.

* When a value was revoked, no call that presents it and ends later succeeds, whenever it was
  started.
* The values that logins have issued which are not static are all different.
* At each act at most one call ends. It takes the first of the faults that wait for its kind, if
  there is one, and then fails with it; it takes no other. If no call ends, nothing has changed in
  the store, but that paths may have been asked for.
* Faults are taken in the order in which they were put: those at the start and those of the script
  are those that were taken, and then those that still wait.
* No call of a task ends after the task was dropped, and when a request is given up, none is in
  flight any more. -/
theorem ScriptedRun.store_calls (run : ScriptedRun start history s) (fresh : start.IsFresh)
    (memory : start.store = .memory base) :
    (history.Pairwise fun e earlier => ∀ id t, earlier.finished? = some (id, .revoke t, .done) →
      ∀ id' call reply, e.finished? = some (id', call, reply) →
        call.presents? = some t.value.value → ∃ fault, reply = .refused fault) ∧
    (history.filterMap Happening.issued?).Nodup ∧
    (∀ u, .acted u ∈ history → ∃ m m', u.before.store = .memory m ∧ u.after.store = .memory m' ∧
      ((∃ id call reply, u.finished? = some (id, call, reply) ∧
          ∀ q, m'.queue q = (if call.queue? = some q then (m.queue q).tail else m.queue q) ∧
            (call.queue? = some q → ∀ fault ∈ (m.queue q).head?, reply = .refused fault)) ∨
        u.finished? = none ∧ ∃ paths, m' = { m with reads := m.reads ++ paths })) ∧
    (∃ m, s.store = .memory m ∧ ∀ q,
      base.queue q ++ history.reverse.flatMap (·.queued q) =
        history.reverse.flatMap (·.taken q) ++ m.queue q) ∧
    (history.Pairwise fun e earlier => ∀ id, earlier.Drops id →
      ∀ call reply, e.finished? ≠ some (id, call, reply)) ∧
    ∀ u, .acted u ∈ history → ∀ id, u.act = .move (.expire id) → u.after.requests = [] := by
  refine ⟨run.refuses_revoked fresh memory, run.issues_once fresh memory, fun u hu => ?_, ?_,
    run.keeps_dropped fresh memory, fun u hu id act => ?_⟩
  · obtain ⟨past, earlier, step⟩ := run.upTo hu
    obtain ⟨m, accounts⟩ := (earlier.booked fresh memory).accounts
    cases serves_of_act accounts.store step with
    | finishes id call finished store =>
        exact ⟨m, _, accounts.store, store, .inl ⟨id, call, _, finished, fun q =>
          ⟨m.queue_answer call q, fun hq fault waits => MemoryStore.refused_of_waiting hq waits⟩⟩⟩
    | rests idle noted =>
        obtain ⟨paths, store⟩ := noted
        exact ⟨m, _, accounts.store, store, .inr ⟨idle, paths, rfl⟩⟩
  · obtain ⟨m, accounts⟩ := (run.booked fresh memory).accounts
    exact ⟨m, accounts.store, accounts.queues⟩
  · obtain ⟨past, earlier, step⟩ := run.upTo hu
    obtain ⟨trace, traced⟩ := (earlier.booked fresh memory).traced
    exact requests_of_expire traced (act ▸ step)

/-- A scripted run goes on with the possible ones of some steps. -/
def play (s : Agent) (history : List Happening) :
    List (MemoryStore.Script ⊕ Act) → Agent × List Happening
  | [] => (s, history)
  | .inl step :: rest =>
    match s.store with
    | .memory m =>
      play { s with store := .memory (m.script step) } (.scripted step :: history) rest
    | .remote _ _ => play s history rest
  | .inr a :: rest =>
    match s.act a with
    | some s' => play s' (.acted ⟨s, a, s'⟩ :: history) rest
    | none => play s history rest

theorem ScriptedRun.play (run : ScriptedRun start history s)
    (steps : List (MemoryStore.Script ⊕ Act)) :
    ScriptedRun start (play s history steps).2 (play s history steps).1 := by
  induction steps generalizing s history with
  | nil => exact run
  | cons step rest ih =>
      cases step with
      | inl step =>
          unfold Agent.play
          split
          · rename_i m memory
            exact ih (run.script memory step)
          · exact ih run
      | inr a =>
          unfold Agent.play
          split
          · rename_i s' hact
            exact ih (run.act hact)
          · exact ih run

/-- A store in which renewals take half a second. -/
def racingStore : MemoryStore := { renewalDelay := 500 }

def racingStart : Agent := overMemory racingStore

def racingStrategy : Strategy := .appRole "approle" "role" (some ⟨"secret"⟩)

/-- The token of the second login. -/
def racingToken : Token := ⟨⟨"mem-token-2"⟩, 60000, true, 0, .login⟩

def sealed : StoreFault := .unavailable "sealed"

/-- Of three logins the first fails. A renewal is dropped; the token of the next is revoked while
it waits. -/
def racing : Agent × List Happening :=
  play racingStart []
    [.inl (.failLogin sealed), .inr (.spawn (.login racingStrategy)), .inr (.move (.resume 0)),
      .inr (.spawn (.login racingStrategy)), .inr (.move (.resume 1)),
      .inr (.spawn (.login racingStrategy)), .inr (.move (.resume 2)),
      .inl (.failRenewals 1 sealed), .inr (.spawn (.renew racingToken)), .inr (.drop 3),
      .inr (.spawn (.renew racingToken)), .inr (.spawn (.renew racingToken)),
      .inr (.spawn (.revoke racingToken)), .inr (.move (.resume 6)), .inr (.move (.pass 500)),
      .inr (.move (.resume 4)), .inr (.move (.resume 5))]

theorem store_calls_racing :
    racingStart.IsFresh ∧ racingStart.store = .memory racingStore ∧
      ScriptedRun racingStart racing.2 racing.1 ∧
      racing.2[3]?.bind Happening.finished? = some (6, .revoke racingToken, .done) ∧
      (∃ reply, racing.2[0]?.bind Happening.finished? = some (5, .renew racingToken, reply) ∧
        ∃ fault, reply = .refused fault) ∧
      racing.2.filterMap Happening.issued? = ["mem-token-3", "mem-token-2"] ∧
      (racing.2.filterMap Happening.issued?).Nodup ∧
      racing.2.reverse.flatMap (·.queued .renewals) = [sealed] ∧
      racing.2.reverse.flatMap (·.taken .renewals) = [sealed] ∧
      ∃ m, racing.1.store = .memory m ∧ ∀ q,
        racing.2.reverse.flatMap (·.queued q) =
          racing.2.reverse.flatMap (·.taken q) ++ m.queue q := by
  have run : ScriptedRun racingStart racing.2 racing.1 := ScriptedRun.start.play _
  obtain ⟨refused, nodup, -, ⟨m, hm, inOrder⟩, -⟩ :=
    run.store_calls (isFresh_overMemory _) rfl
  have revoked : racing.2[3]?.bind Happening.finished? =
      some (6, .revoke racingToken, .done) := by decide +kernel
  have ended : racing.2[0]?.bind Happening.finished? =
      some (5, .renew racingToken, .refused MemoryStore.refusal) := by decide +kernel
  refine ⟨isFresh_overMemory _, rfl, run, revoked, ⟨_, ended, ?_⟩, by decide +kernel, nodup,
    by decide +kernel, by decide +kernel, m, hm, fun q => ?_⟩
  · obtain ⟨earlier, hearlier, revoked⟩ := Option.bind_eq_some_iff.1 revoked
    obtain ⟨e, he, ended⟩ := Option.bind_eq_some_iff.1 ended
    obtain ⟨hlast, rfl⟩ := List.getElem?_eq_some_iff.1 hearlier
    obtain ⟨hfirst, rfl⟩ := List.getElem?_eq_some_iff.1 he
    exact List.pairwise_iff_getElem.1 refused 0 3 hfirst hlast (by decide) _ _ revoked _ _ _ ended
      rfl
  · cases q with
    | logins => exact inOrder .logins
    | renewals => exact inOrder .renewals

end Agent

end SecretConfig
