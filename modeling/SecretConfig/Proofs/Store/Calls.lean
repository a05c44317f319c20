import SecretConfig.Proofs.Store.Memory

set_option autoImplicit false

/-! # Calls on a store in memory

A call on a store ends with a reply, and `MemoryStore.answer` says which, and what becomes of the
store, all calls alike. What follows holds of each call, whenever it was started: it is refused if
it presents a value that was revoked (`MemoryStore.refused_of_presents`), it takes the first of the
faults that wait for its kind (`MemoryStore.queue_answer`), and the value that it issues has the
number of its login (`MemoryStore.value_of_issued`). Scripts put faults at the end
(`MemoryStore.queue_script`). -/

namespace SecretConfig

/-- A call on a store. -/
inductive StoreCall where
  | login (flow : LoginFlow)
  | renew (t : Token)
  | revoke (t : Token)
  | read (path : String) (t : Token)
  | write (path : String) (t : Token) (data : Dict Json)
deriving DecidableEq

/-- What a call on a store returns; of a token that is its value. -/
inductive StoreReply where
  | issued (value : String)
  | done
  | found (p : Option Payload)
  | refused (fault : StoreFault)
deriving DecidableEq

/-- The kinds of calls for which faults can wait. -/
inductive FaultQueue where
  | logins
  | renewals
deriving DecidableEq

namespace StoreReply

/-- The reply to a login or a renewal. -/
def ofGrant : Except StoreFault Grant → StoreReply
  | .ok g => .issued g.value
  | .error fault => .refused fault

/-- The reply to a revocation or a write. -/
def ofUnit : Except StoreFault Unit → StoreReply
  | .ok _ => .done
  | .error fault => .refused fault

/-- The reply to a read. -/
def ofRead : ReadAnswer → StoreReply
  | .ok p => .found p
  | .error fault => .refused fault

end StoreReply

namespace StoreCall

/-- The value that a call presents to be let in. A login presents one if it is static, and a
revocation is let in with any. -/
def presents? : StoreCall → Option String
  | login (.static v) => some v.value
  | login (.login _ _ _) | revoke _ => none
  | renew t | read _ t | write _ t _ => some t.value.value

/-- The values that a call revokes. -/
def revokes : StoreCall → List String
  | revoke t => [t.value.value]
  | login _ | renew _ | read _ _ | write _ _ _ => []

/-- The faults that a call takes from. -/
def queue? : StoreCall → Option FaultQueue
  | login _ => some .logins
  | renew _ => some .renewals
  | revoke _ | read _ _ | write _ _ _ => none

end StoreCall

namespace MemoryStore

variable {m : MemoryStore} {call : StoreCall} {value : String} {fault : StoreFault}

/-- The faults that wait for a kind of calls, the next one first. -/
def queue (m : MemoryStore) : FaultQueue → List StoreFault
  | .logins => m.loginFailures
  | .renewals => m.renewalFailures

/-- The faults that a step of a script has wait. -/
def Script.queues (q : FaultQueue) : Script → List StoreFault
  | failLogin fault => if q = .logins then [fault] else []
  | failRenewals count fault => if q = .renewals then List.replicate count fault else []
  | failReads _ _ | delayLogins _ | delayRenewals _ | delayReads _ _ | insert _ _ | remove _ => []

/-- The reply to a call that ends, and the store after it. -/
def answer (m : MemoryStore) : StoreCall → StoreReply × MemoryStore
  | .login flow => (.ofGrant (m.login flow).1, (m.login flow).2)
  | .renew t => (.ofGrant (m.renew t).1, (m.renew t).2)
  | .revoke t => (.done, m.revoke t)
  | .read path t => (.ofRead (m.read path t), m)
  | .write path t data => (.ofUnit (m.write path t data).1, (m.write path t data).2)

/-! ## What calls leave of the store -/

/-- A login counts, and takes the fault that waits for it. -/
theorem login_eq (m : MemoryStore) (flow : LoginFlow) :
    (m.login flow).2 =
      { m with logins := m.logins + 1, loginFailures := m.loginFailures.tail } := by
  cases hqueue : m.loginFailures with
  | nil => cases flow <;> simp [login, hqueue]
  | cons fault rest => simp [login, hqueue]

/-- A renewal counts, and takes the fault that waits for it. -/
theorem renew_eq (m : MemoryStore) (t : Token) :
    (m.renew t).2 =
      { m with renewals := m.renewals + 1, renewalFailures := m.renewalFailures.tail } := by
  cases hqueue : m.renewalFailures with
  | nil =>
      simp only [renew, hqueue]
      split
      · simp
      · split <;> simp
  | cons fault rest => simp [renew, hqueue]

/-- A write changes secrets only. -/
theorem write_eq (m : MemoryStore) (path : String) (t : Token) (data : Dict Json) :
    ∃ secrets, (m.write path t data).2 = { m with secrets } := by
  unfold write
  split
  · exact ⟨m.secrets, rfl⟩
  · exact ⟨_, rfl⟩

/-- A call revokes what it is to revoke, and nothing is taken back. -/
theorem revoked_answer (m : MemoryStore) (call : StoreCall) :
    (m.answer call).2.revoked = m.revoked ++ call.revokes := by
  cases call with
  | login flow => simp [answer, login_eq, StoreCall.revokes]
  | renew t => simp [answer, renew_eq, StoreCall.revokes]
  | revoke t => rfl
  | read path t => simp [answer, StoreCall.revokes]
  | write path t data =>
      obtain ⟨secrets, hstore⟩ := m.write_eq path t data
      simp [answer, hstore, StoreCall.revokes]

theorem logins_le_answer (m : MemoryStore) (call : StoreCall) :
    m.logins ≤ (m.answer call).2.logins := by
  cases call with
  | login flow => simp [answer, login_eq]
  | renew t => simp [answer, renew_eq]
  | revoke t => exact Nat.le_refl _
  | read path t => exact Nat.le_refl _
  | write path t data =>
      obtain ⟨secrets, hstore⟩ := m.write_eq path t data
      simp [answer, hstore]

/-- A call takes the first of the faults that wait for its kind, and no other. -/
theorem queue_answer (m : MemoryStore) (call : StoreCall) (q : FaultQueue) :
    (m.answer call).2.queue q = if call.queue? = some q then (m.queue q).tail else m.queue q := by
  cases call with
  | login flow => cases q <;> simp [answer, login_eq, queue, StoreCall.queue?]
  | renew t => cases q <;> simp [answer, renew_eq, queue, StoreCall.queue?]
  | revoke t => cases q <;> rfl
  | read path t => cases q <;> rfl
  | write path t data =>
      obtain ⟨secrets, hstore⟩ := m.write_eq path t data
      cases q <;> simp [answer, hstore, queue, StoreCall.queue?]

/-- A step of a script puts its faults at the end of those that wait. -/
theorem queue_script (m : MemoryStore) (step : Script) (q : FaultQueue) :
    (m.script step).queue q = m.queue q ++ step.queues q := by
  cases step <;> cases q <;> simp [script, queue, Script.queues, insert, remove]

/-- A script neither revokes nor issues. -/
theorem tally_script (m : MemoryStore) (step : Script) :
    (m.script step).revoked = m.revoked ∧ (m.script step).logins = m.logins := by
  cases step <;> exact ⟨rfl, rfl⟩

/-! ## Replies -/

/-- The fault that waits is the reply. -/
theorem refused_of_waiting {q : FaultQueue} (hq : call.queue? = some q)
    (waits : (m.queue q).head? = some fault) : (m.answer call).1 = .refused fault := by
  cases call with
  | login flow =>
      obtain rfl := Option.some.inj hq
      cases hqueue : m.loginFailures with
      | nil => simp [queue, hqueue] at waits
      | cons first rest =>
          obtain rfl : first = fault := by simpa [queue, hqueue] using waits
          simp [answer, login, hqueue, StoreReply.ofGrant]
  | renew t =>
      obtain rfl := Option.some.inj hq
      cases hqueue : m.renewalFailures with
      | nil => simp [queue, hqueue] at waits
      | cons first rest =>
          obtain rfl : first = fault := by simpa [queue, hqueue] using waits
          simp [answer, renew, hqueue, StoreReply.ofGrant]
  | revoke | read | write => cases hq

/-- **A call that presents a revoked value is refused**: by a fault that waits for it, or because
the value was revoked. -/
theorem refused_of_presents (presents : call.presents? = some value) (revoked : value ∈ m.revoked) :
    ∃ fault, (m.answer call).1 = .refused fault := by
  have waiting (q : FaultQueue) (hq : call.queue? = some q) (hne : m.queue q ≠ []) :
      ∃ fault, (m.answer call).1 = .refused fault :=
    ⟨(m.queue q).head hne, refused_of_waiting hq (List.head?_eq_some_head hne)⟩
  cases call with
  | login flow =>
      cases flow with
      | static v =>
          obtain rfl := Option.some.inj presents
          by_cases hempty : m.loginFailures = []
          · exact ⟨refusal, by simp [answer, login, hempty, isRevoked, revoked, StoreReply.ofGrant]⟩
          · exact waiting .logins rfl hempty
      | login method path body => cases presents
  | renew t =>
      obtain rfl := Option.some.inj presents
      by_cases hempty : m.renewalFailures = []
      · exact ⟨refusal, by simp [answer, renew, hempty, isRevoked, revoked, StoreReply.ofGrant]⟩
      · exact waiting .renewals rfl hempty
  | revoke t => cases presents
  | read path t =>
      obtain rfl := Option.some.inj presents
      cases hfault : m.readFailures.get? path with
      | none =>
          refine ⟨refusal, ?_⟩
          simp [answer, read, hfault, isRevoked, revoked, StoreReply.ofRead]
      | some fault => exact ⟨fault, by simp [answer, read, hfault, StoreReply.ofRead]⟩
  | write path t data =>
      obtain rfl := Option.some.inj presents
      exact ⟨refusal, by simp [answer, write, isRevoked, revoked, StoreReply.ofUnit]⟩

/-- What a static login grants has the value that was presented. -/
theorem value_of_static {v : Secret} {g : Grant} (granted : (m.login (.static v)).1 = .ok g) :
    g.value = v.value := by
  cases hqueue : m.loginFailures with
  | nil =>
      simp only [login, hqueue] at granted
      split at granted
      · cases granted
      · rw [← Except.ok.inj granted, grant]
  | cons fault rest => simp [login, hqueue] at granted

/-- What a renewal grants has the value of the token. -/
theorem value_of_renewed {t : Token} {g : Grant} (granted : (m.renew t).1 = .ok g) :
    g.value = t.value.value := by
  cases hqueue : m.renewalFailures with
  | nil =>
      simp only [renew, hqueue] at granted
      split at granted
      · cases granted
      · split at granted
        · rw [← Except.ok.inj granted]
        · cases granted
  | cons fault rest => simp [renew, hqueue] at granted

/-- The value that a login issues has the number of this login. -/
theorem value_of_issued {method : AuthMethod} {path : String} {body : Dict Json}
    (issued : (m.answer (.login (.login method path body))).1 = .issued value) :
    value = issuedValue (m.logins + 1) ∧
      (m.answer (.login (.login method path body))).2.logins = m.logins + 1 := by
  refine ⟨?_, (m.login_tally _).2⟩
  cases hqueue : m.loginFailures with
  | nil =>
      simp only [answer, login, hqueue, grant, StoreReply.ofGrant,
        StoreReply.issued.injEq] at issued
      exact issued.symm
  | cons fault rest => simp [answer, login, hqueue, StoreReply.ofGrant] at issued

end MemoryStore

end SecretConfig
