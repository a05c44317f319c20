import Mathlib.Data.List.Basic
import SecretConfig.Proofs.Vault.Exchanges

set_option autoImplicit false

/-! # What an answer says about a secret

A read is answered with a status and a body. `SaysNothing` and `SaysSecret` list the answers by
which there is no secret, and those that hold one, for both layouts. A body holds a secret if it is
the text of an envelope (`Conveys`) with an object as its data.

`PlannedRead.heeds_answer` says what a build makes of each answer: what is missing or forbidden
contributes nothing, unless the backend has to be there, a secret contributes its properties, and
every other answer is an error. -/

namespace SecretConfig

open Json (Document)

namespace Vault

variable {d : Document} {e : Envelope} {c : Client} {net : Network} {path : String} {t : Token}
  {request : HttpRequest} {status : Nat} {bytes : ByteArray} {layout : PayloadLayout}

/-! ## Envelopes -/

/-- The names of the members of an envelope, in order. -/
def Envelope.memberNames : List String :=
  ["data", "auth", "lease_id", "lease_duration", "renewable"]

/-- The member of an envelope that holds the data, if there is one. -/
def dataOf? (d : Document) : Option Document :=
  ((members? Envelope.memberNames d).bind fun members => members[0]?).join

/-- An envelope is read member by member. -/
theorem members_of_ofDocument? (h : Envelope.ofDocument? d = some e) :
    ∃ auth leaseId lease renewable,
      members? Envelope.memberNames d = some [dataOf? d, auth, leaseId, lease, renewable] ∧
      orNull value? (dataOf? d) = some e.data ∧
      orNull AuthBlock.ofDocument? auth = some e.auth ∧
      orDefault "" text? leaseId = some e.leaseId ∧
      orDefault 0 nat? lease = some e.leaseSeconds ∧
      orDefault false bool? renewable = some e.renewable := by
  unfold Envelope.ofDocument? at h
  obtain ⟨members, hmembers, h⟩ := Option.bind_eq_some_iff.1 h
  split at h
  · rename_i data auth leaseId lease renewable
    obtain ⟨data', hdata, h⟩ := Option.bind_eq_some_iff.1 h
    obtain ⟨auth', hauth, h⟩ := Option.bind_eq_some_iff.1 h
    obtain ⟨leaseId', hid, h⟩ := Option.bind_eq_some_iff.1 h
    obtain ⟨lease', hlease, h⟩ := Option.bind_eq_some_iff.1 h
    obtain ⟨renewable', hrenewable, h⟩ := Option.bind_eq_some_iff.1 h
    obtain rfl := Option.some.inj h
    have hdataOf : dataOf? d = data := by
      rw [dataOf?, Envelope.memberNames, hmembers]
      rfl
    rw [hdataOf]
    exact ⟨auth, leaseId, lease, renewable, hmembers, hdata, hauth, hid, hlease, hrenewable⟩
  · exact nomatch h

/-- A member that may be left out is none if it is absent or null, and is read otherwise. -/
theorem orNull_eq_some_iff {α : Type} {read : Document → Option α} {member : Option Document}
    {found : Option α} :
    orNull read member = some found ↔
      (member = none ∨ member = some .null) ∧ found = none ∨
        ∃ d v, member = some d ∧ d ≠ .null ∧ read d = some v ∧ found = some v := by
  cases member with
  | none => simp [orNull, eq_comm]
  | some d =>
      by_cases hnull : d = .null
      · subst hnull
        simp [orNull, eq_comm]
      · have hread : orNull read (some d) = (read d).map some := by
          cases d with
          | null => exact absurd rfl hnull
          | bool | num | str | arr | obj => rfl
        simp [hread, hnull, eq_comm]

/-- An envelope has no data if they are absent or null. -/
theorem data_eq_none_iff (h : Envelope.ofDocument? d = some e) :
    e.data = none ↔ dataOf? d = none ∨ dataOf? d = some .null := by
  obtain ⟨-, -, -, -, -, hdata, -⟩ := members_of_ofDocument? h
  rcases orNull_eq_some_iff.1 hdata with ⟨absent, hnone⟩ | ⟨data, v, hmember, hnull, -, hsome⟩
  · exact ⟨fun _ => absent, fun _ => hnone⟩
  · simp [hsome, hmember, hnull]

/-- Data that an envelope has are the value of its member. -/
theorem value_of_data {v : Json} (h : Envelope.ofDocument? d = some e) (hv : e.data = some v) :
    ∃ data, dataOf? d = some data ∧ data ≠ .null ∧ data.value? = some v := by
  obtain ⟨-, -, -, -, -, hdata, -⟩ := members_of_ofDocument? h
  rcases orNull_eq_some_iff.1 hdata with ⟨-, hnone⟩ | ⟨data, v', hmember, hnull, hread, hsome⟩
  · exact nomatch hnone.symm.trans hv
  · obtain rfl := Option.some.inj (hsome.symm.trans hv)
    unfold value? at hread
    split at hread
    · exact ⟨data, hmember, hnull, hread⟩
    · exact nomatch hread

/-- Only null has the value null. -/
theorem eq_null_of_value? (h : d.value? = some .null) : d = .null := by
  cases d with
  | null => rfl
  | bool | num | str | arr => simp [Document.value?] at h
  | obj fields =>
      obtain ⟨members, -, hobject⟩ := Option.map_eq_some_iff.1 h
      exact nomatch hobject

/-- Data that are there are not null. -/
theorem data_ne_null (h : Envelope.ofDocument? d = some e) : e.data ≠ some .null := by
  intro hdata
  obtain ⟨data, -, hnull, hvalue⟩ := value_of_data h hdata
  exact hnull (eq_null_of_value? hvalue)

/-- The lease that an envelope tells of. -/
def Envelope.lease? (e : Envelope) : Option Lease :=
  if e.leaseId ≠ "" ∨ 0 < e.leaseSeconds then
    some ⟨e.leaseId, e.leaseSeconds * 1000, e.renewable⟩
  else none

/-! ## Answers -/

/-- The body is the JSON text of an envelope. -/
structure Conveys (bytes : ByteArray) (d : Document) (e : Envelope) : Prop where
  text : Document.read? (bodyText bytes) = some d
  envelope : Envelope.ofDocument? d = some e

theorem ofBytes?_eq_some_iff : Envelope.ofBytes? bytes = some e ↔ ∃ d, Conveys bytes d e := by
  unfold Envelope.ofBytes?
  rw [Option.bind_eq_some_iff]
  exact ⟨fun ⟨d, text, envelope⟩ => ⟨d, text, envelope⟩,
    fun ⟨d, conveys⟩ => ⟨d, conveys.text, conveys.envelope⟩⟩

/-- The answer says that there is no secret. -/
inductive SaysNothing (layout : PayloadLayout) (status : Nat) (bytes : ByteArray) : Prop
  | notFound (status : status = 404)
  | noContent (status : status = 204)
  | empty (success : isSuccess status = true) (empty : bytes.isEmpty = true)
  /-- The data are absent or null. -/
  | noData {d : Document} {e : Envelope} (success : isSuccess status = true)
      (conveys : Conveys bytes d e) (data : dataOf? d = none ∨ dataOf? d = some .null)
  /-- The data are an object without an object in it. -/
  | shapeless {d : Document} {e : Envelope} {fields : List (String × Json)}
      (success : isSuccess status = true) (conveys : Conveys bytes d e)
      (data : e.data = some (.obj fields)) (versioned : layout = .versioned)
      (inner : ∀ inner, (Dict.ofList fields).get? "data" ≠ some (.obj inner))

/-- The answer holds a secret, with the lease of its envelope. -/
inductive SaysSecret (layout : PayloadLayout) (status : Nat) (bytes : ByteArray) :
    Dict Json → Option Lease → Prop
  | data {d : Document} {e : Envelope} {fields : List (String × Json)} {secret : Dict Json}
      (success : isSuccess status = true) (content : status ≠ 204) (conveys : Conveys bytes d e)
      (data : e.data = some (.obj fields))
      (holds : layout.Holds ⟨Dict.ofList fields, e.lease?⟩ secret) :
      SaysSecret layout status bytes secret e.lease?

/-- What the answer to a read tells, for the record. Whatever neither says that there is no secret,
nor holds one, nor denies the right to read is an error. -/
inductive Tells (layout : PayloadLayout) (status : Nat) (bytes : ByteArray) : ReadOutcome → Prop
  | missing (nothing : SaysNothing layout status bytes) : Tells layout status bytes .missing
  | success {secret : Dict Json} {lease : Option Lease}
      (holds : SaysSecret layout status bytes secret lease) : Tells layout status bytes .success
  | forbidden (denial : IsDenial status) : Tells layout status bytes .forbidden
  | error (nothing : ¬ SaysNothing layout status bytes)
      (secretless : ∀ secret lease, ¬ SaysSecret layout status bytes secret lease)
      (allowed : ¬ IsDenial status) : Tells layout status bytes .error

theorem exists_tells (layout : PayloadLayout) (status : Nat) (bytes : ByteArray) :
    ∃ outcome, Tells layout status bytes outcome := by
  by_cases nothing : SaysNothing layout status bytes
  · exact ⟨_, .missing nothing⟩
  · by_cases holds : ∃ secret lease, SaysSecret layout status bytes secret lease
    · obtain ⟨secret, lease, holds⟩ := holds
      exact ⟨_, .success holds⟩
    · by_cases denial : IsDenial status
      · exact ⟨_, .forbidden denial⟩
      · exact ⟨_, .error nothing (fun secret lease h => holds ⟨secret, lease, h⟩) denial⟩

/-! ## Reading an answer -/

theorem not_conveys_of_isEmpty (empty : bytes.isEmpty = true) : ¬ Conveys bytes d e := by
  intro conveys
  obtain rfl : bytes = .empty := ByteArray.ext (Array.isEmpty_iff.1 empty)
  have hnone : Document.read? (bodyText .empty) = none := by decide +kernel
  exact nomatch hnone.symm.trans conveys.text

/-- What is read of an answer that was accepted. -/
theorem read_of_success (built : c.prepare .get path (some t) none = .ok request)
    (answered : net request = .answered status (.complete bytes))
    (success : isSuccess status = true) :
    c.read net path t =
      (Client.envelope net (status, .complete bytes) >>= Client.payload path) := by
  rw [Client.read, Client.execute_of_success built answered success]

/-- What is read of a refusal. -/
theorem read_of_refusal (built : c.prepare .get path (some t) none = .ok request)
    (answered : net request = .answered status (.complete bytes))
    (refused : isSuccess status = false) :
    c.read net path t =
      if status = 404 then .ok none
      else .error (Client.refusal path status (.complete bytes)) := by
  have refuses := refuses_refusal path status (.complete bytes)
  rw [Client.read, Client.execute_of_refusal built answered refused]
  generalize Client.refusal path status (.complete bytes) = fault at refuses
  cases refuses with
  | notFound absent => rw [if_pos absent]
  | malformed message bad => rw [if_neg (by omega)]
  | denied message denial => rw [if_neg (by rcases denial with h | h <;> omega)]
  | outage message unserved =>
      have h404 : status ≠ 404 := by
        rintro rfl
        exact absurd unserved (by decide)
      rw [if_neg h404]
  | other message found => rw [if_neg found]

/-- An answer without content has an empty envelope. -/
theorem envelope_of_empty (net : Network) (h : status = 204 ∨ bytes.isEmpty = true) :
    Client.envelope net (status, .complete bytes) = .ok {} := by
  unfold Client.envelope
  rcases h with rfl | empty
  · rfl
  · simp [empty]

theorem envelope_of_conveys (net : Network) (content : status ≠ 204)
    (conveys : Conveys bytes d e) : Client.envelope net (status, .complete bytes) = .ok e := by
  have hempty : bytes.isEmpty = false := by
    cases hempty : bytes.isEmpty with
    | false => rfl
    | true => exact absurd conveys (not_conveys_of_isEmpty hempty)
  simp [Client.envelope, content, hempty, ofBytes?_eq_some_iff.2 ⟨d, conveys⟩]

theorem payload_of_object {fields : List (String × Json)} (path : String)
    (data : e.data = some (.obj fields)) :
    Client.payload path e = .ok (some ⟨Dict.ofList fields, e.lease?⟩) := by
  have hlease : (if e.leaseId.isEmpty ∧ e.leaseSeconds = 0 then none
      else some (⟨e.leaseId, e.leaseSeconds * 1000, e.renewable⟩ : Lease)) = e.lease? := by
    unfold Envelope.lease?
    by_cases hid : e.leaseId = ""
    · by_cases hzero : e.leaseSeconds = 0
      · simp [hid, hzero]
      · simp [hid, hzero, Nat.pos_of_ne_zero hzero]
    · simp [hid]
  unfold Client.payload
  rw [data]
  dsimp only
  rw [hlease]

/-- A payload holds a secret, unless the layout is versioned and no object stands in it. -/
theorem exists_holds_iff {p : Payload} :
    (∃ secret, layout.Holds p secret) ↔
      (layout = .versioned → ∃ inner, p.data.get? "data" = some (.obj inner)) := by
  cases layout with
  | flat =>
      constructor
      · intro _ versioned
        cases versioned
      · intro _
        exact ⟨_, .flat⟩
  | versioned =>
      constructor
      · rintro ⟨secret, holds⟩ -
        cases holds with
        | versioned data => exact ⟨_, data⟩
      · intro h
        obtain ⟨inner, data⟩ := h rfl
        exact ⟨_, .versioned data⟩

end Vault

/-! ## What a build makes of an answer -/

namespace PlannedRead

open Vault (Client Network HttpRequest SaysNothing SaysSecret IsDenial Tells isSuccess)

variable {c : Client} {net : Network} {r : PlannedRead} {t : Token} {request : HttpRequest}
  {status : Nat} {bytes : ByteArray} {secret : Dict Json} {lease : Option Lease}

section Answered

variable (built : c.prepare .get r.plan.path (some t) none = .ok request)
  (answered : net request = .answered status (.complete bytes))

include built answered

theorem lacks_of_saysNothing (h : SaysNothing r.plan.layout status bytes) :
    r.Lacks (c.read net r.plan.path t) := by
  -- what has no content has an empty envelope, whatever the rest of the answer says
  have lacks_empty (success : isSuccess status = true)
      (empty : status = 204 ∨ bytes.isEmpty = true) : r.Lacks (c.read net r.plan.path t) := by
    rw [Vault.read_of_success built answered success, Vault.envelope_of_empty net empty]
    exact .nothing
  cases h with
  | notFound absent =>
      have refused : isSuccess status = false := by
        rw [absent]
        rfl
      rw [Vault.read_of_refusal built answered refused, if_pos absent]
      exact .nothing
  | noContent absent =>
      refine lacks_empty ?_ (.inl absent)
      rw [absent]
      rfl
  | empty success empty => exact lacks_empty success (.inr empty)
  | @noData d e success conveys data =>
      by_cases content : status = 204
      · exact lacks_empty success (.inl content)
      · rw [Vault.read_of_success built answered success,
          Vault.envelope_of_conveys net content conveys]
        have hnone := (Vault.data_eq_none_iff conveys.envelope).2 data
        show r.Lacks (Client.payload r.plan.path e)
        unfold Client.payload
        rw [hnone]
        exact .nothing
  | @shapeless d e fields success conveys data versioned inner =>
      by_cases content : status = 204
      · exact lacks_empty success (.inl content)
      · rw [Vault.read_of_success built answered success,
          Vault.envelope_of_conveys net content conveys]
        show r.Lacks (Client.payload r.plan.path e)
        rw [Vault.payload_of_object r.plan.path data]
        refine .shapeless fun secret holds => ?_
        obtain ⟨found, object⟩ := Vault.exists_holds_iff.1 ⟨secret, holds⟩ versioned
        exact inner found object

theorem read_of_saysSecret (h : SaysSecret r.plan.layout status bytes secret lease) :
    ∃ p, c.read net r.plan.path t = .ok (some p) ∧ r.plan.layout.Holds p secret ∧
      p.lease = lease := by
  cases h with
  | @data d e fields _ success content conveys data holds =>
      rw [Vault.read_of_success built answered success,
        Vault.envelope_of_conveys net content conveys]
      exact ⟨_, Vault.payload_of_object r.plan.path data, holds, rfl⟩

theorem read_of_denial (denial : IsDenial status) :
    ∃ message, c.read net r.plan.path t = .error (.unauthorized message) := by
  have refused : isSuccess status = false := by rcases denial with rfl | rfl <;> rfl
  have found : status ≠ 404 := by rcases denial with h | h <;> omega
  have refuses := Vault.refuses_refusal r.plan.path status (.complete bytes)
  rw [Vault.read_of_refusal built answered refused, if_neg found]
  generalize Client.refusal r.plan.path status (.complete bytes) = fault at refuses
  cases refuses with
  | denied message => exact ⟨message, rfl⟩
  | notFound absent => exact absurd absent found
  | malformed message bad => rcases denial with h | h <;> omega
  | outage message unserved =>
      rcases denial with rfl | rfl <;> exact absurd unserved (by decide)
  | other message found allowed => exact absurd denial allowed

/-- Every other answer is a fault that stands for an error. -/
theorem read_of_other (nothing : ¬ SaysNothing r.plan.layout status bytes)
    (secretless : ∀ secret lease, ¬ SaysSecret r.plan.layout status bytes secret lease)
    (allowed : ¬ IsDenial status) :
    ∃ fault, c.read net r.plan.path t = .error fault ∧ fault.isNotFound = false ∧
      fault.isUnauthorized = false := by
  cases success : isSuccess status with
  | false =>
      have found : status ≠ 404 := fun absent => nothing (.notFound absent)
      have refuses := Vault.refuses_refusal r.plan.path status (.complete bytes)
      rw [Vault.read_of_refusal built answered success, if_neg found]
      generalize Client.refusal r.plan.path status (.complete bytes) = fault at refuses
      cases refuses with
      | notFound absent => exact absurd absent found
      | denied message denial => exact absurd denial allowed
      | malformed | outage | other => exact ⟨_, rfl, rfl, rfl⟩
  | true =>
      have content : status ≠ 204 := fun absent => nothing (.noContent absent)
      rw [Vault.read_of_success built answered success]
      cases hread : Vault.Envelope.ofBytes? bytes with
      | none =>
          have nonempty : bytes.isEmpty = false := by
            cases hempty : bytes.isEmpty with
            | false => rfl
            | true => exact absurd (.empty success hempty) nothing
          refine ⟨.invalidResponse (net.bodyReport bytes), ?_, rfl, rfl⟩
          simp [Client.envelope, content, nonempty, hread, bind, Except.bind]
      | some e =>
          obtain ⟨d, conveys⟩ := Vault.ofBytes?_eq_some_iff.1 hread
          rw [Vault.envelope_of_conveys net content conveys]
          show ∃ fault, Client.payload r.plan.path e = .error fault ∧ _
          cases hdata : e.data with
          | none =>
              exact absurd (.noData success conveys
                ((Vault.data_eq_none_iff conveys.envelope).1 hdata)) nothing
          | some v =>
              cases v with
              | null => exact absurd hdata (Vault.data_ne_null conveys.envelope)
              | obj fields =>
                  by_cases holds : ∃ secret,
                      r.plan.layout.Holds ⟨Dict.ofList fields, e.lease?⟩ secret
                  · obtain ⟨secret, holds⟩ := holds
                    exact absurd (.data success content conveys hdata holds) (secretless _ _)
                  · rw [Vault.exists_holds_iff] at holds
                    obtain ⟨versioned, shapeless⟩ := Classical.not_imp.1 holds
                    refine absurd (.shapeless success conveys hdata versioned ?_) nothing
                    exact fun found object => shapeless ⟨found, object⟩
              | bool | num | str | arr =>
                  unfold Client.payload
                  rw [hdata]
                  exact ⟨_, rfl, rfl, rfl⟩

end Answered

/-! The record of a read says what the answer told. -/

variable {o : BuildOptions} {answer : ReadAnswer} {p : Payload} {fault : StoreFault}
  {outcome : ReadOutcome}

theorem Lacks.record_eq (lacks : r.Lacks answer) : (r.layer o answer).2 = .missing := by
  cases lacks with
  | nothing | notFound => rfl
  | shapeless none => simp only [layer, PlannedRead.secret, unwrap?_eq_none none]

theorem record_of_holds (holds : r.plan.layout.Holds p secret) :
    (r.layer o (.ok (some p))).2 = .success := by
  have hsecret : p.unwrap? r.plan.layout = some ⟨secret, p.lease⟩ :=
    Payload.unwrap?_eq_some_iff.2 ⟨holds, rfl⟩
  simp only [layer, PlannedRead.secret, hsecret]

/-- A fault that is neither a missing secret nor a denial is an error. -/
theorem layer_of_fault (found : fault.isNotFound = false) (allowed : fault.isUnauthorized = false) :
    r.layer o (.error fault) = (.error (.ofStore "read" fault), .error) := by
  simp [layer, PlannedRead.secret, found, allowed]

theorem record_eq_iff (built : c.prepare .get r.plan.path (some t) none = .ok request)
    (answered : net request = .answered status (.complete bytes)) :
    (r.layer o (c.read net r.plan.path t)).2 = outcome ↔
      Tells r.plan.layout status bytes outcome := by
  have recorded {outcome : ReadOutcome} (tells : Tells r.plan.layout status bytes outcome) :
      (r.layer o (c.read net r.plan.path t)).2 = outcome := by
    cases tells with
    | missing nothing => exact (lacks_of_saysNothing built answered nothing).record_eq
    | success told =>
        obtain ⟨p, hread, holds, -⟩ := read_of_saysSecret built answered told
        rw [hread]
        exact record_of_holds holds
    | forbidden denial =>
        obtain ⟨message, hread⟩ := read_of_denial built answered denial
        rw [hread]
        rfl
    | error nothing secretless allowed =>
        obtain ⟨fault, hread, found, authorized⟩ :=
          read_of_other built answered nothing secretless allowed
        rw [hread, layer_of_fault found authorized]
  refine ⟨fun h => ?_, recorded⟩
  -- the answer tells something, and what it tells is recorded
  obtain ⟨outcome', tells⟩ := Vault.exists_tells r.plan.layout status bytes
  rw [← h, recorded tells]
  exact tells

/-- What a build makes of an answer and records about it. -/
structure Heeds (o : BuildOptions) (r : PlannedRead) (status : Nat) (bytes : ByteArray)
    (made : Except Error Layer × ReadOutcome) : Prop where
  record : ∀ outcome, made.2 = outcome ↔ Tells r.plan.layout status bytes outcome
  nothing : SaysNothing r.plan.layout status bytes → made.1 =
    if r.descriptor.isRequired o then .error (.missingSecret r.descriptor.name r.plan.path)
    else .ok (.vacant r.plan.source r.plan.order)
  denial : IsDenial status → ∃ message, made.1 =
    if r.descriptor.isRequired o then .error (.store (.unauthorized message))
    else .ok (.vacant r.plan.source r.plan.order)
  secret : ∀ secret lease, SaysSecret r.plan.layout status bytes secret lease → made.1 = .ok
    { source := r.plan.source
      order := r.plan.order
      properties := r.plan.names.elim (Properties.flatten secret) fun names =>
        names.apply (Properties.flatten secret)
      lease := lease }
  /-- An error is one whether or not the backend has to be there. -/
  other : Tells r.plan.layout status bytes .error → ∃ e, made.1 = .error e

/-- **What a build makes of an answer.** What is missing or forbidden contributes nothing, unless
the backend has to be there, a secret contributes its properties, and everything else is an
error. -/
theorem heeds_answer (o : BuildOptions)
    (built : c.prepare .get r.plan.path (some t) none = .ok request)
    (answered : net request = .answered status (.complete bytes)) :
    r.Heeds o status bytes (r.layer o (c.read net r.plan.path t)) where
  record outcome := record_eq_iff built answered
  nothing absent := (lacks_of_saysNothing built answered absent).layer_eq
  denial denied := by
    obtain ⟨message, hread⟩ := read_of_denial built answered denied
    rw [hread]
    exact ⟨message, layer_unauthorized o r message⟩
  secret secret lease told := by
    obtain ⟨p, hread, holds, rfl⟩ := read_of_saysSecret built answered told
    rw [hread]
    exact (Yields.secret holds).layer_eq
  other tells := by
    cases tells with
    | error nothing secretless allowed =>
        obtain ⟨fault, hread, found, authorized⟩ :=
          read_of_other built answered nothing secretless allowed
        rw [hread, layer_of_fault found authorized]
        exact ⟨_, rfl⟩

end PlannedRead

/-- The read of the secret of an application. -/
def appRead : PlannedRead :=
  ⟨.keyValue "app" "secret" "app" .v1, { path := "secret/app", order := 0, source := "app" }⟩

end SecretConfig
