import Mathlib.Data.List.Forall2
import SecretConfig.Proofs.Vault.Answers

set_option autoImplicit false

/-! # What the fault of a read tells about the data

A read of an accepted answer fails if the answer is no envelope, or if its data are neither an
object nor null. The fault of the second kind quotes the data (`Client.unexpected`).

Two bodies are alike but for their data if all that differs is what stands in the data, which are of
one type (`AlikeButData`). If the data have a value, either both bodies are envelopes, the same
apart from the data, or none is (`ofDocument?_of_alike`). So the faults of two such answers are of
one kind and lead to errors of one kind. What they tell is what the reader of JSON reports of a
body that is no envelope, or else the data that they quote (`PlannedRead.fails_alike`). -/

namespace SecretConfig

open Json (Document)

namespace Vault

variable {d d' : Document} {data data' : Document} {e : Envelope} {c : Client} {net net' : Network}
  {path : String} {t : Token} {request : HttpRequest} {status status' : Nat}
  {bytes bytes' : ByteArray} {fault fault' : StoreFault}

/-! ## Documents that are alike -/

/-- The documents are of one type. -/
inductive SameType : Document → Document → Prop
  | null : SameType .null .null
  | bool (b b' : Bool) : SameType (.bool b) (.bool b')
  | num (n n' : Json.NumberText) : SameType (.num n) (.num n')
  | str (s s' : Option String) : SameType (.str s) (.str s')
  | arr (items items' : List Document) : SameType (.arr items) (.arr items')
  | obj (fields fields' : List (Option String × Document)) :
      SameType (.obj fields) (.obj fields')

/-- The documents under a key, which may have no text. -/
def under (key : Option String) (fields : List (Option String × Document)) : List Document :=
  (fields.filter fun f => f.1 = key).map Prod.snd

/-- Two bodies differ in their data only, and these are of one type. -/
inductive AlikeButData : Document → Document → Prop
  | fields {fields fields' : List (Option String × Document)}
      (data : List.Forall₂ SameType (under (some "data") fields) (under (some "data") fields'))
      (others : ∀ key, key ≠ some "data" → under key fields = under key fields') :
      AlikeButData (.obj fields) (.obj fields')
  /-- The data are the first member of a record that is written without names. -/
  | items {data data' : Document} {rest : List Document} (type : SameType data data') :
      AlikeButData (.arr (data :: rest)) (.arr (data' :: rest))
  | same (d : Document) : AlikeButData d d

theorem SameType.refl (d : Document) : SameType d d := by
  cases d with
  | null => exact .null
  | bool b => exact .bool b b
  | num n => exact .num n n
  | str s => exact .str s s
  | arr items => exact .arr items items
  | obj fields => exact .obj fields fields

theorem SameType.symm (h : SameType d d') : SameType d' d := by
  cases h with
  | null => exact .null
  | bool b b' => exact .bool b' b
  | num n n' => exact .num n' n
  | str s s' => exact .str s' s
  | arr items items' => exact .arr items' items
  | obj fields fields' => exact .obj fields' fields

theorem AlikeButData.symm (h : AlikeButData d d') : AlikeButData d' d := by
  cases h with
  | fields data others =>
      refine .fields ?_ fun key apart => (others key apart).symm
      exact (List.Forall₂.flip data).imp fun _ _ => SameType.symm
  | items type => exact .items type.symm
  | same => exact .same _

/-- The member with a name, which may be there once. -/
def member? (fields : List (Option String × Document)) (name : String) :
    Option (Option Document) :=
  match under (some name) fields with
  | [] => some none
  | [d] => some (some d)
  | _ => none

/-- All keys have a text if there is nothing under a key without one. -/
theorem all_isSome_iff {fields : List (Option String × Document)} :
    (fields.all fun f => f.1.isSome) = true ↔ under none fields = [] := by
  simp [under, List.filter_eq_nil_iff, Option.isSome_iff_ne_none]

theorem named?_eq_mapM {names : List String} {fields : List (Option String × Document)}
    (texts : under none fields = []) : named? names fields = names.mapM (member? fields) := by
  unfold named?
  rw [if_pos (all_isSome_iff.2 texts)]
  refine congrArg (names.mapM ·) (funext fun name => ?_)
  unfold member? under
  generalize fields.filter (fun f => f.1 = some name) = found
  match found with
  | [] => rfl
  | [f] => rfl
  | f :: g :: rest => rfl

/-- The members of a record are found by their names, and all of its keys have a text. -/
theorem named?_eq_some_iff {names : List String} {fields : List (Option String × Document)}
    {members : List (Option Document)} :
    named? names fields = some members ↔
      under none fields = [] ∧ names.mapM (member? fields) = some members := by
  by_cases texts : under none fields = []
  · simp [named?_eq_mapM texts, texts]
  · simp [named?, mt all_isSome_iff.1 texts, texts]

/-- Members that stand under the same documents are the same. -/
theorem mapM_member?_congr {fields fields' : List (Option String × Document)} {names : List String}
    (h : ∀ name ∈ names, under (some name) fields = under (some name) fields') :
    names.mapM (member? fields) = names.mapM (member? fields') := by
  induction names with
  | nil => rfl
  | cons name rest ih =>
      have hname : member? fields name = member? fields' name := by
        rw [member?, member?, h name List.mem_cons_self]
      rw [List.mapM_cons, List.mapM_cons, hname,
        ih fun name hmem => h name (List.mem_cons_of_mem _ hmem)]

theorem member?_of_forall₂ {fields fields' : List (Option String × Document)} {name : String}
    {member : Option Document}
    (same : List.Forall₂ SameType (under (some name) fields) (under (some name) fields'))
    (h : member? fields name = some member) :
    ∃ member', member? fields' name = some member' ∧ Option.Rel SameType member member' := by
  unfold member? at h ⊢
  generalize under (some name) fields = found at same h
  generalize under (some name) fields' = found' at same ⊢
  cases same with
  | nil =>
      obtain rfl := Option.some.inj h
      exact ⟨none, rfl, .none⟩
  | cons type rest =>
      cases rest with
      | nil =>
          obtain rfl := Option.some.inj h
          exact ⟨_, rfl, .some type⟩
      | cons => exact nomatch h

/-- The members of documents that are alike are the same, but for the data. -/
theorem members_of_alike {rest : List (Option Document)} {data : Option Document}
    (alike : AlikeButData d d') (h : members? Envelope.memberNames d = some (data :: rest)) :
    ∃ data', members? Envelope.memberNames d' = some (data' :: rest) ∧
      Option.Rel SameType data data' := by
  cases alike with
  | same d =>
      refine ⟨data, h, ?_⟩
      cases data with
      | none => exact .none
      | some data => exact .some (.refl data)
  | @items first first' items type =>
      unfold members? at h ⊢
      dsimp only at h ⊢
      rw [List.length_cons] at h ⊢
      split at h
      · rename_i few
        rw [if_pos few]
        obtain ⟨rfl, rfl⟩ := List.cons.inj (Option.some.inj h)
        exact ⟨some first', rfl, .some type⟩
      · cases h
  | @fields fields fields' same others =>
      simp only [members?, named?_eq_some_iff, Envelope.memberNames] at h ⊢
      obtain ⟨texts, h⟩ := h
      rw [List.mapM_cons] at h
      obtain ⟨member, hmember, h⟩ := Option.bind_eq_some_iff.1 h
      obtain ⟨members, hmembers, h⟩ := Option.bind_eq_some_iff.1 h
      obtain ⟨rfl, rfl⟩ := List.cons.inj (Option.some.inj h)
      obtain ⟨data', hdata, type⟩ := member?_of_forall₂ same hmember
      have textless : under none fields = under none fields' := others none (by simp)
      refine ⟨data', ⟨textless.symm.trans texts, ?_⟩, type⟩
      -- none of the other names is that of the data
      rw [mapM_member?_congr fun name hmem => others (some name) fun hname => by
        obtain rfl := Option.some.inj hname
        exact absurd hmem (by decide)] at hmembers
      rw [List.mapM_cons, hdata, hmembers]
      rfl

/-- The data of a document have a value, if there are any. -/
def IsValued (d : Document) : Prop := ∀ data, dataOf? d = some data → (value? data).isSome = true

/-- Of two documents that are alike both are envelopes or none, and the envelopes are the same but
for the data. -/
theorem ofDocument?_of_alike (alike : AlikeButData d d') (valued : IsValued d')
    (h : Envelope.ofDocument? d = some e) :
    ∃ data, Envelope.ofDocument? d' = some { e with data } := by
  obtain ⟨auth, leaseId, lease, renewable, hmembers, -, hauth, hid, hlease, hrenewable⟩ :=
    members_of_ofDocument? h
  obtain ⟨data', hmembers', -⟩ := members_of_alike alike hmembers
  have hdataOf : dataOf? d' = data' := by
    rw [dataOf?, hmembers']
    rfl
  obtain ⟨v, hv⟩ : ∃ v, orNull value? data' = some v := by
    cases data' with
    | none => exact ⟨none, rfl⟩
    | some data =>
        by_cases hnull : data = .null
        · subst hnull
          exact ⟨none, rfl⟩
        · obtain ⟨v, hv⟩ := Option.isSome_iff_exists.1 (valued data hdataOf)
          exact ⟨some v, orNull_eq_some_iff.2 (.inr ⟨data, v, rfl, hnull, hv, rfl⟩)⟩
  refine ⟨v, ?_⟩
  rw [Envelope.memberNames] at hmembers'
  simp [Envelope.ofDocument?, hmembers', hv, hauth, hid, hlease, hrenewable]

/-! ## Faults -/

/-- The fault of a read whose data are neither an object nor null quotes them. -/
def Client.unexpected (path : String) (v : Json) : StoreFault :=
  .invalidResponse ("expected an object at '" ++ path ++ "', got " ++ v.compact)

theorem unexpected_eq_iff {v v' : Json} :
    Client.unexpected path v = Client.unexpected path v' ↔ v.compact = v'.compact := by
  unfold Client.unexpected
  rw [StoreFault.invalidResponse.injEq]
  exact String.append_right_inj _

/-- What the fault of a read tells about a body: what the reader of JSON reports of one that is no
envelope, or what the data are. -/
inductive FaultOf (path report : String) (d : Document) : StoreFault → Prop
  | malformed (unread : Envelope.ofDocument? d = none) :
      FaultOf path report d (.invalidResponse report)
  | unexpected {e : Envelope} {v : Json} (envelope : Envelope.ofDocument? d = some e)
      (data : e.data = some v) (object : ∀ fields, v ≠ .obj fields) :
      FaultOf path report d (Client.unexpected path v)

/-- The server accepts a read and answers with a JSON text, and the read fails. -/
inductive FailsOn (c : Client) (net : Network) (path : String) (t : Token) :
    ByteArray → Document → StoreFault → Prop
  | intro {request : HttpRequest} {status : Nat} {bytes : ByteArray} {d : Document}
      {fault : StoreFault} (built : c.prepare .get path (some t) none = .ok request)
      (answered : net request = .answered status (.complete bytes))
      (success : isSuccess status = true) (text : Document.read? (bodyText bytes) = some d)
      (fails : c.read net path t = .error fault) : FailsOn c net path t bytes d fault

theorem FailsOn.fails (h : FailsOn c net path t bytes d fault) :
    c.read net path t = .error fault := by
  cases h with
  | intro built answered success text fails => exact fails

theorem FailsOn.faultOf (h : FailsOn c net path t bytes d fault) :
    FaultOf path (net.bodyReport bytes) d fault := by
  cases h with
  | @intro request status _ _ _ built answered success text fails =>
      rw [read_of_success built answered success] at fails
      by_cases empty : status = 204 ∨ bytes.isEmpty = true
      · rw [envelope_of_empty net empty] at fails
        cases fails
      · obtain ⟨content, nonempty⟩ := not_or.1 empty
        cases hread : Envelope.ofDocument? d with
        | none =>
            have hbytes : Envelope.ofBytes? bytes = none := by
              rw [Envelope.ofBytes?, text]
              exact hread
            simp only [Client.envelope, content, nonempty, hbytes, if_false,
              Bool.false_eq_true] at fails
            obtain rfl := Except.error.inj fails
            exact .malformed hread
        | some e =>
            rw [envelope_of_conveys net content ⟨text, hread⟩] at fails
            have hpayload : Client.payload path e = .error fault := fails
            unfold Client.payload at hpayload
            split at hpayload
            · cases hpayload
            · cases hpayload
            · cases hpayload
            · rename_i v hnull hobject hdata
              obtain rfl := Except.error.inj hpayload
              exact .unexpected hread hdata hobject

theorem FaultOf.eq_invalidResponse {report : String} (h : FaultOf path report d fault) :
    ∃ message, fault = .invalidResponse message := by
  cases h with
  | malformed => exact ⟨_, rfl⟩
  | unexpected => exact ⟨_, rfl⟩

/-- If the data have a value, the faults of documents that are alike are of one kind: both quote the
data, or none does. -/
theorem FaultOf.of_alike {report report' : String} (h : FaultOf path report d fault)
    (h' : FaultOf path report' d' fault') (alike : AlikeButData d d') (valued : IsValued d)
    (valued' : IsValued d') :
    Envelope.ofDocument? d = none ∧ Envelope.ofDocument? d' = none ∧
        fault = .invalidResponse report ∧ fault' = .invalidResponse report' ∨
      ∃ data data' v v', dataOf? d = some data ∧ dataOf? d' = some data' ∧
        data.value? = some v ∧ data'.value? = some v' ∧
        fault = Client.unexpected path v ∧ fault' = Client.unexpected path v' := by
  cases h with
  | malformed unread =>
      cases h' with
      | malformed unread' => exact .inl ⟨unread, unread', rfl, rfl⟩
      | unexpected envelope =>
          obtain ⟨data, hread⟩ := ofDocument?_of_alike alike.symm valued envelope
          exact nomatch unread.symm.trans hread
  | unexpected envelope hdata =>
      cases h' with
      | malformed unread =>
          obtain ⟨data, hread⟩ := ofDocument?_of_alike alike valued' envelope
          exact nomatch unread.symm.trans hread
      | unexpected envelope' hdata' =>
          obtain ⟨data, hmember, -, hvalue⟩ := value_of_data envelope hdata
          obtain ⟨data', hmember', -, hvalue'⟩ := value_of_data envelope' hdata'
          exact .inr ⟨data, data', _, _, hmember, hmember', hvalue, hvalue', rfl, rfl⟩

end Vault

/-! ## Errors of a build -/

namespace PlannedRead

open Vault (Client Envelope Network FailsOn FaultOf AlikeButData IsValued dataOf?)

variable {c : Client} {net net' : Network} {r : PlannedRead} {t : Token} {d d' : Document}
  {bytes bytes' : ByteArray} {fault fault' : StoreFault}

/-- A build fails with the fault of a read whose answer makes no sense, if all reads before it have
made layers. -/
theorem collect_of_faultOf {report : String} (h : FaultOf r.plan.path report d fault)
    (o : BuildOptions) (made : List Layer) (after : List (Except Error Layer)) :
    Build.collect (made.map .ok ++ (r.layer o (.error fault)).1 :: after) =
      .error (.store fault) := by
  obtain ⟨message, rfl⟩ := h.eq_invalidResponse
  exact Build.collect_eq_error_iff.2 ⟨made, after, rfl⟩

/-- **What faults tell about the data.** Let a server answer a read once with one and once with
another body, alike but for their data, and let both reads fail. Both faults say that the answer
makes no sense, and a build returns them as errors of the store. Each tells what the reader of JSON
reports of a body that is no envelope, or quotes its data; and if the data have values, both do the
one or both the other, and two faults that quote are the same unless the quotes differ. -/
theorem fails_alike (fails : FailsOn c net r.plan.path t bytes d fault)
    (fails' : FailsOn c net' r.plan.path t bytes' d' fault') (alike : AlikeButData d d') :
    (∃ message message', fault = .invalidResponse message ∧
      fault' = .invalidResponse message') ∧
    (∀ o (made : List Layer) after,
      Build.collect (made.map .ok ++ (r.layer o (c.read net r.plan.path t)).1 :: after) =
        .error (.store fault) ∧
      Build.collect (made.map .ok ++ (r.layer o (c.read net' r.plan.path t)).1 :: after) =
        .error (.store fault')) ∧
    FaultOf r.plan.path (net.bodyReport bytes) d fault ∧
    FaultOf r.plan.path (net'.bodyReport bytes') d' fault' ∧
    (IsValued d → IsValued d' →
      Envelope.ofDocument? d = none ∧ Envelope.ofDocument? d' = none ∧
        fault = .invalidResponse (net.bodyReport bytes) ∧
        fault' = .invalidResponse (net'.bodyReport bytes') ∨
      ∃ data data' v v', dataOf? d = some data ∧ dataOf? d' = some data' ∧
        data.value? = some v ∧ data'.value? = some v' ∧
        fault = Client.unexpected r.plan.path v ∧ fault' = Client.unexpected r.plan.path v' ∧
        (fault = fault' ↔ v.compact = v'.compact)) := by
  have hfault := fails.faultOf
  have hfault' := fails'.faultOf
  refine ⟨?_, ?_, hfault, hfault', ?_⟩
  · obtain ⟨message, hmessage⟩ := hfault.eq_invalidResponse
    obtain ⟨message', hmessage'⟩ := hfault'.eq_invalidResponse
    exact ⟨message, message', hmessage, hmessage'⟩
  · intro o made after
    rw [fails.fails, fails'.fails]
    exact ⟨collect_of_faultOf hfault o made after, collect_of_faultOf hfault' o made after⟩
  · intro valued valued'
    rcases hfault.of_alike hfault' alike valued valued' with malformed |
      ⟨data, data', v, v', hdata, hdata', hv, hv', rfl, rfl⟩
    · exact .inl malformed
    · exact .inr ⟨data, data', v, v', hdata, hdata', hv, hv', rfl, rfl, Vault.unexpected_eq_iff⟩

/-- The answer to a read whose data are a text. -/
def textBytes (text : String) : ByteArray :=
  String.toUTF8 ("\x7b\"data\":\"" ++ text ++ "\"\x7d")

/-- A server that answers every read with a text as the data. -/
def textual (text : String) : Network where
  answer := fun _ => .answered 200 (.complete (textBytes text))

/-- What such an answer says. -/
def textBody (text : String) : Document := .obj [(some "data", .str (some text))]

theorem textBody_alike (a b : String) : AlikeButData (textBody a) (textBody b) := by
  refine .fields (.cons (.str (some a) (some b)) .nil) fun key apart => ?_
  simp [Vault.under, apart.symm]

/-- The data of such an answer. -/
def textOf? : Document → Option String
  | .obj [(some name, .str text)] => if name = "data" then text else none
  | _ => none

theorem eq_textBody_of_textOf? {text : String} (h : textOf? d = some text) : d = textBody text := by
  unfold textOf? at h
  split at h
  · rename_i name found
    obtain ⟨rfl, rfl⟩ : name = "data" ∧ found = some text := by simpa using h
    rfl
  · exact nomatch h

/-- A read of such an answer fails, and the fault quotes the data. -/
theorem failsOn_textual {text : String}
    (body : ((Document.read? (Vault.bodyText (textBytes text))).bind textOf?) = some text)
    (fails : Vault.nearbyClient.read (textual text) "secret/app" Vault.grantedToken =
      .error (Client.unexpected "secret/app" (.str text))) :
    FailsOn Vault.nearbyClient (textual text) "secret/app" Vault.grantedToken (textBytes text)
      (textBody text) (Client.unexpected "secret/app" (.str text)) := by
  obtain ⟨d, hread, htext⟩ := Option.bind_eq_some_iff.1 body
  rw [eq_textBody_of_textOf? htext] at hread
  have built : Vault.nearbyClient.prepare .get "secret/app" (some Vault.grantedToken) none =
      .ok (Vault.nearbyRequest "app") := by decide +kernel
  exact .intro built rfl rfl hread fails

theorem failsOn_alpha : FailsOn Vault.nearbyClient (textual "alpha") "secret/app"
    Vault.grantedToken (textBytes "alpha") (textBody "alpha")
    (Client.unexpected "secret/app" (.str "alpha")) :=
  failsOn_textual (by decide +kernel) (by decide +kernel)

theorem failsOn_beta : FailsOn Vault.nearbyClient (textual "beta") "secret/app"
    Vault.grantedToken (textBytes "beta") (textBody "beta")
    (Client.unexpected "secret/app" (.str "beta")) :=
  failsOn_textual (by decide +kernel) (by decide +kernel)

theorem isValued_textBody (text : String) : IsValued (textBody text) := by
  intro data h
  obtain rfl : .str (some text) = data := Option.some.inj h
  rfl

theorem fails_alike_textual :
    FailsOn Vault.nearbyClient (textual "alpha") "secret/app" Vault.grantedToken
        (textBytes "alpha") (textBody "alpha") (Client.unexpected "secret/app" (.str "alpha")) ∧
      FailsOn Vault.nearbyClient (textual "beta") "secret/app" Vault.grantedToken
        (textBytes "beta") (textBody "beta") (Client.unexpected "secret/app" (.str "beta")) ∧
      AlikeButData (textBody "alpha") (textBody "beta") ∧
      (∃ e e', Build.collect [(appRead.layer {}
          (Vault.nearbyClient.read (textual "alpha") "secret/app" Vault.grantedToken)).1] =
            .error e ∧
        Build.collect [(appRead.layer {}
          (Vault.nearbyClient.read (textual "beta") "secret/app" Vault.grantedToken)).1] =
            .error e' ∧ e.kind = e'.kind) ∧
      ∃ v v' : Json, dataOf? (textBody "alpha") ≠ dataOf? (textBody "beta") ∧
        Client.unexpected "secret/app" (.str "alpha") = Client.unexpected "secret/app" v ∧
        Client.unexpected "secret/app" (.str "beta") = Client.unexpected "secret/app" v' := by
  have alike := textBody_alike "alpha" "beta"
  obtain ⟨-, builds, -, -, quotes⟩ := fails_alike (r := appRead) failsOn_alpha failsOn_beta alike
  obtain ⟨hbuild, hbuild'⟩ := builds {} [] []
  refine ⟨failsOn_alpha, failsOn_beta, alike, ⟨_, _, hbuild, hbuild', rfl⟩, ?_⟩
  rcases quotes (isValued_textBody "alpha") (isValued_textBody "beta") with ⟨unread, -⟩ |
    ⟨-, -, v, v', -, -, -, -, hv, hv', -⟩
  · exact absurd unread (by decide +kernel)
  · refine ⟨v, v', ?_, hv, hv'⟩
    intro same
    have htext : Document.str (some "alpha") = .str (some "beta") := Option.some.inj same
    exact absurd htext (by simp)

/-- The faults of two reads tell the data of the answers, and so do the errors of a build. -/
theorem textual_tells_data :
    AlikeButData (textBody "alpha") (textBody "beta") ∧
      FailsOn Vault.nearbyClient (textual "alpha") "secret/app" Vault.grantedToken
        (textBytes "alpha") (textBody "alpha")
        (.invalidResponse "expected an object at 'secret/app', got \"alpha\"") ∧
      FailsOn Vault.nearbyClient (textual "beta") "secret/app" Vault.grantedToken
        (textBytes "beta") (textBody "beta")
        (.invalidResponse "expected an object at 'secret/app', got \"beta\"") ∧
      (Error.store
        (.invalidResponse "expected an object at 'secret/app', got \"alpha\"")).message ≠
      (Error.store
        (.invalidResponse "expected an object at 'secret/app', got \"beta\"")).message := by
  have alpha : Client.unexpected "secret/app" (.str "alpha") =
      .invalidResponse "expected an object at 'secret/app', got \"alpha\"" := by decide +kernel
  have beta : Client.unexpected "secret/app" (.str "beta") =
      .invalidResponse "expected an object at 'secret/app', got \"beta\"" := by decide +kernel
  refine ⟨textBody_alike "alpha" "beta", ?_, ?_, by decide +kernel⟩
  · rw [← alpha]
    exact failsOn_alpha
  · rw [← beta]
    exact failsOn_beta

end PlannedRead

end SecretConfig
