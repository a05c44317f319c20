import Mathlib.Data.List.Basic
import SecretConfig.Proofs.Agent.Building
import SecretConfig.Proofs.Agent.Ledger
import SecretConfig.Proofs.Vault.Answers

set_option autoImplicit false

/-! # Builds over a server

An agent over a server keeps its server: nothing that the agent does changes the client or the
network (`Run.store_remote`). A read takes no time of its own then, so it ends with what the client
makes of the answer, and the end of a build that has sent its reads is a function of these answers
(`Run.collected_of_server`). -/

namespace SecretConfig

open Vault (Client Network Operation nearbyClient nearbyRequest grantedToken)

variable {c : Client} {net : Network}

/-! ## Stores -/

namespace Store

theorem recordReads_remote (reads : List PlannedRead) :
    reads.foldl (fun store r => store.recordRead r.plan.path) (remote c net) = remote c net := by
  induction reads with
  | nil => rfl
  | cons r rest ih => exact ih

/-- A server is the same after it has answered. -/
theorem answer_remote (c : Client) (net : Network) (request : SessionRequest) :
    ((remote c net).answer request).2 = remote c net := by
  cases request with
  | login | unsent | renewal => rfl
  | revocation t =>
      simp only [answer, revoke]
      split
      · rename_i heq
        exact (Prod.mk.inj heq).2.symm
      · rename_i heq
        exact (Prod.mk.inj heq).2.symm

end Store

namespace Agent

variable {start s s' : Agent} {history past later : List Moment} {m u v : Moment} {id index : Nat}
  {goal : Goal} {o : BuildOptions} {ds : List Descriptor} {a : Act} {endedAt : Instant}
  {outcome : Outcome}

/-! ## Acts -/

theorem KeepsStore.remote (h : s.KeepsStore s') (server : s.store = .remote c net) :
    s'.store = .remote c net := by
  obtain ⟨reads, hstore⟩ := h
  rw [hstore, server]
  exact Store.recordReads_remote reads

/-- A task that acts for itself leaves the server as it is. -/
theorem perform_remote (server : s.store = .remote c net) (id : CallId) (goal : Goal) :
    (s.perform id goal).store = .remote c net := by
  cases goal with
  | login strategy =>
      simp only [perform, server]
      split
      · exact server
      · rfl
  | renew t =>
      simp only [perform, server, Store.renew]
      cases c.renew net t with
      | ok g => rfl
      | error fault => rfl
  | revoke t =>
      simp only [perform, server, Store.revoke]
      cases c.revoke net t with
      | ok g => rfl
      | error fault => rfl
  | read path t =>
      simp only [perform, server, Store.read]
      cases c.read net path t with
      | ok p => exact server
      | error fault => exact server
  | write path t data =>
      simp only [perform, server, Store.write]
      cases c.write net path t data with
      | ok g => rfl
      | error fault => rfl
  | call | layers | properties | refresh | load | start | stop | stopScheduler | pause =>
      exact server

theorem enter_remote (server : s.store = .remote c net) (id : CallId) (goal : Goal) :
    (s.enter id goal).store = .remote c net := by
  cases goal with
  | call | start => exact (store_ask _ id _).trans server
  | layers | properties => exact (store_enterBuild s id _ _ _).trans server
  | refresh | load => exact server
  | stop => exact (store_enterStop s id _ _ _).trans server
  | stopScheduler | pause | login | renew | revoke | write => exact server
  | read path t =>
      show s.store.recordRead path = .remote c net
      rw [server]
      rfl

/-- The moves of tasks leave the server as it is. -/
theorem stepTask_remote (server : s.store = .remote c net) (step : s.stepTask id = some s') :
    s'.store = .remote c net := by
  cases resumes_of_stepTask step with
  | @works goal stage ht step =>
      by_cases waits : ∃ readyAt, stage = .waiting readyAt
      · obtain ⟨readyAt, rfl⟩ := waits
        simp only [resumeWork, Option.ite_none_right_eq_some, Option.some.injEq] at step
        obtain ⟨-, rfl⟩ := step
        exact perform_remote server id goal
      · have own (readyAt : Instant) : stage ≠ .waiting readyAt := fun h => waits ⟨readyAt, h⟩
        exact (keepsStore_of_resumeWork own step).remote server
  | turns ht turn after =>
      subst after
      exact (store_turn s id _).trans server

/-- Whatever an agent does, it keeps its server. -/
theorem act_remote (server : s.store = .remote c net) (step : s.act a = some s') :
    s'.store = .remote c net := by
  cases a with
  | spawn goal =>
      obtain rfl := Option.some.inj step
      refine enter_remote ?_ s.nextId goal
      exact server
  | startScheduler policy =>
      obtain rfl := Option.some.inj step
      exact server
  | drop id =>
      obtain rfl := Option.some.inj step
      exact (store_abandon s id).trans server
  | move move =>
      cases move with
      | proceed id =>
          obtain ⟨events, steps, -⟩ := steps_of_stepSession (a := .move (.proceed id)) rfl rfl step
          exact steps.store.trans server
      | answer id =>
          obtain ⟨r, -, -, answered⟩ := stepSession_of_answer step
          obtain ⟨session, events, -, absorbs⟩ := absorbs_of_stepSession answered
          rw [absorbs.store, server]
          exact Store.answer_remote c net r.request
      | expire id =>
          obtain ⟨r, -, -, expired⟩ := stepSession_of_expire step
          obtain ⟨session, events, -, absorbs⟩ := absorbs_of_stepSession expired
          exact absorbs.store.trans server
      | read id index =>
          obtain ⟨goal, o, t, slots, slots', records, -, rfl⟩ := park_of_stepRead step
          exact server
      | resume id => exact stepTask_remote server step
      | wake id cause =>
          obtain ⟨sched, next, -, -, rfl⟩ := turn_of_wake step
          exact (store_turn s id next).trans server
      | pass now =>
          obtain ⟨-, rfl⟩ := eq_of_pass step
          exact server

theorem Run.store_remote (run : Run start history s) (server : start.store = .remote c net) :
    s.store = .remote c net ∧ ∀ u ∈ history, u.before.store = .remote c net := by
  induction run with
  | start => exact ⟨server, fun u hu => absurd hu List.not_mem_nil⟩
  | next run step ih =>
      obtain ⟨before, all⟩ := ih
      exact ⟨act_remote before step, List.forall_mem_cons.2 ⟨before, all⟩⟩

/-! ## Builds -/

/-- A read over a server ends with what the client makes of the answer. -/
theorem Moment.EndsRead.eq_read {r : PlannedRead} {t : Token} {answer : ReadAnswer}
    (h : u.EndsRead v id index o r t answer) (sent : v.before.store = .remote c net)
    (ended : u.before.store = .remote c net) : answer = c.read net r.plan.path t := by
  have hdelay : v.before.store.readDelay r.plan.path = 0 := by
    rw [sent]
    rfl
  rcases h.answer with ⟨-, hanswer⟩ | ⟨early, late, -⟩
  · rw [hanswer, ended]
    rfl
  · -- there is no time in which the server had not answered yet
    have hnow : ¬ u.before.now < v.before.now := by
      have hle : v.before.now ≤ v.before.now + o.readTimeout := Nat.le_add_right _ _
      exact Nat.not_lt.2 (Nat.le_trans hle late)
    rw [hdelay] at early
    exact absurd early hnow

/-- **The end of a build over a server.** A build that has sent reads has sent all of them with one
token, and ends with what the answers to them come to. -/
theorem Run.collected_of_server (run : Run start (later ++ m :: past) s) (fresh : start.IsFresh)
    (server : start.store = .remote c net) (act : m.act = .spawn goal)
    (build : goal.build? = some (o, ds)) (sent : readsSent later m.before.nextId ≠ [])
    (ended : s.result? m.before.nextId = some (endedAt, outcome)) :
    ∃ t : Token, readsSent later m.before.nextId = (m.planned ds).map (·, t) ∧
      outcome = goal.conclusion (Build.collect (Build.results o (m.planned ds)
        ((m.planned ds).map fun r => c.read net r.plan.path t))) := by
  obtain ⟨-, stores⟩ := run.store_remote server
  obtain ⟨goal', ht⟩ := task?_of_result? ended
  cases run.course fresh act build with
  | dropped _ _ ht' => exact nomatch ht.symm.trans ht'
  | blocked _ unsent | idle _ _ unsent | denied _ _ _ _ _ unsent => exact absurd unsent sent
  | obtaining _ _ _ unsent => exact absurd unsent sent
  | reading _ _ _ _ _ ht' => exact nomatch ht.symm.trans ht'
  | collected clear needed hasSent complete answered ht' =>
      rename_i t v answers endedAt'
      rw [result?_of_ended ht'] at ended
      obtain ⟨-, rfl⟩ := Prod.mk.inj (Option.some.inj ended)
      have store_of_later {u : Moment} (hu : u ∈ later) : u.before.store = .remote c net :=
        stores u (List.mem_append_left _ hu)
      have hanswers : answers = (m.planned ds).map fun r => c.read net r.plan.path t := by
        refine List.ext_getElem (by simpa using complete) fun index hanswer hread => ?_
        have hr := List.getElem?_eq_getElem (l := m.planned ds) (by simpa using hread)
        obtain ⟨u, hu, ends⟩ :=
          answered index _ _ hr (List.getElem?_eq_getElem hanswer)
        rw [List.getElem_map]
        exact ends.eq_read (store_of_later hasSent.sent) (store_of_later hu)
      exact ⟨t, hasSent.once, by rw [hanswers]⟩

/-- A server that grants every login and answers everything else by its path. -/
def openServer (answer : String → Vault.Exchange) : Network where
  answer request :=
    if request.body.isSome then
      .answered 200 <| .complete <| String.toUTF8
        "\x7b\"auth\":\x7b\"client_token\":\"s\",\"lease_duration\":60\x7d\x7d"
    else answer (String.ofList request.url.path)

/-- An agent over such a server. -/
def overServer (answer : String → Vault.Exchange) : Agent :=
  { overMemory {} with store := .remote nearbyClient (openServer answer) }

theorem isFresh_overServer (answer : String → Vault.Exchange) : (overServer answer).IsFresh :=
  ⟨rfl, rfl, rfl⟩

/-- The fault of a server that cannot serve. -/
def outage : StoreFault := .unavailable "503 Service Unavailable: 503 Service Unavailable"

/-- A build that makes an error of an answer fails. -/
theorem failed_of_error (answer : PlannedRead → ReadAnswer) {reads : List PlannedRead}
    {r : PlannedRead} {e : Error} (hr : r ∈ reads) (made : (r.layer o (answer r)).1 = .error e) :
    ∃ e', goal.conclusion (Build.collect (Build.results o reads (reads.map answer))) =
      .failed e' := by
  have hmem : .error e ∈ Build.results o reads (reads.map answer) := by
    rw [Build.results, List.zipWith_map_right, List.zipWith_self]
    exact List.mem_map.2 ⟨r, hr, made⟩
  cases hcollect : Build.collect (Build.results o reads (reads.map answer)) with
  | error e' => exact ⟨e', rfl⟩
  | ok layers =>
      obtain ⟨ls, hmade, -⟩ := Build.collect_eq_ok_iff.1 hcollect
      rw [hmade] at hmem
      obtain ⟨layer, -, hlayer⟩ := List.mem_map.1 hmem
      cases hlayer

/-- **The effect of answers on a build.** Let a build over a server have sent reads and ended. It
has sent all of them with one token, and its end is what the answers come to. To each complete
answer the build has given heed: to its status, its body and the layout of the backend, and whatever
is neither a missing secret, nor a secret, nor a denial has made it fail. -/
theorem Run.heeds_answers (run : Run start (later ++ m :: past) s) (fresh : start.IsFresh)
    (server : start.store = .remote c net) (act : m.act = .spawn goal)
    (build : goal.build? = some (o, ds)) (reads : readsSent later m.before.nextId ≠ [])
    (ended : s.result? m.before.nextId = some (endedAt, outcome)) :
    ∃ t : Token, readsSent later m.before.nextId = (m.planned ds).map (·, t) ∧
      outcome = goal.conclusion (Build.collect (Build.results o (m.planned ds)
        ((m.planned ds).map fun r => c.read net r.plan.path t))) ∧
      ∀ r ∈ m.planned ds, ∀ request status bytes,
        c.prepare .get r.plan.path (some t) none = .ok request →
        net request = .answered status (.complete bytes) →
        r.Heeds o status bytes (r.layer o (c.read net r.plan.path t)) ∧
          (Vault.Tells r.plan.layout status bytes .error → ∃ e, outcome = .failed e) := by
  obtain ⟨t, hsent, rfl⟩ := run.collected_of_server fresh server act build reads ended
  refine ⟨t, hsent, rfl, ?_⟩
  intro r hr request status bytes built answered
  have heeds := PlannedRead.heeds_answer o built answered
  refine ⟨heeds, fun other => ?_⟩
  obtain ⟨e, made⟩ := heeds.other other
  exact failed_of_error (fun r => c.read net r.plan.path t) hr made

/-- A server with one secret, which has a lease. -/
def leasing (path : String) : Vault.Exchange :=
  if path = "/v1/secret/app" then
    .answered 200 <| .complete <| String.toUTF8
      "\x7b\"data\":\x7b\"k\":\"v\"\x7d,\"lease_id\":\"l\",\"lease_duration\":60\x7d"
  else .answered 404 (.complete .empty)

/-- There is nothing for the first backend. -/
def leasingBackends : List Descriptor :=
  [.keyValue "lost" "secret" "lost" .v1, .keyValue "app" "secret" "app" .v1]

def leasingBuild : Moment := asked (overServer leasing) (.layers {} leasingBackends)

def leasingLater : List Moment :=
  replay leasingBuild.after []
    [.move (.proceed 0), .move (.answer 0), .move (.resume 0), .move (.read 0 1),
      .move (.read 0 0), .move (.resume 0)]

/-- The read of the first backend. -/
def lostRead : PlannedRead :=
  ⟨.keyValue "lost" "secret" "lost" .v1, { path := "secret/lost", order := 0, source := "lost" }⟩

def leasingLayers : List Layer :=
  [.vacant "lost" 0,
   { source := "app", order := 0, properties := Dict.ofList [("k", .str "v")]
     lease := some ⟨"l", 60000, false⟩ }]

theorem sorted_leasingLayers : Layer.sorted leasingLayers = leasingLayers :=
  List.mergeSort_of_pairwise (by decide)

theorem heeds_answers_leasingLater :
    Run (overServer leasing) (leasingLater ++ [leasingBuild])
        (latest leasingBuild.after leasingLater) ∧
      readsSent leasingLater leasingBuild.before.nextId =
        [(lostRead, grantedToken), (appRead, grantedToken)] ∧
      (∃ endedAt, (latest leasingBuild.after leasingLater).result? leasingBuild.before.nextId =
        some (endedAt, .layers leasingLayers)) ∧
      lostRead.Heeds {} 404 .empty (lostRead.layer {}
        (nearbyClient.read (openServer leasing) "secret/lost" grantedToken)) ∧
      ¬ Vault.Tells .flat 404 .empty .error := by
  have run : Run (overServer leasing) (leasingLater ++ [leasingBuild])
      (latest leasingBuild.after leasingLater) := run_asked _ _ _
  have sent : readsSent leasingLater leasingBuild.before.nextId =
      [(lostRead, grantedToken), (appRead, grantedToken)] := by decide +kernel
  have concluded : ((latest leasingBuild.after leasingLater).result?
      leasingBuild.before.nextId).isSome = true := by decide +kernel
  obtain ⟨⟨endedAt, outcome⟩, ended⟩ := Option.isSome_iff_exists.1 concluded
  have built : nearbyClient.prepare .get "secret/lost" (some grantedToken) none =
      .ok (nearbyRequest "lost") := by decide +kernel
  obtain ⟨t, reads, houtcome, heeds⟩ := run.heeds_answers (isFresh_overServer leasing) rfl rfl rfl
    (by simp [sent]) ended
  have planned : leasingBuild.planned leasingBackends = [lostRead, appRead] := by decide +kernel
  rw [planned] at heeds reads houtcome
  -- the token of the reads is the one that the server has granted
  obtain rfl : grantedToken = t := by simpa [sent] using reads
  have made : Build.results {} [lostRead, appRead]
      ([lostRead, appRead].map fun r =>
        nearbyClient.read (openServer leasing) r.plan.path grantedToken) =
      leasingLayers.map .ok := by decide +kernel
  have collected : Build.collect (leasingLayers.map .ok) = .ok leasingLayers :=
    Build.collect_eq_ok_iff.2 ⟨leasingLayers, rfl, sorted_leasingLayers.symm⟩
  rw [made, collected] at houtcome
  subst houtcome
  obtain ⟨lost, fails⟩ :=
    heeds lostRead List.mem_cons_self (nearbyRequest "lost") 404 .empty built rfl
  refine ⟨run, sent, ⟨endedAt, ended⟩, lost, fun other => ?_⟩
  obtain ⟨e, failed⟩ := fails other
  exact nomatch failed

end Agent

end SecretConfig
