import SecretConfig.Proofs.Agent.Completing

set_option autoImplicit false

/-! # How builds end

A build ends in one of four stages: when its reads are planned, when there is nothing to read, when
the session gives it no token, or when all of its reads have ended. `Run.ends_in_stages` says which,
and with what.

`Run.builds_layers` is about a build that has succeeded: each backend that is enabled and resolves
was read once, all with one token, and made one layer, whatever the order in which the reads ended;
and the layers stand by ascending order. -/

namespace SecretConfig

theorem Reply.outcome_ne_layers (reply : Reply) (ls : List Layer) :
    reply.outcome ≠ .layers ls := by
  cases reply <;> exact nofun

namespace Agent

variable {start s : Agent} {past later : List Moment} {m : Moment} {id : CallId}
  {goal : Goal} {o : BuildOptions} {ds : List Descriptor} {endedAt : Instant} {ls : List Layer}

/-! ## Layers -/

/-- **The layers of a build.** Let a build that was asked for at `m` have ended with layers. There
is a token `t` with which it has sent one read for each descriptor that is enabled and resolves, in
the order of declaration; that is all it has asked of the store. Each of these reads has ended, and
the answer made one layer. What the build returns are these layers by ascending order, and layers of
one order in the order of declaration. -/
theorem Run.builds_layers (run : Run start (later ++ m :: past) s) (fresh : start.IsFresh)
    (act : m.act = .spawn (.layers o ds))
    (ended : s.result? m.before.nextId = some (endedAt, .layers ls)) :
    ∃ (t : Token) (made : List Layer),
      readsSent later m.before.nextId = (m.planned ds).map (·, t) ∧
      (∀ w ∈ later, w.act.IsOf m.before.nextId w.before →
        w.after.store = (w.readsSent m.before.nextId).foldl
          (fun store e => store.recordRead e.1.plan.path) w.before.store) ∧
      made.length = (m.planned ds).length ∧
      (∀ (index : Nat) r layer, (m.planned ds)[index]? = some r → made[index]? = some layer →
        ∃ v ∈ later, ∃ u ∈ later, ∃ answer,
          v.readsSent m.before.nextId = (m.planned ds).map (·, t) ∧
          u.EndsRead v m.before.nextId index o r t answer ∧ r.Yields o answer layer) ∧
      Layer.IsSorting made ls := by
  have asks := fun w hw => run.store_of_build (w := w) fresh act rfl hw
  obtain ⟨goal, ht⟩ := task?_of_result? ended
  have outcome_eq {goal' : Goal} {endedAt' : Instant} {outcome : Outcome}
      (ht' : s.task? m.before.nextId = some (.work goal' (.ended endedAt' outcome))) :
      outcome = .layers ls := by
    rw [result?_of_ended ht'] at ended
    exact (Prod.mk.inj (Option.some.inj ended)).2
  cases run.course fresh act rfl with
  | dropped gone unsent ht' => exact nomatch ht.symm.trans ht'
  | blocked obstacle unsent ht' => exact nomatch outcome_eq ht'
  | obtaining clear needed replied unsent ht' => exact nomatch ht.symm.trans ht'
  | reading clear needed sent reads follows ht' => exact nomatch ht.symm.trans ht'
  | denied clear needed refused failed replied unsent ht' =>
      exact absurd (outcome_eq ht') (Reply.outcome_ne_layers _ _)
  | idle clear empty unsent ht' =>
      obtain rfl : [] = ls := Outcome.layers.inj (outcome_eq ht')
      have hsorting := Layer.isSorting_sorted []
      rw [Layer.sorted_nil] at hsorting
      rw [empty]
      exact ⟨default, [], unsent, asks, rfl, by simp, hsorting⟩
  | collected clear needed sent complete answered ht' =>
      rename_i t v answers endedAt'
      have hconclusion := outcome_eq ht'
      -- collecting has not failed, for the build ended with layers
      obtain ⟨made, makes, rfl⟩ :
          ∃ made, Build.Makes o (m.planned ds) answers made ∧ Layer.sorted made = ls := by
        rcases Build.collect_cases complete with ⟨e, -, hcollect⟩ | ⟨made, makes, hcollect⟩
        · rw [hcollect] at hconclusion
          exact nomatch hconclusion
        · rw [hcollect] at hconclusion
          exact ⟨made, makes, Outcome.layers.inj hconclusion⟩
      refine ⟨t, made, sent.once, asks, makes.length, ?_, Layer.isSorting_sorted made⟩
      intro index r layer hr hlayer
      obtain ⟨hlt, -⟩ := List.getElem?_eq_some_iff.1 hr
      obtain ⟨answer, hanswer⟩ : ∃ answer, answers[index]? = some answer :=
        ⟨_, List.getElem?_eq_getElem (complete ▸ hlt)⟩
      obtain ⟨u, hu, ends⟩ := answered index r answer hr hanswer
      exact ⟨v, sent.sent, u, hu, answer, sent.reads, ends,
        makes.yields index r answer layer hr hanswer hlayer⟩

/-- A store with two secrets, one of which takes half a second to read. -/
def unevenStore : MemoryStore :=
  { secrets := Dict.ofList
      [("secret/slow", ⟨Dict.ofList [("k", .str "v")], none⟩),
       ("secret/fast", ⟨Dict.ofList [("k", .str "w")], none⟩)]
    readDelays := Dict.ofList [("secret/slow", (500 : Duration))] }

def unevenStart : Agent := overMemory unevenStore

/-- Four backends of one order; one of them is disabled, and one does not resolve. -/
def unevenBackends : List Descriptor :=
  [.keyValue "slow" "secret" "slow" .v1,
   { Descriptor.keyValue "off" "secret" "off" .v1 with enabled := false },
   .keyValue "nowhere" "" "nowhere" .v1,
   .keyValue "fast" "secret" "fast" .v1]

/-- A build is asked for. -/
def unevenBuild : Moment := asked unevenStart (.layers {} unevenBackends)

/-- The second read ends first. -/
def unevenLater : List Moment :=
  replay unevenBuild.after []
    [.move (.proceed 0), .move (.answer 0), .move (.resume 0), .move (.read 0 1),
      .move (.pass 500), .move (.read 0 0), .move (.resume 0)]

def unevenLayers : List Layer :=
  [{ source := "slow", order := 0, properties := Dict.ofList [("k", .str "v")] },
   { source := "fast", order := 0, properties := Dict.ofList [("k", .str "w")] }]

theorem sorted_unevenLayers : Layer.sorted unevenLayers = unevenLayers :=
  List.mergeSort_of_pairwise (by decide)

theorem builds_layers_unevenLater :
    unevenStart.IsFresh ∧
      Run unevenStart (unevenLater ++ [unevenBuild]) (latest unevenBuild.after unevenLater) ∧
      (latest unevenBuild.after unevenLater).result? unevenBuild.before.nextId =
        some (500, .layers unevenLayers) ∧
      ∃ (t : Token) (made : List Layer),
        readsSent unevenLater unevenBuild.before.nextId =
          (unevenBuild.planned unevenBackends).map (·, t) ∧
        made.length = 2 ∧ Layer.IsSorting made unevenLayers := by
  have run : Run unevenStart (unevenLater ++ [unevenBuild])
      (latest unevenBuild.after unevenLater) := run_asked unevenStart _ _
  have ended : (latest unevenBuild.after unevenLater).result? unevenBuild.before.nextId =
      some (500, .layers unevenLayers) := by
    rw [← sorted_unevenLayers]
    rfl
  refine ⟨isFresh_overMemory unevenStore, run, ended, ?_⟩
  obtain ⟨t, made, sent, -, hlength, -, sorting⟩ :=
    run.builds_layers (isFresh_overMemory unevenStore) rfl ended
  have two : (unevenBuild.planned unevenBackends).length = 2 := by decide
  exact ⟨t, made, sent, hlength.trans two, sorting⟩

/-! ## Stages -/

/-- **A build ends in stages.** Let a build be asked for at `m` and not be dropped.

* If a descriptor is an obstacle, the build has failed at once with the error of the first of these,
  and asks nobody for anything.
* Otherwise, if no descriptor is to be read, it has succeeded at once, and asks nobody for anything.
* Otherwise the moves of the agent bring it to its end. It ends when the session replies without a
  token, with this reply and without reads; or when all of its reads have ended, with the error of
  the first read in the order of declaration that fails, or with the layers that all reads have
  made. -/
theorem Run.ends_in_stages (run : Run start (later ++ m :: past) s) (fresh : start.IsFresh)
    (act : m.act = .spawn goal) (build : goal.build? = some (o, ds))
    (kept : ∀ u ∈ later, u.act ≠ .drop m.before.nextId) :
    (∀ e, ds.findSome? (m.before.registry.obstacle? o) = some e →
      m.IsSilent ∧ readsSent later m.before.nextId = [] ∧
        s.result? m.before.nextId = some (m.before.now, .failed e)) ∧
    (ds.findSome? (m.before.registry.obstacle? o) = none → m.planned ds = [] →
      m.IsSilent ∧ readsSent later m.before.nextId = [] ∧
        s.result? m.before.nextId = some (m.before.now, goal.conclusion (.ok []))) ∧
    (ds.findSome? (m.before.registry.obstacle? o) = none → m.planned ds ≠ [] →
      s.result? m.before.nextId = none ∧ s.CanEnd m.before.nextId ∨
      (∃ endedAt reply, (∀ t, reply ≠ .token t) ∧ reply ≠ .closed ∧
        (∃ u ∈ later ++ [m], u.Replies m.before.nextId reply) ∧
        readsSent later m.before.nextId = [] ∧
        s.result? m.before.nextId = some (endedAt, reply.outcome)) ∨
      ∃ endedAt t v answers, HasSent m ds later t v ∧
        answers.length = (m.planned ds).length ∧
        (∀ (index : Nat) r answer, (m.planned ds)[index]? = some r →
          answers[index]? = some answer →
            ∃ u ∈ later, u.EndsRead v m.before.nextId index o r t answer) ∧
        ((∃ e, Build.Breaks o (m.planned ds) answers e ∧
            s.result? m.before.nextId = some (endedAt, .failed e)) ∨
          ∃ made, Build.Makes o (m.planned ds) answers made ∧
            s.result? m.before.nextId =
              some (endedAt, goal.conclusion (.ok (Layer.sorted made))))) := by
  obtain ⟨trace, traced⟩ := run.traced fresh
  have silent := run.silent_of_build fresh act build
  cases run.course fresh act build with
  | dropped gone =>
      obtain ⟨u, hu, drops⟩ := gone
      exact absurd drops (kept u hu)
  | blocked obstacle unsent ht =>
      refine ⟨fun e he => ?_, fun clear => ?_, fun clear => ?_⟩
      · obtain rfl := Option.some.inj (obstacle.symm.trans he)
        exact ⟨silent (.inl (by simp [he])), unsent, result?_of_ended ht⟩
      · exact nomatch obstacle.symm.trans clear
      · exact nomatch obstacle.symm.trans clear
  | idle clear empty unsent ht =>
      refine ⟨fun e he => (nomatch clear.symm.trans he), fun _ _ => ?_, fun _ needed => ?_⟩
      · exact ⟨silent (.inr empty), unsent, result?_of_ended ht⟩
      · exact absurd empty needed
  | obtaining clear needed replied unsent ht =>
      exact ⟨fun e he => (nomatch clear.symm.trans he), fun _ empty => absurd empty needed,
        fun _ _ => .inl ⟨by simp only [result?, ht], traced.canEnd_of_obtaining build ht⟩⟩
  | reading clear needed sent reads follows ht =>
      exact ⟨fun e he => (nomatch clear.symm.trans he), fun _ empty => absurd empty needed,
        fun _ _ => .inl ⟨by simp only [result?, ht], canEnd_of_reading build ht⟩⟩
  | denied clear needed refused failed replied unsent ht =>
      refine ⟨fun e he => (nomatch clear.symm.trans he), fun _ empty => absurd empty needed,
        fun _ _ => .inr (.inl ?_)⟩
      exact ⟨_, _, refused, failed, replied, unsent, result?_of_ended ht⟩
  | collected clear needed sent complete answered ht =>
      rename_i t v answers endedAt
      refine ⟨fun e he => (nomatch clear.symm.trans he), fun _ empty => absurd empty needed,
        fun _ _ => .inr (.inr ⟨endedAt, t, v, answers, sent, complete, answered, ?_⟩)⟩
      have hresult := result?_of_ended ht
      rcases Build.collect_cases complete with ⟨e, breaks, hcollect⟩ | ⟨made, makes, hcollect⟩
      · rw [hcollect] at hresult
        exact .inl ⟨e, breaks, hresult⟩
      · rw [hcollect] at hresult
        exact .inr ⟨made, makes, hresult⟩

/-- A store in which one backend takes its time to find nothing, and one is not there. -/
def faultyStore : MemoryStore :=
  { readFailures := Dict.ofList [("secret/down", .unavailable "connection refused")]
    readDelays := Dict.ofList [("secret/lost", (500 : Duration))] }

def faultyStart : Agent := overMemory faultyStore

/-- Both backends fail; the first has to be there. -/
def faultyBackends : List Descriptor :=
  [{ Descriptor.keyValue "lost" "secret" "lost" .v1 with failFast := true },
   .keyValue "down" "secret" "down" .v1]

def faultyBuild : Moment := asked faultyStart (.layers {} faultyBackends)

/-- The second read ends first, and the build fails with the error of the first. -/
def faultyLater : List Moment :=
  replay faultyBuild.after []
    [.move (.proceed 0), .move (.answer 0), .move (.resume 0), .move (.read 0 1),
      .move (.pass 500), .move (.read 0 0), .move (.resume 0)]

theorem ends_in_stages_faultyLater :
    faultyStart.IsFresh ∧
      Run faultyStart (faultyLater ++ [faultyBuild]) (latest faultyBuild.after faultyLater) ∧
      (∀ u ∈ faultyLater, u.act ≠ .drop faultyBuild.before.nextId) ∧
      (latest faultyBuild.after faultyLater).result? faultyBuild.before.nextId =
        some (500, .failed (.missingSecret "lost" "secret/lost")) ∧
      ∃ answers, Build.Breaks {} (faultyBuild.planned faultyBackends) answers
        (.missingSecret "lost" "secret/lost") := by
  have run : Run faultyStart (faultyLater ++ [faultyBuild])
      (latest faultyBuild.after faultyLater) := run_asked faultyStart _ _
  have kept : ∀ u ∈ faultyLater, u.act ≠ .drop faultyBuild.before.nextId := by
    intro u hu hdrop
    have hact := act_of_mem_replay hu
    simp [hdrop] at hact
  have ended : (latest faultyBuild.after faultyLater).result? faultyBuild.before.nextId =
      some (500, .failed (.missingSecret "lost" "secret/lost")) := by decide +kernel
  refine ⟨isFresh_overMemory faultyStore, run, kept, ended, ?_⟩
  obtain ⟨-, -, stages⟩ := run.ends_in_stages (isFresh_overMemory faultyStore) rfl rfl kept
  rcases stages (by decide) (by decide) with ⟨underWay, -⟩ |
    ⟨endedAt, reply, refused, failed, -, unsent, hresult⟩ |
    ⟨endedAt, t, v, answers, -, -, -, ⟨e, breaks, hresult⟩ | ⟨made, -, hresult⟩⟩
  · exact nomatch underWay.symm.trans ended
  · have hsent : readsSent faultyLater faultyBuild.before.nextId ≠ [] := by decide +kernel
    exact absurd unsent hsent
  · obtain ⟨-, houtcome⟩ := Prod.mk.inj (Option.some.inj (hresult.symm.trans ended))
    obtain rfl := Outcome.failed.inj houtcome
    exact ⟨answers, breaks⟩
  · exact nomatch hresult.symm.trans ended

end Agent

end SecretConfig
