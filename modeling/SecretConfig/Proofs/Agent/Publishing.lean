import SecretConfig.Proofs.Agent.Turns

set_option autoImplicit false

/-! # What a source publishes

Any number of refreshes may be asked for, fail and be dropped, while others write to the store. The
source publishes what the refresh has built that was the last to succeed, and since refreshes take
turns, all others had done with their reads before this one began (`SharedRun.refreshes_in_turn`).

`InTurn` is what all runs keep for that: who builds has the turn, the moments since it began are the
latest ones (`Underway`), and what is published is the last success (`Published`). -/

namespace SecretConfig

theorem Snapshot.ofLayers_nil : ofLayers [] = {} := by
  rw [ofLayers, Layer.merge, Layer.sorted_nil]
  rfl

namespace Source

variable (source : Source) (id : CallId)

@[simp] theorem published_acquire : (source.acquire id).published = source.published := by
  unfold acquire
  split <;> rfl

@[simp] theorem published_release : source.release.published = source.published := by
  unfold release
  split <;> rfl

@[simp] theorem published_drop : (source.drop id).published = source.published := by
  unfold drop
  split
  · exact source.published_release
  · rfl

@[simp] theorem published_publish (layers : List Layer) :
    (source.publish layers).published = Snapshot.ofLayers layers :=
  published_release _

/-- Who asks for a turn does not take it from another. -/
theorem active_acquire {source : Source} {other : CallId} (h : source.active = some other) :
    (source.acquire id).active = some other := by
  simp only [acquire, h]

/-- Who goes away does not take the turn of another along. -/
theorem active_drop {source : Source} {other : CallId} (h : source.active = some other)
    (ne : other ≠ id) : (source.drop id).active = some other := by
  have kept : source.active ≠ some id := by
    rw [h]
    exact fun he => ne (Option.some.inj he)
  rw [drop, if_neg kept]
  exact h

end Source

namespace Agent

variable {start s s' : Agent} {history past build : List Moment} {m w : Moment}
  {id other : CallId} {a : Act} {o : BuildOptions} {reads : List PlannedRead}
  {layers : List Layer} {snapshot : Snapshot}

/-! ## Runs over a store that others use as well -/

/-- The runs of an agent from a start, the latest moment first. Between its acts others may do
anything to the store and to the files. -/
inductive SharedRun (start : Agent) : List Moment → Agent → Prop
  | start : SharedRun start [] start
  | next {past : List Moment} {s s' : Agent} {a : Act} (run : SharedRun start past s)
      (step : s.act a = some s') : SharedRun start (⟨s, a, s'⟩ :: past) s'
  | outside {past : List Moment} {s : Agent} (run : SharedRun start past s) (files : Files)
      (store : Store) : SharedRun start past { s with files, store }

theorem Run.shared (run : Run start history s) : SharedRun start history s := by
  induction run with
  | start => exact .start
  | next run step ih => exact .next ih step

/-! ## The moments of a refresh -/

/-- The moments since a refresh had its turn, the latest first. At the first of them it has planned
its reads, and no refresh has begun after that. -/
structure Opened (id : CallId) (build : List Moment) (o : BuildOptions)
    (reads : List PlannedRead) : Prop where
  begins : ∃ first, build.getLast? = some first ∧ first.Begins id ∧ first.sourcePlan = .ok reads ∧
    o = first.before.source.options
  single : ∀ m ∈ build.dropLast, ∀ id', ¬ m.Begins id'

/-- The moments of a refresh from its turn to its success, the latest first. It has sent all reads
that it planned, with one token, and its layers are those of the answers to them. Nobody else has
begun or succeeded meanwhile. -/
structure IsRefresh (id : CallId) (build : List Moment) (layers : List Layer) : Prop where
  built : ∃ o reads t answers, Opened id build o reads ∧
    readsSent build id = reads.map (·, t) ∧ answers.length = reads.length ∧
    (∀ (index : Nat) r answer, reads[index]? = some r → answers[index]? = some answer →
      ∃ u ∈ build, u.readEnd? id = some (index, r, answer)) ∧
    Build.collect (Build.results o reads answers) = .ok layers
  succeeds : ∃ last, build.head? = some last ∧ last.Succeeds id
  alone : ∀ m ∈ build.tail, ∀ id', ¬ m.Succeeds id'

/-- A refresh builds, and has done so in the latest moments. -/
inductive Underway (id : CallId) (build : List Moment) (s : Agent) : Prop
  | obtaining {goal : Goal} {o : BuildOptions} {reads : List PlannedRead} {reply : Option Reply}
      (opened : Opened id build o reads) (alone : ∀ m ∈ build, ∀ id', ¬ m.Succeeds id')
      (unsent : readsSent build id = [])
      (task : s.task? id = some (.work goal (.obtaining o reads reply)))
  | reading {goal : Goal} {o : BuildOptions} {t : Token} {slots : List ReadSlot}
      (opened : Opened id build o (slots.map ReadSlot.read))
      (alone : ∀ m ∈ build, ∀ id', ¬ m.Succeeds id')
      (sent : readsSent build id = (slots.map ReadSlot.read).map (·, t))
      (answered : ∀ (index : Nat) r result, slots[index]? = some r → r.outcome = some result →
        ∃ answer, (∃ u ∈ build, u.readEnd? id = some (index, r.read, answer)) ∧
          result = (r.read.layer o answer).1)
      (task : s.task? id = some (.work goal (.reading o t slots)))

/-- What has been published in a history: the layers of the last refresh that succeeded. -/
inductive Published (history : List Moment) (snapshot : Snapshot) : Prop
  | nothing (none : ∀ m ∈ history, ∀ id, ¬ m.Succeeds id) (empty : snapshot = {})
  | last {id : CallId} {later build past : List Moment} {layers : List Layer}
      (split : history = later ++ (build ++ past)) (refresh : IsRefresh id build layers)
      (since : ∀ m ∈ later, ∀ id', ¬ m.Succeeds id')
      (published : snapshot = Snapshot.ofLayers layers)

/-- What all runs keep. -/
structure InTurn (history : List Moment) (s : Agent) : Prop where
  /-- Who builds has its turn. -/
  turn : ∀ id, s.Refreshes id → s.source.active = some id
  underway : ∀ id, s.Refreshes id → ∃ build past, history = build ++ past ∧ Underway id build s
  published : Published history s.source.published

/-! ## Moments at which nobody begins or succeeds -/

theorem HasRefreshed.not_refreshes (h : s.HasRefreshed id) : ¬ s.Refreshes id := by
  rintro ⟨t, ht, builds⟩
  obtain ⟨t', ht', refreshed⟩ := h
  obtain rfl := Option.some.inj (ht.symm.trans ht')
  cases t with
  | scheduler sched => exact nomatch builds
  | work goal stage =>
      cases stage with
      | obtaining | reading => exact nomatch refreshed
      | _ => exact nomatch builds

theorem Moment.Begins.not_refreshes (h : m.Begins id) : ¬ m.before.Refreshes id := by
  rintro ⟨t, ht, builds⟩
  obtain ⟨goal, -, hqueued⟩ := h.waited
  obtain rfl := Option.some.inj (hqueued.symm.trans ht)
  exact nomatch builds

theorem Moment.Begins.unsent (h : m.Begins id) : m.readsSent id = [] := by
  obtain ⟨goal, -, waited⟩ := h.waited
  simp [Moment.readsSent, waited]

/-- Only who has its turn begins. -/
theorem Moment.Begins.active (h : Moment.Begins ⟨s, a, s'⟩ id) (step : s.act a = some s') :
    s.source.active = some id := by
  obtain ⟨goal, -, ht⟩ := h.waited
  obtain rfl : a = .move (.resume id) := h.act
  have hstep : s.stepTask id = some s' := step
  have hqueued : s.task? id = some (.work goal .queued) := ht
  simp only [stepTask, hqueued, resumeWork, Option.ite_none_right_eq_some] at hstep
  exact hstep.1

theorem not_hasRefreshed_of_task? {t : Task} (ht : s.task? id = some t)
    (open' : t.isRefreshed = false) : ¬ s.HasRefreshed id := by
  rintro ⟨t', ht', refreshed⟩
  obtain rfl := Option.some.inj (ht.symm.trans ht')
  exact nomatch open'.symm.trans refreshed

/-- A refresh that does not succeed leaves what is published as it is. -/
theorem Moment.Turn.published (h : m.Turn id) :
    m.after.source.published = m.before.source.published ∧ ¬ m.after.HasRefreshed id ∨
      ∃ layers, m.before.source.active = some id ∧ m.Succeeds id ∧ m.Builds id layers ∧
        m.after.source.published = Snapshot.ofLayers layers := by
  cases h with
  | aside aside source => exact .inl ⟨by rw [source], aside.not_hasRefreshed⟩
  | asks aside source =>
      exact .inl ⟨by rw [source, Source.published_acquire], aside.not_hasRefreshed⟩
  | leaves aside source =>
      exact .inl ⟨by rw [source, Source.published_drop], aside.not_hasRefreshed⟩
  | obtains _ _ _ after source | sends _ _ after _ _ source | ends _ _ _ after source =>
      exact .inl ⟨by rw [source], not_hasRefreshed_of_task? after rfl⟩
  | publishes succeeds turn builds source =>
      exact .inr ⟨_, turn, succeeds, builds, by rw [source, Source.published_publish]⟩

/-- Only who has its turn succeeds. -/
theorem InTurn.active_of_succeeds (h : InTurn history s) (step : s.act a = some s')
    (succeeds : Moment.Succeeds ⟨s, a, s'⟩ id) : s.source.active = some id := by
  obtain rfl : a = .move (.resume id) := succeeds.act
  have own : (Act.move (.resume id)).IsOf id s := rfl
  rcases (own.turn (h.turn id) step).published with ⟨-, unfinished⟩ | ⟨layers, active, -⟩
  · exact absurd succeeds.refreshed unfinished
  · exact active

/-- An act that is not of a task leaves its build. -/
theorem spares_of_not_isOf (other : ¬ a.IsOf id s) (step : s.act a = some s') :
    s.Spares id s' := by
  by_cases own : ∃ caller, a.IsOf caller s
  · obtain ⟨caller, own⟩ := own
    refine own.spares ?_ step
    rintro rfl
    exact other own
  · exact (spares_of_act (fun caller h => own ⟨caller, h⟩) step).2 id

theorem Spares.refreshes (h : s.Spares id s') (builds : s'.Refreshes id) : s.Refreshes id := by
  obtain ⟨t', ht', hbuilding⟩ := builds
  obtain ⟨t, events, ht, rfl⟩ := h t' ht' hbuilding
  refine ⟨t, ht, ?_⟩
  rwa [Task.isBuilding_takeReplies] at hbuilding

/-- Who builds leaves no other room to begin or to succeed. -/
theorem InTurn.quiet (h : InTurn history s) (step : s.act a = some s') (builds : s.Refreshes id)
    (builds' : s'.Refreshes id) (other : CallId) :
    ¬ Moment.Begins ⟨s, a, s'⟩ other ∧ ¬ Moment.Succeeds ⟨s, a, s'⟩ other := by
  have holder := h.turn id builds
  constructor
  · intro begins
    obtain rfl := Option.some.inj (holder.symm.trans (begins.active step))
    exact begins.not_refreshes builds
  · intro succeeds
    obtain rfl := Option.some.inj (holder.symm.trans (h.active_of_succeeds step succeeds))
    exact succeeds.refreshed.not_refreshes builds'

/-! ## What one act keeps -/

theorem Opened.next (h : Opened id build o reads) (other : ∀ id', ¬ w.Begins id') :
    Opened id (w :: build) o reads where
  begins := by
    obtain ⟨first, hfirst, begins⟩ := h.begins
    exact ⟨first, by rw [List.getLast?_cons, hfirst, Option.getD_some], begins⟩
  single m hm := by
    obtain ⟨first, hfirst, -⟩ := h.begins
    have hne : build ≠ [] := by
      rintro rfl
      exact nomatch hfirst
    rw [List.dropLast_cons_of_ne_nil hne] at hm
    rcases List.mem_cons.1 hm with rfl | hm
    · exact other
    · exact h.single m hm

/-- A moment of others leaves a build under way. -/
theorem Underway.next (h : Underway id build s) (spares : s.Spares id s')
    (builds : s'.Refreshes id) (unsent : w.readsSent id = [])
    (quiet : ∀ id', ¬ w.Begins id' ∧ ¬ w.Succeeds id') : Underway id (w :: build) s' := by
  obtain ⟨t', ht', hbuilding⟩ := builds
  obtain ⟨t, events, ht, rfl⟩ := spares t' ht' hbuilding
  have still (alone : ∀ m ∈ build, ∀ id', ¬ m.Succeeds id') :
      ∀ m ∈ w :: build, ∀ id', ¬ m.Succeeds id' := by
    intro m hm
    rcases List.mem_cons.1 hm with rfl | hm
    · exact fun id' => (quiet id').2
    · exact alone m hm
  cases h with
  | obtaining opened alone none task =>
      obtain rfl := Option.some.inj (task.symm.trans ht)
      obtain ⟨reply, htake, -⟩ := takeReplies_obtaining id events _ _ _ _
      exact .obtaining (opened.next fun id' => (quiet id').1) (still alone)
        ((readsSent_cons unsent build).trans none) (ht'.trans (congrArg some htake))
  | reading opened alone sent answered task =>
      obtain rfl := Option.some.inj (task.symm.trans ht)
      rw [Task.takeReplies_eq_self fun _ => rfl] at ht'
      refine .reading (opened.next fun id' => (quiet id').1) (still alone)
        ((readsSent_cons unsent build).trans sent) ?_ ht'
      intro index r result hr hresult
      obtain ⟨answer, ⟨u, hu, ended⟩, made⟩ := answered index r result hr hresult
      exact ⟨answer, ⟨u, List.mem_cons_of_mem w hu, ended⟩, made⟩

/-- A refresh that has had its turn asks for a token. -/
theorem underway_of_begins {goal : Goal} {reply : Option Reply} (begins : w.Begins id)
    (plan : w.sourcePlan = .ok reads)
    (task : s'.task? id =
      some (.work goal (.obtaining w.before.source.options reads reply)))
    (failed : ∀ id', ¬ w.Succeeds id') : Underway id [w] s' := by
  refine .obtaining ⟨⟨w, rfl, begins, plan, rfl⟩, by simp⟩ ?_ (readsSent_cons begins.unsent [])
    task
  intro m hm
  obtain rfl := List.mem_singleton.1 hm
  exact failed

/-- A build that has got a token sends its reads. -/
theorem Underway.sends {goal : Goal} {t : Token} {slots : List ReadSlot}
    (h : Underway id build w.before) (act : w.act = .move (.resume id))
    (before : w.before.task? id =
      some (.work goal (.obtaining o (slots.map ReadSlot.read) (some (.token t)))))
    (after : s'.task? id = some (.work goal (.reading o t slots)))
    (waiting : ∀ r ∈ slots, r.outcome = none)
    (quiet : ∀ id', ¬ w.Begins id' ∧ ¬ w.Succeeds id') : Underway id (w :: build) s' := by
  cases h with
  | reading opened alone sent answered task => cases before.symm.trans task
  | obtaining opened alone none task =>
      obtain ⟨-, hstage⟩ := Task.work.inj (Option.some.inj (task.symm.trans before))
      obtain ⟨rfl, rfl, -⟩ := Stage.obtaining.inj hstage
      refine .reading (opened.next fun id' => (quiet id').1) ?_ ?_ ?_ after
      · exact List.forall_mem_cons.2 ⟨fun id' => (quiet id').2, alone⟩
      · have sent : w.readsSent id = (slots.map ReadSlot.read).map (·, t) := by
          simp [Moment.readsSent, act, before]
        rw [readsSent, List.flatMap_cons, sent]
        exact (congrArg _ none).trans (List.append_nil _)
      · intro index r result hr hresult
        rw [waiting r (List.mem_of_getElem? hr)] at hresult
        cases hresult

theorem readsSent_of_readEnd? {e : Nat × PlannedRead × ReadAnswer}
    (ended : w.readEnd? id = some e) : w.readsSent id = [] := by
  unfold Moment.readEnd? at ended
  split at ended
  · rename_i hact htask
    simp [Moment.readsSent, hact]
  · cases ended

/-- A read of a build ends. -/
theorem Underway.ends {goal : Goal} {t : Token} {slots : List ReadSlot} {index : Nat}
    {r : ReadSlot} {answer : ReadAnswer} (h : Underway id build w.before)
    (ended : w.readEnd? id = some (index, r.read, answer)) (slot : slots[index]? = some r)
    (before : w.before.task? id = some (.work goal (.reading o t slots)))
    (after : s'.task? id = some (.work goal (.reading o t
      (slots.set index { r with outcome := some (r.read.layer o answer).1 }))))
    (quiet : ∀ id', ¬ w.Begins id' ∧ ¬ w.Succeeds id') : Underway id (w :: build) s' := by
  cases h with
  | obtaining opened alone none task => exact nomatch before.symm.trans task
  | reading opened alone sent answered task =>
      obtain ⟨-, hstage⟩ := Task.work.inj (Option.some.inj (task.symm.trans before))
      obtain ⟨rfl, rfl, rfl⟩ := Stage.reading.inj hstage
      refine .reading ?_ ?_ ?_ ?_ after
      · rw [map_read_set slot]
        exact opened.next fun id' => (quiet id').1
      · exact List.forall_mem_cons.2 ⟨fun id' => (quiet id').2, alone⟩
      · rw [map_read_set slot]
        exact (readsSent_cons (readsSent_of_readEnd? ended) build).trans sent
      · intro k r' result hr' hresult
        -- of the slots only the one of this read has changed
        by_cases hk : index = k
        · subst hk
          obtain ⟨hlt, -⟩ := List.getElem?_eq_some_iff.1 slot
          rw [List.getElem?_set_self hlt] at hr'
          obtain rfl := Option.some.inj hr'
          exact ⟨answer, ⟨w, List.mem_cons_self, ended⟩, (Option.some.inj hresult).symm⟩
        · rw [List.getElem?_set_ne hk] at hr'
          obtain ⟨answer', ⟨u, hu, hended⟩, made⟩ := answered k r' result hr' hresult
          exact ⟨answer', ⟨u, List.mem_cons_of_mem w hu, hended⟩, made⟩

/-- Who builds after an act has its turn then. -/
theorem InTurn.turn_act (h : InTurn history s) (step : s.act a = some s')
    (builds : s'.Refreshes id) : s'.source.active = some id := by
  by_cases own : a.IsOf id s
  · cases own.turn (h.turn id) step with
    | aside aside | asks aside | leaves aside => exact absurd builds aside.not_refreshes
    | obtains begins turn plan task source => exact (congrArg Source.active source).trans turn
    | publishes succeeds => exact absurd builds succeeds.refreshed.not_refreshes
    | sends act before after reads open' source | ends ended slot before after source =>
        obtain ⟨t, ht, building⟩ := builds
        obtain rfl := Option.some.inj (after.symm.trans ht)
        exact (congrArg Source.active source).trans (h.turn id ⟨_, before, building⟩)
  · have holder := h.turn id ((spares_of_not_isOf own step).refreshes builds)
    by_cases others : ∃ caller, a.IsOf caller s
    · obtain ⟨caller, others⟩ := others
      have ne : id ≠ caller := by
        rintro rfl
        exact own others
      cases others.turn (h.turn caller) step with
      | aside _ source | obtains _ _ _ _ source | sends _ _ _ _ _ source
      | ends _ _ _ _ source => exact (congrArg Source.active source).trans holder
      | asks _ source =>
          exact (congrArg Source.active source).trans (Source.active_acquire _ holder)
      | leaves _ source =>
          exact (congrArg Source.active source).trans (Source.active_drop _ holder ne)
      | publishes _ turn => exact absurd (Option.some.inj (holder.symm.trans turn)) ne
    · exact (congrArg Source.active
        (spares_of_act (fun caller own' => others ⟨caller, own'⟩) step).1).trans holder

/-- Who builds after an act has done so since it had its turn. -/
theorem InTurn.underway_act (h : InTurn history s) (step : s.act a = some s')
    (builds : s'.Refreshes id) :
    ∃ build past, ⟨s, a, s'⟩ :: history = build ++ past ∧ Underway id build s' := by
  by_cases own : a.IsOf id s
  · cases own.turn (h.turn id) step with
    | aside aside | asks aside | leaves aside => exact absurd builds aside.not_refreshes
    | publishes succeeds => exact absurd builds succeeds.refreshed.not_refreshes
    | obtains begins turn plan task source =>
        refine ⟨[_], history, rfl, underway_of_begins begins plan task fun id' succeeds => ?_⟩
        obtain ⟨⟩ : Act.move (.resume id') = .move (.resume id) :=
          succeeds.act.symm.trans begins.act
        exact succeeds.refreshed.not_refreshes builds
    | sends act before after reads open' source =>
        have after' := builds
        obtain ⟨t, ht, building⟩ := after'
        obtain rfl := Option.some.inj (after.symm.trans ht)
        subst reads
        have before' : s.Refreshes id := ⟨_, before, building⟩
        obtain ⟨build, past, rfl, underway⟩ := h.underway id before'
        exact ⟨_ :: build, past, rfl, underway.sends act before after open'
          (h.quiet step before' builds)⟩
    | ends ended slot before after source =>
        have after' := builds
        obtain ⟨t, ht, building⟩ := after'
        obtain rfl := Option.some.inj (after.symm.trans ht)
        have before' : s.Refreshes id := ⟨_, before, building⟩
        obtain ⟨build, past, rfl, underway⟩ := h.underway id before'
        exact ⟨_ :: build, past, rfl, underway.ends ended slot before after
          (h.quiet step before' builds)⟩
  · have spares := spares_of_not_isOf own step
    have before := spares.refreshes builds
    obtain ⟨build, past, rfl, underway⟩ := h.underway id before
    exact ⟨_ :: build, past, rfl, underway.next spares builds (readsSent_of_not_isOf own)
      (h.quiet step before builds)⟩

/-- A refresh that succeeds was under way until then. -/
theorem InTurn.isRefresh (h : InTurn history s) (succeeds : Moment.Succeeds ⟨s, a, s'⟩ id)
    (builds : Moment.Builds ⟨s, a, s'⟩ id layers) :
    ∃ build past, ⟨s, a, s'⟩ :: history = build ++ past ∧ IsRefresh id build layers := by
  cases builds with
  | idle begins plan =>
      refine ⟨[_], history, rfl, ⟨_, [], default, [], ⟨⟨_, rfl, begins, plan, rfl⟩, by simp⟩,
        readsSent_cons begins.unsent [], rfl, by simp, ?_⟩, ⟨_, rfl, succeeds⟩, by simp⟩
      exact congrArg Except.ok Layer.sorted_nil
  | collected refreshes before ended collected =>
      obtain ⟨build, past, rfl, underway⟩ := h.underway id refreshes
      cases underway with
      | obtaining opened alone none task => exact nomatch before.symm.trans task
      | reading opened alone sent answered task =>
          rename_i t slots
          obtain ⟨-, hstage⟩ := Task.work.inj (Option.some.inj (before.symm.trans task))
          obtain ⟨rfl, rfl, rfl⟩ := Stage.reading.inj hstage
          have begins (id' : CallId) : ¬ Moment.Begins ⟨s, a, s'⟩ id' := by
            intro begins
            obtain ⟨⟩ : Act.move (.resume id') = .move (.resume id) :=
              begins.act.symm.trans succeeds.act
            exact begins.not_refreshes refreshes
          have unsent : Moment.readsSent ⟨s, a, s'⟩ id = [] := by simp [Moment.readsSent, before]
          obtain ⟨answers, hlength, hanswered, houtcomes⟩ := answers_of_slots
            (P := fun index r answer => ∃ u ∈ build, u.readEnd? id = some (index, r, answer))
            ended answered
          rw [houtcomes] at collected
          refine ⟨_ :: build, past, rfl, ⟨_, _, _, answers, opened.next begins,
            (readsSent_cons unsent build).trans sent, by rw [hlength, List.length_map], ?_,
            collected⟩, ⟨_, rfl, succeeds⟩, alone⟩
          intro index r answer hr hanswer
          obtain ⟨u, hu, hended⟩ := hanswered index r answer hr hanswer
          exact ⟨u, List.mem_cons_of_mem _ hu, hended⟩

theorem Published.next (h : Published history snapshot) (failed : ∀ id', ¬ w.Succeeds id') :
    Published (w :: history) snapshot := by
  cases h with
  | nothing none empty => exact .nothing (List.forall_mem_cons.2 ⟨failed, none⟩) empty
  | last split refresh since published =>
      subst split
      exact .last (List.cons_append ..).symm refresh (List.forall_mem_cons.2 ⟨failed, since⟩)
        published

/-- A moment at which no refresh succeeds leaves what is published. -/
theorem InTurn.published_of_fails (h : InTurn history s) (step : s.act a = some s')
    (failed : ∀ id, ¬ Moment.Succeeds ⟨s, a, s'⟩ id) :
    s'.source.published = s.source.published := by
  by_cases own : ∃ id, a.IsOf id s
  · obtain ⟨id, own⟩ := own
    rcases (own.turn (h.turn id) step).published with ⟨same, -⟩ | ⟨layers, -, succeeds, -⟩
    · exact same
    · exact absurd succeeds (failed id)
  · exact congrArg Source.published (spares_of_act (fun id h => own ⟨id, h⟩) step).1

/-- A refresh that succeeds publishes what it has built. -/
theorem InTurn.published_of_succeeds (h : InTurn history s) (step : s.act a = some s')
    (succeeds : Moment.Succeeds ⟨s, a, s'⟩ id) :
    ∃ build past layers, ⟨s, a, s'⟩ :: history = build ++ past ∧ IsRefresh id build layers ∧
      s'.source.published = Snapshot.ofLayers layers := by
  obtain rfl : a = .move (.resume id) := succeeds.act
  have own : (Act.move (.resume id)).IsOf id s := rfl
  rcases (own.turn (h.turn id) step).published with
    ⟨-, unfinished⟩ | ⟨layers, -, -, builds, published⟩
  · exact absurd succeeds.refreshed unfinished
  · obtain ⟨build, past, split, refresh⟩ := h.isRefresh succeeds builds
    exact ⟨build, past, layers, split, refresh, published⟩

theorem InTurn.published_act (h : InTurn history s) (step : s.act a = some s') :
    Published (⟨s, a, s'⟩ :: history) s'.source.published := by
  by_cases succeeds : ∃ id, Moment.Succeeds ⟨s, a, s'⟩ id
  · obtain ⟨id, succeeds⟩ := succeeds
    obtain ⟨build, past, layers, hsplit, refresh, published⟩ :=
      h.published_of_succeeds step succeeds
    have split : ⟨s, a, s'⟩ :: history = [] ++ (build ++ past) := hsplit
    exact .last split refresh (by simp) published
  · have failed (id : CallId) : ¬ Moment.Succeeds ⟨s, a, s'⟩ id := fun h => succeeds ⟨id, h⟩
    rw [h.published_of_fails step failed]
    exact h.published.next failed

theorem InTurn.act (h : InTurn history s) (step : s.act a = some s') :
    InTurn (⟨s, a, s'⟩ :: history) s' where
  turn _ := h.turn_act step
  underway _ := h.underway_act step
  published := h.published_act step

theorem SharedRun.inTurn (run : SharedRun start history s) (tasks : start.tasks = [])
    (new : start.source.published = {}) : InTurn history s := by
  induction run with
  | start =>
      have idle (id : CallId) : ¬ start.Refreshes id := by
        rintro ⟨t, ht, -⟩
        simp [task?, tasks] at ht
      refine ⟨fun id builds => absurd builds (idle id),
        fun id builds => absurd builds (idle id), ?_⟩
      exact .nothing (by simp) new
  | next run step ih => exact ih.act step
  | outside run files store ih =>
      refine ⟨ih.turn, fun id builds => ?_, ih.published⟩
      obtain ⟨build, past, hsplit, underway⟩ := ih.underway id builds
      refine ⟨build, past, hsplit, ?_⟩
      -- the task of a build does not depend on the store
      cases underway with
      | obtaining opened alone none task => exact .obtaining opened alone none task
      | reading opened alone sent answered task => exact .reading opened alone sent answered task

/-! ## One refresh after the other -/

variable {later later' past' build' : List Moment} {layers' : List Layer}

/-- A refresh that has succeeded is the last one to do so, or was over before that one began. -/
theorem IsRefresh.eq_or_suffix (refresh : IsRefresh id build layers)
    (refresh' : IsRefresh other build' layers') (since : ∀ m ∈ later, ∀ id', ¬ m.Succeeds id')
    (split : later ++ (build ++ past) = later' ++ (build' ++ past')) :
    build' ++ past' = build ++ past ∨ build' ++ past' <:+ past := by
  obtain ⟨last', hlast', succeeds'⟩ := refresh'.succeeds
  obtain ⟨rest', rfl⟩ : ∃ rest', build' = last' :: rest' := List.head?_eq_some_iff.1 hlast'
  have suffix : past <:+ later' ++ (last' :: rest' ++ past') := by
    rw [← split, ← List.append_assoc]
    exact List.suffix_append _ _
  rcases List.suffix_or_suffix_of_suffix suffix (List.suffix_append later' _) with hshort | hlong
  · obtain ⟨c, hc⟩ := hshort
    have hsplit : later ++ build = later' ++ c := by
      have hpast : later ++ build ++ past = later' ++ c ++ past := by
        rw [List.append_assoc, List.append_assoc, hc, split]
      exact List.append_cancel_right hpast
    cases c with
    | nil => exact .inr ⟨[], hc.symm⟩
    | cons first rest =>
        obtain rfl : first = last' := (List.cons.inj hc).1
        -- where the last success of this one stands among the moments since `past`
        rcases List.append_eq_append_iff.1 hsplit with ⟨e, -, hbuild⟩ | ⟨e, hlater, he⟩
        · cases e with
          | nil =>
              rw [List.nil_append] at hbuild
              exact .inl (by rw [← hc, hbuild])
          | cons head e =>
              have hmem : first ∈ build.tail := by simp [hbuild]
              exact absurd succeeds' (refresh.alone first hmem other)
        · cases e with
          | nil =>
              rw [List.nil_append] at he
              exact .inl (by rw [← hc, he])
          | cons head e =>
              obtain rfl : first = head := (List.cons.inj he).1
              have hmem : first ∈ later := by simp [hlater]
              exact absurd succeeds' (since first hmem other)
  · exact .inr hlong

theorem Opened.not_longer {o' : BuildOptions} {reads' : List PlannedRead} {c : List Moment}
    (h : Opened id build o reads) (h' : Opened other (build ++ c) o' reads') : c = [] := by
  by_cases hne : c = []
  · exact hne
  · obtain ⟨first, hfirst, begins, -⟩ := h.begins
    refine absurd begins (h'.single first ?_ id)
    rw [List.dropLast_append_of_ne_nil hne]
    exact List.mem_append_left _ (List.mem_of_getLast? hfirst)

/-- The moments of a refresh are determined by its success. -/
theorem IsRefresh.unique (refresh : IsRefresh id build layers)
    (refresh' : IsRefresh other build' layers') (split : build' ++ past' = build ++ past) :
    other = id ∧ build' = build ∧ past' = past := by
  obtain ⟨o, reads, -, -, opened, -⟩ := refresh.built
  obtain ⟨o', reads', -, -, opened', -⟩ := refresh'.built
  have same : build' = build ∧ past' = past := by
    rcases List.append_eq_append_iff.1 split with ⟨c, rfl, rfl⟩ | ⟨c, rfl, rfl⟩
    · obtain rfl := opened'.not_longer opened
      simp
    · obtain rfl := opened.not_longer opened'
      simp
  obtain ⟨rfl, rfl⟩ := same
  obtain ⟨last, hlast, succeeds⟩ := refresh.succeeds
  obtain ⟨last', hlast', succeeds'⟩ := refresh'.succeeds
  obtain rfl := Option.some.inj (hlast.symm.trans hlast')
  obtain ⟨⟩ : Act.move (.resume other) = .move (.resume id) :=
    succeeds'.act.symm.trans succeeds.act
  exact ⟨rfl, rfl, rfl⟩

/-- What happened until a moment is a run. -/
theorem SharedRun.until (run : SharedRun start history s) (split : history = later ++ m :: past) :
    SharedRun start past m.before ∧ m.before.act m.act = some m.after := by
  induction run generalizing later with
  | start => simp at split
  | outside run files store ih => exact ih split
  | next run step ih =>
      cases later with
      | nil =>
          obtain ⟨rfl, rfl⟩ := List.cons.inj split
          exact ⟨run, step⟩
      | cons w later => exact ih (List.cons.inj split).2

/-- **What a source publishes.** Let refreshes be asked for, fail and be dropped in any order, while
others do with the store and the files as they like.

* The properties are those merged from the layers.
* At most one refresh builds.
* Nothing changes at a moment at which no refresh succeeds.
* A refresh that succeeds publishes what it has built itself since it had its turn.
* Nothing is published before the first success. From then on it is what the last refresh has built
  that has succeeded; each other one was over before this one had its turn, with all of its reads. -/
theorem SharedRun.refreshes_in_turn (run : SharedRun start history s) (tasks : start.tasks = [])
    (new : start.source.published = {}) :
    s.source.published = Snapshot.ofLayers s.source.published.layers ∧
      (∀ id id', s.Refreshes id → s.Refreshes id' → id = id') ∧
      (∀ m ∈ history, (∀ id, ¬ m.Succeeds id) →
        m.after.source.published = m.before.source.published) ∧
      (∀ later m past id, history = later ++ m :: past → m.Succeeds id →
        ∃ build earlier layers, m :: past = build ++ earlier ∧ IsRefresh id build layers ∧
          m.after.source.published = Snapshot.ofLayers layers) ∧
      ((∀ m ∈ history, ∀ id, ¬ m.Succeeds id) ∧ s.source.published = {} ∨
        ∃ id later build past layers, history = later ++ (build ++ past) ∧
          IsRefresh id build layers ∧ s.source.published = Snapshot.ofLayers layers ∧
          ∀ id' later' build' past' layers', history = later' ++ (build' ++ past') →
            IsRefresh id' build' layers' →
              id' = id ∧ build' = build ∧ past' = past ∨ build' ++ past' <:+ past) := by
  have h := run.inTurn tasks new
  refine ⟨?_, ?_, ?_, ?_, ?_⟩
  · cases h.published with
    | nothing none empty =>
        rw [empty]
        exact Snapshot.ofLayers_nil.symm
    | last split refresh since published =>
        rw [published]
        rfl
  · intro id id' builds builds'
    exact Option.some.inj ((h.turn id builds).symm.trans (h.turn id' builds'))
  · intro m hm failed
    obtain ⟨later, past, split⟩ := List.append_of_mem hm
    obtain ⟨before, step⟩ := run.until split
    exact (before.inTurn tasks new).published_of_fails step failed
  · intro later m past id split succeeds
    obtain ⟨before, step⟩ := run.until split
    exact (before.inTurn tasks new).published_of_succeeds step succeeds
  · cases h.published with
    | nothing none empty => exact .inl ⟨none, empty⟩
    | last split refresh since published =>
        refine .inr ⟨_, _, _, _, _, split, refresh, published, ?_⟩
        intro id' later' build' past' layers' split' refresh'
        rcases refresh.eq_or_suffix refresh' since (split.symm.trans split') with hsame | hbefore
        · exact .inl (refresh.unique refresh' hsame)
        · exact .inr hbefore

/-- A shared run goes on with a run. -/
theorem SharedRun.append {later : List Moment} (before : SharedRun start history s)
    (run : Run s later s') : SharedRun start (later ++ history) s' := by
  induction run with
  | start => exact before
  | next run step ih => exact .next ih step

/-- A secret with a value for one key. -/
def secretOf (value : String) : Dict Payload :=
  Dict.ofList [("secret/app", ⟨Dict.ofList [("k", .str value)], none⟩)]

/-- An agent whose source has one backend. -/
def oldStart : Agent :=
  { overMemory { secrets := secretOf "old" } with
    source := { descriptors := [.keyValue "kv" "secret" "app" .v1] } }

/-- Three refreshes are asked for, and the first reads the secret. -/
def oldHistory : List Moment :=
  replay oldStart []
    [.spawn .refresh, .spawn .refresh, .spawn .refresh, .move (.resume 0), .move (.proceed 0),
      .move (.answer 0), .move (.resume 0), .move (.read 0 0)]

/-- Then somebody else writes to the store. -/
def newStart : Agent :=
  { latest oldStart oldHistory with
    store := match (latest oldStart oldHistory).store with
      | .memory m => .memory { m with secrets := secretOf "new" }
      | store => store }

/-- The first refresh publishes what it has read, the second is dropped while it reads, and the
third succeeds. -/
def newHistory : List Moment :=
  replay newStart []
    [.move (.resume 0), .move (.resume 1), .move (.resume 1), .drop 1, .move (.resume 2),
      .move (.resume 2), .move (.read 2 0), .move (.resume 2)]

theorem refreshes_in_turn_newHistory :
    SharedRun oldStart (newHistory ++ oldHistory) (latest newStart newHistory) ∧
      oldStart.tasks = [] ∧ oldStart.source.published = {} ∧
      newHistory.length = 8 ∧ oldHistory.length = 8 ∧
      (latest newStart newHistory).source.get? "k" = some (.str "new") ∧
      ∃ id later build past layers, newHistory ++ oldHistory = later ++ (build ++ past) ∧
        IsRefresh id build layers ∧
        (latest newStart newHistory).source.published = Snapshot.ofLayers layers ∧
        ∀ id' later' build' past' layers',
          newHistory ++ oldHistory = later' ++ (build' ++ past') →
            IsRefresh id' build' layers' →
              id' = id ∧ build' = build ∧ past' = past ∨ build' ++ past' <:+ past := by
  have first : SharedRun oldStart oldHistory (latest oldStart oldHistory) :=
    (Run.start.replay _).shared
  have run : SharedRun oldStart (newHistory ++ oldHistory) (latest newStart newHistory) :=
    (first.outside _ _).append (Run.start.replay _)
  have found : (latest newStart newHistory).source.get? "k" = some (.str "new") := by
    decide +kernel
  refine ⟨run, rfl, rfl, by decide +kernel, by decide +kernel, found, ?_⟩
  obtain ⟨-, -, -, -, ⟨-, empty⟩ | last⟩ := run.refreshes_in_turn rfl rfl
  · rw [Source.get?, empty] at found
    exact nomatch found
  · exact last

end Agent

end SecretConfig
