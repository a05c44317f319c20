import SecretConfig.Proofs.Agent.Lifecycle

set_option autoImplicit false

/-! # From era to era

Whatever an agent does, and whatever it may be asked, it stands in some era afterwards
(`Era.act`). The tasks go on one at a time: a build goes on, ends, or fails and stops everything
again (`Builds`), and a task that stops the agent ends the session when the scheduler has
stopped. -/

namespace SecretConfig

namespace Agent

variable {start s s' : Agent} {id main caller : CallId} {trace : List Session.Moment}
  {scheduler : Option CallId} {goal : Goal} {stage : Stage} {t : Task}

/-! ## Stopping -/

theorem Era.enterClosing (ht : s.task? id = some t) (others : s.Others id fun id t => t.IsOver id)
    (free : s.session.active = none) (scheduler : Option CallId) (failure : Option Error) :
    (s.enterClosing id (.stop scheduler true failure) true).Era := by
  have closes : (s.enterClosing id (.stop scheduler true failure) true).task? id =
      some (.work (.stop scheduler true failure) (.closing none)) :=
    task?_park ht _ _
  have others' : (s.enterClosing id (.stop scheduler true failure) true).Others id
      fun id t => t.IsOver id :=
    others.park id (.stop scheduler true failure) (.closing none) fun hid => absurd rfl hid
  exact .closing closes others' (Session.isEnding_acquire free id)

theorem Era.enterStop (traced : Traced start trace none s) (ht : s.task? id = some t)
    (idle : t.awaits? = none) (others : s.Others id (Leftover scheduler))
    (failure : Option Error) : (s.enterStop id scheduler true failure).Era := by
  cases scheduler with
  | none =>
      have done := others.mono fun _ _ h => h.isOver
      have free := traced.free (done.awaits? ((awaits?_of_task? ht).trans idle))
      exact .enterClosing ht done free none failure
  | some target =>
      have stops := task?_park ht (.stop (some target) true failure)
        (.stopping target (s.now + stopGrace))
      have others' := others.park id (.stop (some target) true failure)
        (.stopping target (s.now + stopGrace)) fun hid => absurd rfl hid
      exact .busy (.stopping (task?_cancel_work stops target) (others'.cancel target))

/-! ## Builds -/

/-- What becomes of a refresh, or of the first refresh of a start, when it goes on. -/
inductive Builds (s : Agent) (id : CallId) (goal : Goal) (s' : Agent) : Prop
  | goes (stage : Stage) (building : stage.isBuild = true)
      (next : (s.park id goal stage).Replied s')
  | ends (outcome : Outcome)
      (fine : ∀ scheduler revoke, goal = .load scheduler revoke → outcome.EndsLoad scheduler)
      (next : (s.finish id goal outcome).Replied s')
  /-- A start that fails stops everything again. -/
  | fails {scheduler : Option CallId} {revoke : Bool} {e : Error} {source : Source}
      {metrics : Metrics} (load : goal = .load scheduler revoke)
      (next : s' = ({ s with source, metrics } : Agent).enterStop id scheduler revoke (some e))

theorem Builds.finishBuild (kind : goal.IsBuild) (s : Agent) (metrics : Metrics)
    (result : Except Error (List Layer)) :
    s.Builds id goal (({ s with metrics } : Agent).finishBuild id goal result) := by
  cases kind with
  | refresh =>
      cases result with
      | ok ls => exact .ends _ nofun (.of_tasks rfl)
      | error e => exact .ends _ nofun (.of_tasks rfl)
  | load scheduler revoke =>
      cases result with
      | ok ls =>
          refine .ends (.started scheduler) ?_ (.of_tasks rfl)
          intro scheduler' revoke' hload
          rw [(Goal.load.inj hload).1]
          exact .inl rfl
      | error e => exact .fails rfl rfl

theorem Builds.enterBuild (kind : goal.IsBuild) (s : Agent) (o : BuildOptions)
    (descriptors : List Descriptor) :
    s.Builds id goal (s.enterBuild id goal o descriptors) := by
  unfold Agent.enterBuild
  obtain ⟨planned, records⟩ := Build.plan s.registry o descriptors
  cases planned with
  | error e => exact .finishBuild kind s _ (.error e)
  | ok reads =>
      cases reads with
      | nil => exact .finishBuild kind s _ (.ok [])
      | cons r rest =>
          have hask := replied_ask ((s.record records).park id goal (.obtaining o (r :: rest) none))
            id .getToken
          exact .goes (.obtaining o (r :: rest) none) rfl hask

theorem Builds.of_resumeWork (kind : goal.IsBuild) (building : stage.isBuild = true)
    (step : s.resumeWork id goal stage = some s') : s.Builds id goal s' := by
  cases stage with
  | calling | stopping | closing | waiting | ended => cases building
  | queued =>
      simp only [Agent.resumeWork, Option.ite_none_right_eq_some, Option.some.injEq] at step
      obtain ⟨-, rfl⟩ := step
      exact .enterBuild kind s _ _
  | obtaining o reads reply =>
      cases reply with
      | none => cases step
      | some reply =>
          cases reply with
          | token t =>
              obtain rfl := Option.some.inj step
              exact .goes _ rfl (.of_tasks rfl)
          | failed e =>
              obtain rfl := Option.some.inj step
              exact .finishBuild kind s s.metrics (.error e)
          | closed =>
              obtain rfl := Option.some.inj step
              exact .ends .done (fun _ _ _ => .inr (.inl rfl)) (.of_tasks rfl)
          | crashed fault =>
              obtain rfl := Option.some.inj step
              exact .ends .crashed (fun _ _ _ => .inr (.inr rfl)) (.of_tasks rfl)
  | reading o t slots =>
      simp only [Agent.resumeWork, Option.ite_none_right_eq_some, Option.some.injEq] at step
      obtain ⟨-, rfl⟩ := step
      exact .finishBuild kind s s.metrics _

/-- The first refresh of a start goes on. -/
theorem Era.load (traced : Traced start trace none s)
    (main : s.task? 0 = some (.work (.load scheduler true) stage))
    (building : stage.isBuild = true) (others : s.Others 0 (Leftover scheduler))
    (step : s.resumeWork 0 (.load scheduler true) stage = some s') : s'.Era := by
  have idle := awaits?_of_resumeWork step
  cases Builds.of_resumeWork (.load scheduler true) building step with
  | goes stage' building' next =>
      have main' := task?_park main (.load scheduler true) stage'
      have others' := others.park 0 (.load scheduler true) stage' fun hid => absurd rfl hid
      exact .busy ((Busy.loading main' building' others').of_replied next)
  | ends outcome fine next =>
      have main' := task?_park main (.load scheduler true) (.ended s.now outcome)
      have others' := others.park 0 (.load scheduler true) (.ended s.now outcome)
        fun hid => absurd rfl hid
      exact .busy ((Busy.serving main' (fine scheduler true rfl)
        (others'.mono fun _ _ h => .inr h)).of_replied next)
  | @fails target revoke e source metrics load next =>
      obtain ⟨rfl, rfl⟩ := Goal.load.inj load
      subst next
      have traced' : Traced start trace none { s with source, metrics } :=
        traced.around rfl rfl rfl rfl rfl (Nat.le_refl _)
      exact .enterStop traced' main idle others (some e)

/-- A refresh goes on. -/
theorem Busy.refresh {endedAt : Instant} {outcome : Outcome}
    (main : s.task? 0 = some (.work (.load scheduler true) (.ended endedAt outcome)))
    (fine : outcome.EndsLoad scheduler)
    (others : s.Others 0 fun id t => t.IsRefresh ∨ Leftover scheduler id t) (hid : id ≠ 0)
    (building : stage.isBuild = true) (step : s.resumeWork id .refresh stage = some s') :
    s'.Busy := by
  have main' (stage : Stage) : (s.park id .refresh stage).task? 0 =
      some (.work (.load scheduler true) (.ended endedAt outcome)) :=
    (task?_park_of_ne (Ne.symm hid) .refresh stage).trans main
  cases Builds.of_resumeWork .refresh building step with
  | goes stage' building' next =>
      have others' := others.park id .refresh stage' fun _ => .inl (.builds building')
      exact (Busy.serving (main' _) fine others').of_replied next
  | ends outcome' _ next =>
      have others' := others.park id .refresh (.ended s.now outcome') fun _ => .inl .ended
      exact (Busy.serving (main' _) fine others').of_replied next
  | fails load => exact nomatch load

/-! ## A task goes on -/

theorem resumeWork_of_isOver (done : (Task.work goal stage).IsOver id) :
    s.resumeWork id goal stage = none := by
  cases done
  rfl

/-- The first login has ended and the start goes on. -/
theorem Era.loggedIn {policy : RenewalPolicy} {reply : Option Reply}
    (main : s.task? 0 = some (.work (.start policy true) (.calling reply)))
    (others : s.Others 0 fun id t => t.IsOver id)
    (blank : s.session.IsBlank ∨ ∃ t, reply = some (.token t))
    (step : s.resumeWork 0 (.start policy true) (.calling reply) = some s') : s'.Era := by
  cases reply with
  | none => exact nomatch step
  | some reply =>
      obtain rfl := Option.some.inj step
      have fails (outcome : Outcome) (failed : ∀ t, reply ≠ .token t)
          (kind : ∀ scheduler, outcome ≠ .started scheduler) :
          (s.finish 0 (.start policy true) outcome).Era := by
        have blank' := blank.resolve_right fun ⟨t, ht⟩ => failed t (Option.some.inj ht)
        have ended := task?_park main (.start policy true) (.ended s.now outcome)
        have others' := others.park 0 (.start policy true) (.ended s.now outcome)
          fun hid => absurd rfl hid
        exact .closed ended (.inr ⟨rfl, nofun, kind⟩) others' (.inl blank'.state)
      cases reply with
      | failed e => exact fails _ nofun nofun
      | closed => exact fails _ nofun nofun
      | crashed fault => exact fails _ nofun nofun
      | token t =>
          unfold Agent.loggedIn
          dsimp only
          split
          · -- the scheduler gets the next identity
            have main' := (task?_append s (s.nextId, .scheduler { policy }) (s.nextId + 1) 0)
            rw [main, Option.some_or] at main'
            have leftover := others.mono fun id t h => (Or.inl h : Leftover (some s.nextId) id t)
            have others' : (s.startScheduler policy).1.Others 0 (Leftover (some s.nextId)) :=
              leftover.append fun _ => .inr ⟨rfl, _, rfl⟩
            exact .busy (.loading (task?_park main' (.load (some s.nextId) true) .queued) rfl
              (others'.park 0 (.load (some s.nextId) true) .queued fun hid => absurd rfl hid))
          · have others' := others.mono fun id t h => (Or.inl h : Leftover none id t)
            exact .busy (.loading (task?_park main (.load none true) .queued) rfl
              (others'.park 0 (.load none true) .queued fun hid => absurd rfl hid))

/-- The scheduler has stopped, or is stopped now. -/
theorem Era.schedulerStopped (traced : Traced start trace none s) {target : CallId}
    {failure : Option Error} {deadline : Instant}
    (stops : s.task? main =
      some (.work (.stop (some target) true failure) (.stopping target deadline)))
    (others : s.Others main (Leftover (some target)))
    (step : s.resumeWork main (.stop (some target) true failure) (.stopping target deadline) =
      some s') : s'.Era := by
  simp only [Agent.resumeWork] at step
  split at step
  · rename_i hstopped
    obtain rfl := Option.some.inj step
    have done : s.Others main fun id t => t.IsOver id := by
      intro id t hid ht
      rcases others id t hid ht with done | ⟨hsched, sched, rfl⟩
      · exact done
      · -- this is the scheduler that was asked to stop
        obtain rfl := Option.some.inj hsched
        simp only [isStopped, Agent.scheduler?, ht, Option.all_some, Scheduler.isStopped,
          decide_eq_true_eq] at hstopped
        exact .stopped hstopped
    have free := traced.free (done.awaits? (by rw [awaits?_of_task? stops]; rfl))
    exact .enterClosing stops done free _ _
  · -- the grace is over, and the scheduler is cut off wherever it stands
    rename_i running
    simp only [Option.ite_none_right_eq_some, Option.some.injEq] at step
    obtain ⟨-, rfl⟩ := step
    cases hs : s.scheduler? target with
    | none => simp [isStopped, hs] at running
    | some sched =>
        have hsched := task?_of_scheduler? hs
        have hne : main ≠ target := by
          rintro rfl
          cases stops.symm.trans hsched
        have stops' := (task?_abort s hne).trans stops
        have done : (s.abort target).Others main fun id t => t.IsOver id := by
          intro id t hid ht
          by_cases hc : id = target
          · subst hc
            rw [Agent.abort, task?_modifyTask, if_pos rfl, task?_abandon, hsched] at ht
            obtain rfl := Option.some.inj ht
            exact .stopped rfl
          · rw [task?_abort s hc] at ht
            refine (others id t hid ht).resolve_right ?_
            rintro ⟨htarget, -⟩
            exact hc (Option.some.inj htarget).symm
        obtain ⟨calls, traced', -⟩ := traced.abort hsched
        have free := traced'.free (done.awaits? (by rw [awaits?_of_task? stops']; rfl))
        exact .enterClosing stops' done free _ _

theorem Busy.resumeWork (h : s.Busy) (traced : Traced start trace none s)
    (ht : s.task? id = some (.work goal stage)) (step : s.resumeWork id goal stage = some s') :
    s'.Era := by
  have leftover {scheduler : Option CallId} (h : Leftover scheduler id (.work goal stage)) :
      s'.Era := by
    rcases h with done | ⟨-, sched, hsched⟩
    · exact nomatch step.symm.trans (resumeWork_of_isOver done)
    · exact nomatch hsched
  cases h with
  | loading main building others =>
      rcases others.eq_or main ht with ⟨rfl, same⟩ | ⟨-, other⟩
      · obtain ⟨rfl, rfl⟩ := Task.work.inj same
        exact .load traced main building others step
      · exact leftover other
  | serving main fine others =>
      rcases others.eq_or main ht with ⟨rfl, same⟩ | ⟨hid, refresh | other⟩
      · obtain ⟨rfl, rfl⟩ := Task.work.inj same
        exact nomatch step
      · cases refresh with
        | builds building => exact .busy (.refresh main fine others hid building step)
        | ended => exact nomatch step
      · exact leftover other
  | stopping stops others =>
      rcases others.eq_or stops ht with ⟨rfl, same⟩ | ⟨-, other⟩
      · obtain ⟨rfl, rfl⟩ := Task.work.inj same
        exact .schedulerStopped traced stops others step
      · exact leftover other

/-- The scheduler goes on. -/
theorem Busy.setScheduler (h : s.Busy) {sched : Scheduler} (sched' : Scheduler)
    (ht : s.task? id = some (.scheduler sched)) (active : ¬ (Task.scheduler sched).IsOver id) :
    (s.setTask id (.scheduler sched')).Busy := by
  have others {main : CallId} {P : CallId → Task → Prop} (others : s.Others main P)
      (next : P id (.scheduler sched) → P id (.scheduler sched')) :
      (s.setTask id (.scheduler sched')).Others main P :=
    others.setTask id (.scheduler sched') fun hid => next (others id _ hid ht)
  have same {main : CallId} {goal : Goal} {stage : Stage}
      (hmain : s.task? main = some (.work goal stage)) :
      (s.setTask id (.scheduler sched')).task? main = some (.work goal stage) := by
    have hne : main ≠ id := by
      rintro rfl
      cases hmain.symm.trans ht
    rw [setTask, task?_modifyTask, if_neg hne, hmain]
  have leftover {scheduler : Option CallId} (h : Leftover scheduler id (.scheduler sched)) :
      Leftover scheduler id (.scheduler sched') := by
    rcases h with done | ⟨hid, -⟩
    · exact absurd done active
    · exact .inr ⟨hid, sched', rfl⟩
  cases h with
  | loading main building rest => exact .loading (same main) building (others rest leftover)
  | serving main fine rest =>
      refine .serving (same main) fine (others rest ?_)
      rintro (refresh | other)
      · cases refresh
      · exact .inr (leftover other)
  | stopping stops rest => exact .stopping (same stops) (others rest leftover)

/-- Only a busy agent has a scheduler that goes on, and only a busy agent builds. -/
theorem Era.busy_of_task (h : s.Era) (traced : Traced start trace none s)
    (ht : s.task? id = some t) (active : ¬ t.IsOver id)
    (builds : ∀ goal stage, t = .work goal stage → stage.isBuild = true) : s.Busy := by
  have contra {main : CallId} {goal : Goal} {stage : Stage}
      (hmain : s.task? main = some (.work goal stage)) (other : stage.isBuild = false)
      (others : s.Others main fun id t => t.IsOver id) : s.Busy := by
    rcases others.eq_or hmain ht with ⟨-, same⟩ | ⟨-, done⟩
    · exact nomatch other.symm.trans (builds _ _ same)
    · exact absurd done active
  cases h with
  | idle first => exact nomatch (traced.task?_eq_none first id).symm.trans ht
  | starting main others => exact contra main rfl others
  | busy busy => exact busy
  | closing closes others => exact contra closes rfl others
  | closed ended kind others => exact contra ended rfl others

theorem Era.turn (h : s.Era) (traced : Traced start trace none s) {sched : Scheduler}
    {next : Scheduler × Option Call} (ht : s.task? id = some (.scheduler sched))
    (does : sched.Does s.now s.session next.1 next.2) : (s.turn id next).Era := by
  obtain ⟨sched', call⟩ := next
  have active : ¬ (Task.scheduler sched).IsOver id := by
    intro done
    cases done with
    | stopped phase => exact does.ne_stopped phase
  have busy := (h.busy_of_task traced ht active (by rintro _ _ ⟨⟩)).setScheduler sched' ht active
  cases call with
  | none => exact .busy busy
  | some call => exact .busy (busy.of_replied (replied_ask _ id call))

theorem Era.stepTask (h : s.Era) (traced : Traced start trace none s)
    (step : s.stepTask id = some s') : s'.Era := by
  cases resumes_of_stepTask step with
  | @works goal stage ht step =>
      have ended (done : (Task.work goal stage).IsOver id) : s'.Era := by
        cases step.symm.trans (resumeWork_of_isOver done)
      cases h with
      | idle first => cases (traced.task?_eq_none first id).symm.trans ht
      | starting main others blank =>
          rcases others.eq_or main ht with ⟨rfl, same⟩ | ⟨-, done⟩
          · obtain ⟨rfl, rfl⟩ := Task.work.inj same
            exact .loggedIn main others blank step
          · exact ended done
      | busy busy => exact busy.resumeWork traced ht step
      | @closing main scheduler failure reply closes others ending =>
          rcases others.eq_or closes ht with ⟨rfl, same⟩ | ⟨-, done⟩
          · obtain ⟨rfl, rfl⟩ := Task.work.inj same
            cases reply with
            | none => cases step
            | some reply =>
                obtain rfl := Option.some.inj step
                exact .closed (task?_park closes _ _) (.inl rfl)
                  (others.park id _ _ fun hid => absurd rfl hid) ending
          · exact ended done
      | closed main kind others =>
          rcases others.eq_or main ht with ⟨rfl, same⟩ | ⟨-, done⟩
          · obtain ⟨rfl, rfl⟩ := Task.work.inj same
            cases step
          · exact ended done
  | turns ht turn after =>
      subst after
      exact h.turn traced ht (Scheduler.does_of_step turn s.now)

/-! ## A read ends -/

theorem not_isOver_of_isBuild (building : stage.isBuild = true) :
    ¬ (Task.work goal stage).IsOver id := by
  rintro ⟨⟩
  exact nomatch building

theorem Busy.park (h : s.Busy) (ht : s.task? id = some (.work goal stage))
    (building : stage.isBuild = true) {stage' : Stage} (building' : stage'.isBuild = true) :
    (s.park id goal stage').Busy := by
  have leftover {scheduler : Option CallId} (h : Leftover scheduler id (.work goal stage)) :
      Leftover scheduler id (.work goal stage') := by
    rcases h with done | ⟨-, sched, hsched⟩
    · exact absurd done (not_isOver_of_isBuild building)
    · exact nomatch hsched
  cases h with
  | @loading scheduler stage₀ main building₀ others =>
      have others' := others.park id goal stage' fun hid => leftover (others id _ hid ht)
      by_cases hid : 0 = id
      · subst hid
        obtain ⟨rfl, -⟩ := Task.work.inj (Option.some.inj (main.symm.trans ht))
        exact .loading (task?_park main _ _) building' others'
      · exact .loading ((task?_park_of_ne hid _ _).trans main) building₀ others'
  | serving main fine others =>
      have hid : 0 ≠ id := by
        rintro rfl
        obtain ⟨-, rfl⟩ := Task.work.inj (Option.some.inj (main.symm.trans ht))
        exact nomatch building
      refine .serving ((task?_park_of_ne hid _ _).trans main) fine (others.park id goal stage' ?_)
      intro hid'
      rcases others id _ hid' ht with refresh | other
      · cases refresh with
        | builds => exact .inl (.builds building')
        | ended => exact nomatch building
      · exact .inr (leftover other)
  | @stopping main target failure deadline stops others =>
      have hid : main ≠ id := by
        rintro rfl
        obtain ⟨-, rfl⟩ := Task.work.inj (Option.some.inj (stops.symm.trans ht))
        exact nomatch building
      exact .stopping ((task?_park_of_ne hid _ _).trans stops)
        (others.park id goal stage' fun hid => leftover (others id _ hid ht))

theorem Era.stepRead (h : s.Era) (traced : Traced start trace none s) {index : Nat}
    (step : s.stepRead id index = some s') : s'.Era := by
  obtain ⟨goal, o, t, slots, slots', records, ht, rfl⟩ := park_of_stepRead step
  have builds (goal' : Goal) (stage' : Stage)
      (hwork : Task.work goal (.reading o t slots) = .work goal' stage') :
      stage'.isBuild = true := by
    obtain ⟨-, rfl⟩ := Task.work.inj hwork
    rfl
  have busy := h.busy_of_task traced ht (not_isOver_of_isBuild rfl) builds
  exact .busy ((busy.park ht rfl rfl).of_replied (.of_tasks rfl))

/-! ## The clock -/

theorem Era.pass (h : s.Era) (now : Instant) : ({ s with now } : Agent).Era := by
  cases h with
  | idle first blank => exact .idle first blank
  | starting main others blank => exact .starting main others blank
  | busy busy => exact .busy (busy.of_replied (.of_tasks rfl))
  | closing closes others ending => exact .closing closes others ending
  | closed ended kind others ending => exact .closed ended kind others ending

/-! ## What is asked of the agent -/

variable {c : Settings}

/-- An agent that serves has a start that has ended, its refreshes, and its scheduler. -/
theorem Era.serving (h : s.Era) (traced : Traced start trace none s)
    (serving : s.serving? = some scheduler) :
    ∃ endedAt, s.task? 0 =
        some (.work (.load scheduler true) (.ended endedAt (.started scheduler))) ∧
      s.Others 0 fun id t => t.IsRefresh ∨ Leftover scheduler id t := by
  unfold Agent.serving? at serving
  split at serving
  · rename_i endedAt started hresult
    simp only [Option.ite_none_left_eq_some, Option.some.injEq] at serving
    obtain ⟨running, rfl⟩ := serving
    obtain ⟨goal, hgoal⟩ := task?_of_result? hresult
    have stops {main : CallId} {goal : Goal} {stage : Stage} (kind : goal.isStop = true)
        (hmain : s.task? main = some (.work goal stage)) : False :=
      running (List.any_eq_true.2 ⟨_, mem_tasks_of_task? hmain, kind⟩)
    have same {goal' : Goal} {stage' : Stage} (hmain : s.task? 0 = some (.work goal' stage')) :
        stage' = .ended endedAt (.started started) :=
      (Task.work.inj (Option.some.inj (hmain.symm.trans hgoal))).2
    cases h with
    | idle first blank => exact nomatch (traced.task?_eq_none first 0).symm.trans hgoal
    | starting main => exact nomatch same main
    | busy busy =>
        cases busy with
        | loading main building =>
            rw [same main] at building
            exact nomatch building
        | @serving scheduler _ _ main fine others =>
            obtain ⟨rfl, rfl⟩ := Stage.ended.inj (same main)
            rcases fine with hsame | hdone | hcrashed
            · obtain rfl := Outcome.started.inj hsame
              exact ⟨_, main, others⟩
            · exact nomatch hdone
            · exact nomatch hcrashed
        | stopping main => exact (stops rfl main).elim
    | closing closes => exact (stops rfl closes).elim
    | closed ended kind others =>
        rcases kind with kind | ⟨rfl, -, other⟩
        · exact (stops kind ended).elim
        · exact absurd (Stage.ended.inj (same ended)).2 (other started)
  · exact nomatch serving

theorem Era.blank_of_first (h : s.Era) (traced : Traced start trace none s)
    (first : s.nextId = 0) : s.session.IsBlank := by
  have none (id : CallId) := traced.task?_eq_none first id
  cases h with
  | idle first blank => exact blank
  | starting main => exact nomatch (none _).symm.trans main
  | busy busy =>
      cases busy with
      | loading main | serving main | stopping main => exact nomatch (none _).symm.trans main
  | closing closes => exact nomatch (none _).symm.trans closes
  | closed ended => exact nomatch (none _).symm.trans ended

/-- A task gets the next identity and a stage. -/
theorem Others.withTask {P : CallId → Task → Prop} (h : s.Others main P) (goal : Goal)
    (stage : Stage) (next : s.nextId ≠ main → P s.nextId (.work goal stage)) :
    ((s.withTask goal).park s.nextId goal stage).Others main P := by
  intro id t hid ht
  rw [Agent.park, Agent.setTask, task?_modifyTask] at ht
  split at ht
  · rename_i hnew
    subst hnew
    obtain ⟨old, -, rfl⟩ := Option.map_eq_some_iff.1 ht
    exact next hid
  · rename_i hold
    rw [Agent.withTask, task?_append, if_neg (Ne.symm hold), Option.or_none] at ht
    exact h id t hid ht

/-- The agent is started. -/
theorem Era.spawn_start (h : s.Era) (traced : Traced start trace none s) (first : s.nextId = 0)
    (policy : RenewalPolicy) : (s.spawn (.start policy true)).1.Era := by
  have blank := h.blank_of_first traced first
  have main := task?_park (traced.task?_nextId (.start policy true)) (.start policy true)
    (.calling none)
  rw [first] at main
  have others : s.Others 0 fun id t => t.IsOver id :=
    fun id t _ ht => nomatch (traced.task?_eq_none first id).symm.trans ht
  have others' := others.withTask (.start policy true) (.calling none) fun hne => absurd first hne
  rw [first] at others'
  have hspawn : (s.spawn (.start policy true)).1 =
      { (s.withTask (.start policy true)).park 0 (.start policy true) (.calling none) with
        session := s.session.acquire 0 .login } := by
    rw [← first]
    rfl
  rw [hspawn]
  exact .starting main others' (.inl ⟨(Session.acquire_state _ _ _).trans blank.state,
    (Session.revoking?_acquire _ _).trans blank.revoking⟩)

/-- A refresh asks for its turn. -/
theorem Era.spawn_refresh (h : s.Era) (traced : Traced start trace none s)
    (serving : s.serving? = some scheduler) : (s.spawn .refresh).1.Era := by
  obtain ⟨endedAt, main, others⟩ := h.serving traced serving
  have hne : 0 ≠ s.nextId := by
    intro first
    exact nomatch (traced.task?_eq_none first.symm 0).symm.trans main
  have main' := (task?_park_of_ne hne .refresh .queued).trans (task?_withTask main .refresh)
  have others' := others.withTask .refresh .queued fun _ => .inl (.builds rfl)
  exact .busy ((Busy.serving main' (.inl rfl) others').of_replied (.of_tasks rfl))

/-- The agent is stopped when no refresh is under way. -/
theorem Era.spawn_stop (h : s.Era) (traced : Traced start trace none s)
    (serving : s.serving? = some scheduler)
    (quiet : ∀ e ∈ s.tasks, e.2.isRefresh = true → e.2.hasEnded = true) :
    (s.spawn (.stop scheduler true none)).1.Era := by
  obtain ⟨endedAt, main, others⟩ := h.serving traced serving
  have leftover : s.Others s.nextId (Leftover scheduler) := by
    intro id t _ ht
    rcases others.eq_or main ht with ⟨rfl, rfl⟩ | ⟨hid, refresh | other⟩
    · exact .inl (.ended rfl fun _ => nofun)
    · cases refresh with
      | @builds stage building =>
          have ended := quiet _ (mem_tasks_of_task? ht) rfl
          cases stage with
          | ended => exact nomatch building
          | _ => exact nomatch ended
      | ended => exact .inl (.ended rfl fun first => absurd first hid)
    · exact other
  exact .enterStop (traced.withTask _) (traced.task?_nextId _) (awaits?_waiting _ _)
    (leftover.append fun hne => absurd rfl hne) none

theorem Era.spawn (h : s.Era) (traced : Traced start trace none s) {goal : Goal}
    (revoke : c.lifecycle.revokeOnShutdown = true)
    (allowed : s.allows c (.spawn goal) = true) : (s.spawn goal).1.Era := by
  unfold Agent.allows at allowed
  cases hserving : s.serving? with
  | none =>
      simp only [hserving, Bool.and_eq_true, decide_eq_true_eq] at allowed
      obtain ⟨first, rfl⟩ := allowed
      rw [Settings.startGoal, revoke]
      exact h.spawn_start traced first _
  | some scheduler =>
      simp only [hserving, Bool.or_eq_true, Bool.and_eq_true, decide_eq_true_eq, List.all_eq_true,
        Bool.not_eq_eq_eq_not, Bool.not_true] at allowed
      rcases allowed with rfl | ⟨rfl, quiet⟩
      · exact h.spawn_refresh traced hserving
      · rw [Settings.stopGoal, revoke]
        refine h.spawn_stop traced hserving fun e he refresh => ?_
        exact (quiet e he).resolve_left fun other => nomatch refresh.symm.trans other

/-- A refresh is dropped. -/
theorem Era.drop (h : s.Era) (traced : Traced start trace none s)
    (allowed : s.allows c (.drop id) = true) : (s.drop id).Era := by
  obtain ⟨session, step, absorbs⟩ := absorbs_abandon s id
  have does := Session.does_of_step step
  have hsession : (s.drop id).session = session := absorbs.session
  have refresh {t : Task} (ht : s.task? id = some t) : t.isRefresh = true := by
    simpa [Agent.allows, ht] using allowed
  -- the main task is no refresh, so it stays
  have main {main : CallId} {goal : Goal} {stage : Stage}
      (hmain : s.task? main = some (.work goal stage)) (kind : goal ≠ .refresh) :
      main ≠ id ∧ (s.drop id).task? main = some (.work goal stage) := by
    have hne : main ≠ id := by
      rintro rfl
      have hrefresh := refresh hmain
      cases goal with
      | refresh => exact kind rfl
      | _ => cases hrefresh
    rw [task?_drop, if_neg hne, hmain]
    exact ⟨hne, rfl⟩
  have tasks (caller : CallId) (t : Task) (ht : (s.drop id).task? caller = some t) :
      s.task? caller = some t := by
    rw [task?_drop, Option.ite_none_left_eq_some] at ht
    exact ht.2
  have blank (blank : s.session.IsBlank) : (s.drop id).session.IsBlank := by
    rw [hsession]
    refine (does.isBlank traced.run.coherent blank).resolve_right ?_
    rintro ⟨_, _, returned, -⟩
    cases returned
  -- what is dropped is over, so no call of it holds the guard
  have ending {main : CallId} (hne : main ≠ id) (others : s.Others main fun id t => t.IsOver id)
      (ending : s.session.IsEnding) : (s.drop id).session.IsEnding := by
    rw [hsession]
    refine does.isEnding_of_drop (traced.not_mem_callers ?_) ending
    cases ht : s.task? id with
    | none => simp [Agent.awaits?, ht]
    | some t => exact (awaits?_of_task? ht).trans (others id t hne.symm ht).awaits?
  cases h with
  | idle first _ => simp [Agent.allows, traced.task?_eq_none first] at allowed
  | starting hmain others hblank =>
      exact .starting (main hmain (by rintro ⟨⟩)).2 (others.sub tasks) (hblank.imp_left blank)
  | busy busy =>
      cases busy with
      | loading hmain building others =>
          exact .busy (.loading (main hmain (by rintro ⟨⟩)).2 building (others.sub tasks))
      | serving hmain fine others =>
          exact .busy (.serving (main hmain (by rintro ⟨⟩)).2 fine (others.sub tasks))
      | stopping stops others =>
          exact .busy (.stopping (main stops (by rintro ⟨⟩)).2 (others.sub tasks))
  | closing closes others hending =>
      obtain ⟨hne, closes'⟩ := main closes (by rintro ⟨⟩)
      exact .closing closes' (others.sub tasks) (ending hne others hending)
  | @closed _ goal _ _ ended kind others hending =>
      have hkind : goal ≠ .refresh := by
        rcases kind with kind | ⟨-, kind, -⟩
        · rintro rfl
          cases kind
        · exact kind
      obtain ⟨hne, ended'⟩ := main ended hkind
      exact .closed ended' kind (others.sub tasks) (ending hne others hending)

/-- **Whatever happens to an agent**, it stands in some era afterwards. -/
theorem Era.act (h : s.Era) (traced : Traced start trace none s) {a : Act}
    (revoke : c.lifecycle.revokeOnShutdown = true) (allowed : s.allows c a = true)
    (step : s.act a = some s') : s'.Era := by
  rcases traced.act step with ⟨l, events, steps, -⟩ | ⟨none, -⟩
  · exact h.steps traced steps
  · cases a with
    | spawn goal =>
        obtain rfl := Option.some.inj step
        exact h.spawn traced revoke allowed
    | startScheduler policy => exact nomatch allowed
    | drop id =>
        obtain rfl := Option.some.inj step
        exact h.drop traced allowed
    | move move =>
        cases move with
        | proceed id | expire id => exact nomatch none
        | answer id =>
            exact nomatch step.symm.trans (stepAnswer_eq_none none)
        | read id index => exact h.stepRead traced step
        | resume id => exact h.stepTask traced step
        | wake id cause =>
            obtain ⟨sched, next, ht, hwake, rfl⟩ := turn_of_wake step
            exact h.turn traced ht (Scheduler.does_of_wake hwake)
        | pass now =>
            obtain ⟨-, rfl⟩ := eq_of_pass step
            exact h.pass now

end Agent

end SecretConfig
