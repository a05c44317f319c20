import SecretConfig.Proofs.Agent.Building
import SecretConfig.Proofs.Agent.Progress

set_option autoImplicit false

/-! # Builds can be brought to their end

However far a build has come, the moves of the agent alone bring it to its end: nobody has to be
dropped, and nothing has to be asked for. Each step of the session brings its line forward
(`Session.Does.work_lt`), so the build gets its reply; and each read that ends leaves fewer that
wait, so the build collects them (`canEnd_of_obtaining`, `canEnd_of_reading`). -/

namespace SecretConfig

/-! ## The work of a session -/

/-- How many steps the holder of the guard takes at most. -/
def Phase.rank : Phase → Nat
  | granted _ => 3
  | loggingIn _ _ _ => 2
  | renewing _ _ | revoking _ _ _ => 1

namespace Session

variable {s s' : Session} {now : Instant} {l : Label} {events : List Event}

/-- How many steps it takes at most until nobody is in line any more. -/
def work (s : Session) : Nat := 3 * s.queue.length + s.active.elim 0 fun e => e.2.rank

theorem work_release (s : Session) : s.release.work = 3 * s.queue.length := by
  unfold release
  split
  · rename_i hqueue
    simp [work, hqueue]
  · rename_i hqueue
    simp [work, hqueue, Phase.rank]
    omega

theorem work_of_active {id : CallId} {phase : Phase} (holder : s.active = some (id, phase)) :
    s.work = 3 * s.queue.length + phase.rank := by
  simp [work, holder]

/-- **Steps of the session bring its line forward.** -/
theorem Does.work_lt (h : s.Does now l s' events) (inside : l.isOutside = false) :
    s'.work < s.work := by
  cases h with
  | handOut | crashAtOnce | ask | dropHolder | dropWaiting => exact nomatch inside
  | share holder | crash holder | noSession holder | skipRenewal holder | close holder
  | logIn holder | failLogin label holder | renew holder | keep label holder | lose label holder
  | crashRenewing label holder | endRevocation label holder =>
      rw [work_release, work_of_active holder]
      simp [Phase.rank, publish]
  | lapse holder | sendLogin holder | forceLogin holder | sendRenewal holder
  | closeRevoking holder | supersede holder =>
      rw [work_of_active holder]
      simp [work, Phase.rank, publish]

end Session

namespace Agent

variable {start s s' s₁ : Agent} {id : CallId} {trace : List Session.Moment} {goal : Goal}
  {o : BuildOptions} {ds : List Descriptor} {reads : List PlannedRead} {t : Token}

/-- Moves of the agent can bring the task of an identity to its end. -/
def CanEnd (s : Agent) (id : CallId) : Prop :=
  ∃ more s', Run s more s' ∧ (∀ u ∈ more, ∃ move, u.act = .move move) ∧ (s'.result? id).isSome

theorem CanEnd.of_ended {endedAt : Instant} {outcome : Outcome}
    (ht : s.task? id = some (.work goal (.ended endedAt outcome))) : s.CanEnd id := by
  refine ⟨[], s, .start, fun u hu => (nomatch hu), ?_⟩
  rw [result?_of_ended ht]
  rfl

theorem CanEnd.of_move {now : Instant} {move : Move} (clock : s.now ≤ now)
    (step : ({ s with now } : Agent).step move = some s₁) (h : s₁.CanEnd id) : s.CanEnd id := by
  obtain ⟨more, s', run, moves, ended⟩ := h
  have passes : s.act (.move (.pass now)) = some { s with now } := if_pos clock
  have moved : ({ s with now } : Agent).act (.move move) = some s₁ := step
  refine ⟨more ++ [⟨{ s with now }, .move move, s₁⟩, ⟨s, .move (.pass now), { s with now }⟩], s',
    run.append (.next (.next .start passes) moved), ?_, ended⟩
  intro u hu
  rcases List.mem_append.1 hu with hmore | hlast
  · exact moves u hmore
  · rcases List.mem_cons.1 hlast with rfl | hfirst
    · exact ⟨move, rfl⟩
    · obtain rfl := List.mem_singleton.1 hfirst
      exact ⟨.pass now, rfl⟩

/-- A build whose reads are sent can be brought to its end. -/
theorem canEnd_of_reading (build : goal.build? = some (o, ds)) {slots : List ReadSlot}
    (ht : s.task? id = some (.work goal (.reading o t slots))) : s.CanEnd id := by
  -- with each read that ends there are fewer that wait
  induction hwaiting : slots.countP (fun r => r.outcome.isNone) using Nat.strongRecOn
    generalizing s slots with
  | ind waiting ih =>
      rcases reading_movesOn ht with ⟨move, hmove, now, clock, possible⟩ |
        ⟨index, move, hmove, now, clock, possible⟩
      · obtain rfl := List.mem_singleton.1 hmove
        obtain ⟨s₁, step⟩ := Option.isSome_iff_exists.1 possible
        refine .of_move clock step ?_
        have resumes : ({ s with now } : Agent).stepTask id = some s₁ := step
        have ht' : ({ s with now } : Agent).task? id = some (.work goal (.reading o t slots)) := ht
        simp only [stepTask, ht', Agent.resumeWork, Option.ite_none_right_eq_some,
          Option.some.injEq] at resumes
        obtain ⟨-, rfl⟩ := resumes
        rw [finishBuild_eq _ _ build]
        exact .of_ended (task?_park ht' goal _)
      · obtain rfl := List.mem_singleton.1 hmove
        obtain ⟨s₁, step⟩ := Option.isSome_iff_exists.1 possible
        refine .of_move clock step ?_
        have ht' : ({ s with now } : Agent).task? id = some (.work goal (.reading o t slots)) := ht
        obtain ⟨r, answer, hr, hnone, hanswer, rfl⟩ := slot_of_stepRead ht' step
        refine ih _ ?_ (task?_park (s := ({ s with now } : Agent).record _) ht' goal _) rfl
        obtain ⟨hlt, hget⟩ := List.getElem?_eq_some_iff.1 hr
        have hcounts : 0 < slots.countP fun r => r.outcome.isNone :=
          List.countP_pos_iff.2 ⟨r, List.mem_of_getElem? hr, by simp [hnone]⟩
        rw [← hwaiting, List.countP_set hlt, hget]
        simp only [hnone, Option.isNone_none, Option.isNone_some, if_true, Bool.false_eq_true,
          if_false]
        omega

/-- So can a build that has its reply. -/
theorem canEnd_of_reply (build : goal.build? = some (o, ds)) {reply : Reply}
    (ht : s.task? id = some (.work goal (.obtaining o reads (some reply)))) : s.CanEnd id := by
  have resumes (s₁ : Agent) (h : s.resumeWork id goal (.obtaining o reads (some reply)) = some s₁) :
      s.step (.resume id) = some s₁ := by
    simpa only [step, stepTask, ht] using h
  cases reply with
  | token t =>
      exact .of_move (Nat.le_refl _) (resumes _ rfl)
        (canEnd_of_reading build (task?_sendReads ht goal o t reads))
  | failed e =>
      refine .of_move (Nat.le_refl _) (resumes _ rfl) ?_
      rw [finishBuild_eq _ _ build]
      exact .of_ended (task?_park ht goal _)
  | closed | crashed =>
      exact .of_move (Nat.le_refl _) (resumes _ rfl)
        (.of_ended (task?_park (s := { s with source := _ }) ht goal _))

/-- A move of the holder of the guard is a step of the session. -/
theorem Traced.steps_of_holder (h : Traced start trace none s) {holder : CallId} {move : Move}
    (hmove : move ∈ [.proceed holder, .answer holder, .expire holder])
    (step : s.step move = some s') :
    ∃ l events, (Act.move move).Steps s l events s' ∧
      Traced start (⟨s.session, s.now, l, s'.session, events⟩ :: trace) none s' := by
  have moved : s.act (.move move) = some s' := step
  rcases h.act moved with steps | ⟨outside, -⟩
  · exact steps
  · simp only [List.mem_cons, List.not_mem_nil, or_false] at hmove
    rcases hmove with rfl | rfl | rfl
    · exact nomatch outside
    · exact nomatch (stepAnswer_eq_none outside).symm.trans step
    · exact nomatch outside

/-- So can a build that waits for a token. -/
theorem Traced.canEnd_of_obtaining (h : Traced start trace none s)
    (build : goal.build? = some (o, ds)) {reply : Option Reply}
    (ht : s.task? id = some (.work goal (.obtaining o reads reply))) : s.CanEnd id := by
  -- with each step of the session there is less work before the build
  induction hwork : s.session.work using Nat.strongRecOn generalizing s trace reply with
  | ind work ih =>
      cases reply with
      | some reply => exact canEnd_of_reply build ht
      | none =>
          have waits : s.awaits? id = some .getToken := by
            rw [awaits?_of_task? ht, Task.awaits?_obtaining]
            rfl
          have hline : (id, .getToken) ∈ s.session.line :=
            ((h.line id _).1 waits).resolve_right nofun
          obtain ⟨holder, move, hmove, now, clock, possible⟩ := h.line_movesOn hline
          obtain ⟨s₁, step⟩ := Option.isSome_iff_exists.1 possible
          have traced : Traced start trace none { s with now } :=
            h.around rfl rfl rfl rfl rfl clock
          obtain ⟨l, events, steps, traced'⟩ := traced.steps_of_holder hmove step
          obtain ⟨reply', htake, -⟩ := takeReplies_obtaining id events goal o reads none
          have ht' : s₁.task? id = some (.work goal (.obtaining o reads reply')) := by
            have ht₀ : ({ s with now } : Agent).task? id = s.task? id := rfl
            rw [steps.task?, ht₀, ht, ← htake]
            rfl
          have less := (Session.does_of_step steps.step).work_lt
            (Act.isOutside_of_label? steps.label)
          exact .of_move clock step (ih _ (hwork ▸ less) traced' ht' rfl)

end Agent

end SecretConfig
