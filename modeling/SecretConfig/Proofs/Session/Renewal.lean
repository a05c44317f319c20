import SecretConfig.Proofs.Session.Ending

set_option autoImplicit false

/-! # How a renewal ends

A call for a renewal renews the token that is published when the call has its turn. It ends with a
token in one of two ways (`Session.Concludes`): the store has renewed the token that was sent to it,
or the published token cannot be renewed and is returned as it is. In every other case the call
fails, and what it returns is no token (`Does.returned_token_iff`). -/

namespace SecretConfig

namespace Session

variable {strategy : Strategy} {timeout : Duration} {past calls : List Moment} {s s' : Session}
  {now : Instant} {l : Label} {events : List Event} {id : CallId} {t : Token} {deadline : Instant}

/-- A step ends the renewal that a call asked for with a token. -/
inductive Concludes (s : Session) (now : Instant) (id : CallId) : Label → Token → Prop
  /-- The store has renewed the token that was sent. -/
  | renewed {current : Token} {deadline : Instant} {g : Grant}
      (holder : s.active = some (id, .renewing current deadline)) :
      Concludes s now id (.answer id (.granted g)) (current.renewed g.lease g.renewable now)
  /-- The published token cannot be renewed. -/
  | skipped {t : Token} (holder : s.active = some (id, .granted .renew))
      (token : s.state.token? = some t) (fixed : t.isRenewable = false) :
      Concludes s now id (.proceed id) t

theorem Concludes.holder (h : s.Concludes now id l t) :
    ∃ phase, s.active = some (id, phase) ∧ phase.call = .renew := by
  cases h with
  | renewed holder => exact ⟨_, holder, rfl⟩
  | skipped holder => exact ⟨_, holder, rfl⟩

/-- A call returns once. -/
theorem Does.reply_unique (h : s.Does now l s' events) {reply reply' : Reply}
    (returned : .returned id reply ∈ events) (returned' : .returned id reply' ∈ events) :
    reply = reply' := by
  cases h <;> simp_all

/-- A renewal that is under way after a step was so before, or the step has sent it. -/
theorem Does.renewing_before (h : s.Does now l s' events)
    (active : s'.active = some (id, .renewing t deadline)) :
    s.active = some (id, .renewing t deadline) ∨
      l = .proceed id ∧ .renewalSent id t ∈ events := by
  have notReleased {r : Session} (hactive : r.release.active = some (id, .renewing t deadline)) :
      False := by
    obtain ⟨call, hphase⟩ := release_active_granted hactive
    exact nomatch hphase
  cases h with
  | handOut | crashAtOnce | dropWaiting => exact .inl active
  | ask =>
      rcases acquire_active active with same | ⟨call, hphase⟩
      · exact .inl same
      · exact nomatch hphase
  | share | crash | noSession | skipRenewal | close | logIn | failLogin | renew | keep | lose
  | crashRenewing | endRevocation | dropHolder => exact (notReleased active).elim
  | lapse | sendLogin | forceLogin | closeRevoking | supersede =>
      simp at active
  | sendRenewal =>
      simp only [Option.some.injEq, Prod.mk.injEq, Phase.renewing.injEq] at active
      obtain ⟨rfl, rfl, -⟩ := active
      exact .inr ⟨rfl, by simp⟩

/-- A token that is returned to a renewal concludes it. -/
theorem Does.concludes_of_returned (h : s.Does now l s' events) (inside : l.isOutside = false)
    (own : ∀ phase, s.active = some (id, phase) → phase.call = .renew)
    (returned : .returned id (.token t) ∈ events) : s.Concludes now id l t := by
  cases h with
  | handOut | crashAtOnce | ask => exact nomatch inside
  | share holder =>
      simp only [List.mem_singleton, Event.returned.injEq] at returned
      obtain ⟨rfl, -⟩ := returned
      exact nomatch own _ holder
  | @logIn caller forced superseded deadline g holder =>
      simp only [List.mem_cons, reduceCtorEq, Event.returned.injEq, List.not_mem_nil, false_or,
        or_false] at returned
      obtain ⟨rfl, -⟩ := returned
      have hcall := own _ holder
      cases forced with
      | true => exact nomatch hcall
      | false => exact nomatch hcall
  | endRevocation _ holder =>
      simp only [List.mem_singleton, Event.returned.injEq] at returned
      obtain ⟨rfl, rfl⟩ := returned
      exact nomatch own _ holder
  | skipRenewal holder token fixed =>
      simp only [List.mem_singleton, Event.returned.injEq, Reply.token.injEq] at returned
      obtain ⟨rfl, rfl⟩ := returned
      exact .skipped holder token fixed
  | renew holder =>
      simp only [List.mem_cons, reduceCtorEq, Event.returned.injEq, Reply.token.injEq,
        List.not_mem_nil, false_or, or_false] at returned
      obtain ⟨rfl, rfl⟩ := returned
      exact .renewed holder
  | _ => simp at returned

/-- A renewal that is concluded returns the token: there is one rule for the label and the holder. -/
theorem Does.returned_of_concludes (h : s.Does now l s' events)
    (concludes : s.Concludes now id l t) : .returned id (.token t) ∈ events := by
  cases concludes with
  | renewed holder =>
      have same {x : CallId} {phase : Phase} (h : s.active = some (x, phase)) :=
        (Prod.mk.inj (Option.some.inj (holder.symm.trans h))).2
      cases h with
      | logIn holder' | supersede holder' => exact nomatch same holder'
      | renew holder' =>
          obtain ⟨rfl, -⟩ := Phase.renewing.inj (same holder')
          simp
      | failLogin label | keep label | lose label | crashRenewing label | endRevocation label =>
          exact absurd rfl (label.2 _)
  | skipped holder token fixed =>
      have same {x : CallId} {phase : Phase} (h : s.active = some (x, phase)) :=
        (Prod.mk.inj (Option.some.inj (holder.symm.trans h))).2
      cases h with
      | skipRenewal _ token' =>
          obtain rfl := Option.some.inj (token.symm.trans token')
          exact List.mem_singleton_self _
      | noSession _ none => exact nomatch none.symm.trans token
      | sendRenewal _ token' renewable =>
          obtain rfl := Option.some.inj (token.symm.trans token')
          exact nomatch fixed.symm.trans renewable
      | share holder' | crash holder' | lapse holder' | sendLogin holder' | forceLogin holder'
      | closeRevoking holder' | close holder' => exact nomatch same holder'
      | failLogin label | keep label | lose label | crashRenewing label | endRevocation label =>
          exact label.elim

/-- **A renewal returns a token exactly if it is concluded.** -/
theorem Does.returned_token_iff (h : s.Does now l s' events) (inside : l.isOutside = false)
    (own : ∀ phase, s.active = some (id, phase) → phase.call = .renew) :
    .returned id (.token t) ∈ events ↔ s.Concludes now id l t :=
  ⟨h.concludes_of_returned inside own, h.returned_of_concludes⟩

/-- Replies go to the holder of the guard, unless a call is made. -/
theorem Does.holder_of_returned (h : s.Does now l s' events) (inside : l.isOutside = false)
    {reply : Reply} (returned : .returned id reply ∈ events) :
    ∃ phase, s.active = some (id, phase) := by
  cases h.guardMove with
  | pass _ label =>
      cases l with
      | «begin» => exact nomatch inside
      | proceed | answer | expire | drop => exact label.elim
  | ask _ _ label => exact nomatch (label ▸ inside)
  | hold _ _ _ _ _ _ _ _ ends => exact absurd (.inr ⟨reply, returned⟩) (ends id)
  | handOn _ phase holder _ _ _ ends =>
      obtain rfl := (ends id).1 (.inr ⟨reply, returned⟩)
      exact ⟨phase, holder⟩
  | leave _ label => exact nomatch (label ▸ inside)

/-- A grant ends a renewal. -/
theorem Does.concludes_of_granted {g : Grant} (h : s.Does now (.answer id (.granted g)) s' events)
    (own : ∀ phase, s.active = some (id, phase) → phase.call = .renew) :
    ∃ t, s.Concludes now id (.answer id (.granted g)) t := by
  cases h with
  | @logIn _ forced _ _ _ holder | @supersede _ forced _ _ _ holder =>
      have hcall := own _ holder
      cases forced with
      | true => exact nomatch hcall
      | false => exact nomatch hcall
  | renew holder => exact ⟨_, .renewed holder⟩
  | failLogin label | keep label | lose label | crashRenewing label | endRevocation label =>
      exact absurd rfl (label.2 _)

/-- Who makes or drops a call starts no renewal. -/
theorem Run.renewing_of_outside (run : Run strategy timeout (calls ++ past) s')
    (before : Run strategy timeout past s) (outside : ∀ m ∈ calls, m.label.isOutside = true)
    (active : s'.active = some (id, .renewing t deadline)) :
    s.active = some (id, .renewing t deadline) := by
  induction calls generalizing s' with
  | nil =>
      obtain rfl : s = s' := before.eq_latest.trans run.eq_latest.symm
      exact active
  | cons m rest ih =>
      obtain ⟨here, does⟩ := Run.of_cons run
      obtain rfl : m.after = s' := run.eq_latest.symm
      rcases does.renewing_before active with same | ⟨label, -⟩
      · exact ih here (fun v hv => outside v (List.mem_cons_of_mem m hv)) same
      · have houtside := outside m List.mem_cons_self
        rw [label] at houtside
        exact nomatch houtside

end Session

end SecretConfig
