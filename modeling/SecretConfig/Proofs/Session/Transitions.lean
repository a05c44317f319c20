import SecretConfig.Proofs.Session.Expiry
import SecretConfig.Proofs.Session.Runs

set_option autoImplicit false

/-! # The state machine of a session

`Moment.Transition` lists the changes of the published state that a session is documented to
make, each with the operation that makes it and what it may rely on.

A step alone does not follow the list: a login that succeeds would replace a token under
renewal, and a renewal would start twice, if the state could say `renewing` while somebody else
has the guard. It cannot as long as every call runs to its end: the caller of a renewal keeps
the guard from the step that publishes `renewing` to the step that publishes what came of it
(`Run.renewing_of_completes`). -/

namespace SecretConfig

/-- A call crashes. -/
def Event.isCrash : Event → Bool
  | .returned _ (.crashed _) => true
  | _ => false

namespace Session

/-- The label drops a call. -/
def Label.isDrop : Label → Bool
  | .drop _ => true
  | _ => false

variable {strategy : Strategy} {timeout : Duration} {history past : List Moment} {m : Moment}
  {s s' : Session} {now : Instant} {l : Label} {events : List Event}

namespace Moment

/-- No call is cut short: none is dropped, and none crashes. -/
def Completes (m : Moment) : Prop :=
  m.label.isDrop = false ∧ ∀ e ∈ m.events, e.isCrash = false

instance (m : Moment) : Decidable m.Completes := inferInstanceAs (Decidable (_ ∧ _))

/-- The documented changes of the published state. -/
inductive Transition (m : Moment) : SessionState → SessionState → Prop
  /-- A login succeeds, whatever the state, unless a renewal is in flight. -/
  | logIn {old : SessionState} {t : Token} (login : m.LogsIn t)
      (idle : ∀ u, old ≠ .renewing u) : Transition m old (.valid t)
  /-- A renewal of a token that can be renewed starts. -/
  | startRenewal {t : Token} (goes : m.GoesOn .renew) (renewable : t.renewable = true)
      (lease : t.lease ≠ 0) : Transition m (.valid t) (.renewing t)
  /-- The store accepts the renewal: the token is the same but for its lease. -/
  | renew {t t' : Token} (renews : m.Renews t t') (value : t'.value = t.value)
      (origin : t'.origin = t.origin) : Transition m (.renewing t) (.valid t')
  /-- The renewal fails while the lease lasts. -/
  | keep {t : Token} (fails : m.FailsToRenew t) (lasts : t.Lasts m.now) :
      Transition m (.renewing t) (.valid t)
  /-- The renewal fails when the lease has ended. -/
  | lose {t : Token} (fails : m.FailsToRenew t) (ended : t.HasEnded m.now) :
      Transition m (.renewing t) .expired
  /-- A call for a token finds that the lease has ended. -/
  | lapse {t : Token} (goes : m.GoesOn .getToken) (ended : t.HasEnded m.now) :
      Transition m (.valid t) .expired
  /-- The session is shut down, whatever the state. -/
  | close {old : SessionState} {revoke : Bool} (goes : m.GoesOn (.shutdown revoke)) :
      Transition m old .unauthenticated

/-- A token that has no lease does not expire. -/
theorem Transition.ne_expired {old new : SessionState} (h : m.Transition old new) {t : Token}
    (token : old.token? = some t) (lease : t.lease = 0) : new ≠ .expired := by
  cases h with
  | logIn | startRenewal | renew | keep | close => exact nofun
  | lose fails ended | lapse goes ended =>
      obtain rfl := Option.some.inj token
      exact absurd lease ended.1

end Moment

/-! ## Renewals keep the guard -/

theorem Run.renewing_of_completes (run : Run strategy timeout history s)
    (completes : ∀ m ∈ history, m.Completes) {t : Token} (state : s.state = .renewing t) :
    s.IsRenewing t := by
  refine (run.isRenewing state).resolve_right ?_
  rintro ⟨m, hm, id, deadline, -, hdrop | ⟨fault, -, hcrash⟩⟩
  · exact nomatch (hdrop ▸ (completes m hm).1 : (Label.drop id).isDrop = false)
  · exact nomatch (completes m hm).2 _ hcrash

/-- Whoever has the guard for something else does not find the state `renewing`. -/
theorem ne_renewing_of_active (renewing : ∀ t, s.state = .renewing t → s.IsRenewing t)
    {id : CallId} {phase : Phase} (holder : s.active = some (id, phase))
    (other : ∀ t deadline, phase ≠ .renewing t deadline) (t : Token) : s.state ≠ .renewing t := by
  intro hstate
  obtain ⟨id', deadline, hactive⟩ := renewing t hstate
  rw [holder] at hactive
  exact other t deadline (Prod.mk.inj (Option.some.inj hactive)).2

/-- A token that is published and not under renewal is published as valid. -/
theorem eq_valid_of_token {state : SessionState} {t : Token} (token : state.token? = some t)
    (idle : ∀ u, state ≠ .renewing u) : state = .valid t := by
  cases state with
  | unauthenticated | expired => exact nomatch token
  | valid u => rw [Option.some.inj token]
  | renewing u => exact absurd rfl (idle u)

theorem Does.renewalEnded (h : s.Does now l s' events) {id : CallId} {t : Token}
    {deadline : Instant} (holder : s.active = some (id, .renewing t deadline))
    (label : l.EndsUngranted id) : .renewalEnded false ∈ events := by
  cases h with
  | keep | lose | crashRenewing => simp
  | failLogin _ holder' | endRevocation _ holder' => exact nomatch holder.symm.trans holder'
  | logIn | supersede | renew => exact absurd rfl (label.2 _)
  | _ => exact label.elim

/-! ## The state machine -/

/-- A step changes the published state as documented, if the state says `renewing` only while a
renewal is in flight. -/
theorem Does.transition (h : s.Does now l s' events) (coherent : s.Coherent)
    (renewing : ∀ t, s.state = .renewing t → s.IsRenewing t) :
    published events = [] ∧ s'.state = s.state ∨
      published events = [s'.state] ∧
        Moment.Transition ⟨s, now, l, s', events⟩ s.state s'.state := by
  rcases h.change with hsame | ⟨hpublished, hchange⟩
  · exact .inl hsame
  · refine .inr ⟨hpublished, ?_⟩
    generalize hs' : s'.state = new at hchange
    cases hchange with
    | logIn holder =>
        exact .logIn ⟨_, _, _, _, _, holder, rfl, rfl⟩
          (ne_renewing_of_active renewing holder nofun)
    | sendRenewal holder token renewable =>
        rw [eq_valid_of_token token (ne_renewing_of_active renewing holder nofun)]
        obtain ⟨hrenewable, hlease⟩ := Token.isRenewable_eq_true_iff.1 renewable
        exact .startRenewal ⟨_, holder, rfl⟩ hrenewable hlease
    | renew holder =>
        rw [coherent.renewing_state _ _ _ holder]
        exact .renew ⟨_, _, _, holder, rfl, rfl⟩ rfl rfl
    | keep label holder good =>
        rw [coherent.renewing_state _ _ _ holder]
        exact .keep ⟨_, _, holder, label, h.renewalEnded holder label⟩
          (Token.lasts_of_isExpired_eq_false good)
    | lose label holder ended =>
        rw [coherent.renewing_state _ _ _ holder]
        exact .lose ⟨_, _, holder, label, h.renewalEnded holder label⟩
          (Token.isExpired_eq_true_iff.1 ended).1
    | lapse holder token ended =>
        rw [eq_valid_of_token token (ne_renewing_of_active renewing holder nofun)]
        exact .lapse ⟨_, holder, rfl⟩ (Token.isExpired_eq_true_iff.1 ended).1
    | close holder => exact .close ⟨_, holder, rfl⟩

/-- A renewal of a token that cannot be renewed changes and sends nothing. -/
theorem Does.skips_renewal (h : s.Does now l s' events) {id : CallId} {t : Token}
    (holder : s.active = some (id, .granted .renew)) (label : l = .proceed id)
    (token : s.state.token? = some t) (fixed : t.renewable = false ∨ t.lease = 0) :
    s'.state = s.state ∧ events = [.returned id (.token t)] := by
  subst label
  cases h with
  | skipRenewal holder' token' =>
      obtain rfl := Option.some.inj (token'.symm.trans token)
      exact ⟨by simp, rfl⟩
  | sendRenewal holder' token' renewable =>
      obtain rfl := Option.some.inj (token'.symm.trans token)
      obtain ⟨hrenewable, hlease⟩ := Token.isRenewable_eq_true_iff.1 renewable
      rcases fixed with hfixed | hzero
      · exact nomatch hfixed.symm.trans hrenewable
      · exact absurd hzero hlease
  | noSession holder' none => exact nomatch token.symm.trans none
  | share holder' | crash holder' | lapse holder' | sendLogin holder' | forceLogin holder'
  | closeRevoking holder' | close holder' => exact nomatch holder.symm.trans holder'
  | failLogin label | keep label | lose label | crashRenewing label | endRevocation label =>
      exact label.elim

/-- **Every change of the published state is a documented one.** In a run in which no call is
cut short, a step publishes nothing and leaves the state as it is, or publishes one state and
gets there by a `Transition`. A token that has no lease does not lead to `expired`, and the
renewal of a token that cannot be renewed returns it and does nothing else. -/
theorem Run.follows_transitions (run : Run strategy timeout history s)
    (completes : ∀ m ∈ history, m.Completes) :
    ∀ m ∈ history,
      (published m.events = [] ∧ m.after.state = m.before.state ∨
        published m.events = [m.after.state] ∧ m.Transition m.before.state m.after.state) ∧
      (∀ t, m.before.state.token? = some t → t.lease = 0 → m.after.state ≠ .expired) ∧
      ∀ id t, m.before.active = some (id, .granted .renew) → m.label = .proceed id →
        m.before.state.token? = some t → t.renewable = false ∨ t.lease = 0 →
        m.after.state = m.before.state ∧ m.events = [.returned id (.token t)] := by
  intro m hm
  -- what is needed of the moments before this one holds of the whole run
  obtain ⟨later, past, rfl⟩ := List.append_of_mem hm
  obtain ⟨before, does⟩ := (run.of_suffix (List.suffix_append later (m :: past))).of_cons
  have hpast (u : Moment) (hu : u ∈ past) : u.Completes :=
    completes u (List.mem_append_right _ (List.mem_cons_of_mem _ hu))
  have hmove := does.transition before.coherent fun t => before.renewing_of_completes hpast
  refine ⟨hmove, ?_, fun id t holder label token => does.skips_renewal holder label token⟩
  intro t token lease
  rcases hmove with ⟨-, hsame⟩ | ⟨-, htransition⟩
  · intro hexpired
    rw [← hsame, hexpired] at token
    exact nomatch token
  · exact htransition.ne_expired token lease

/-- A session is renewed, and its next renewal fails when the lease has ended. -/
def renewalHistory : List Moment :=
  replay (.userpass "userpass" "user" ⟨"password"⟩) 500 []
    [(0, .begin 0 .login), (0, .proceed 0), (0, .answer 0 (.granted ⟨"a", 1000, true⟩)),
      (500, .begin 1 .renew), (500, .proceed 1), (600, .answer 1 (.granted ⟨"", 400, true⟩)),
      (900, .begin 2 .renew), (900, .proceed 2), (1000, .answer 2 (.refused (.unavailable "")))]

theorem follows_transitions_renewalHistory :
    (∀ m ∈ renewalHistory, m.Completes) ∧ ∃ m ∈ renewalHistory, published m.events = [.expired] ∧
      m.Transition (.renewing ⟨⟨"a"⟩, 400, true, 600, .login⟩) .expired := by
  have run : Run (.userpass "userpass" "user" ⟨"password"⟩) 500 renewalHistory
      (latest _ 500 renewalHistory) := Run.fresh.replay _
  have completes : ∀ m ∈ renewalHistory, m.Completes := by decide
  have hne : renewalHistory ≠ [] := List.ne_nil_of_length_eq_add_one (rfl : _ = 8 + 1)
  have hm := List.head_mem hne
  have hpublished : published (renewalHistory.head hne).events = [.expired] := rfl
  refine ⟨completes, renewalHistory.head hne, hm, hpublished, ?_⟩
  obtain ⟨⟨hnone, -⟩ | ⟨-, htransition⟩, -, -⟩ := run.follows_transitions completes _ hm
  · exact nomatch hnone.symm.trans hpublished
  · exact htransition

end Session

end SecretConfig
