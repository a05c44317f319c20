import SecretConfig.Proofs.Scheduler.Schedule
import SecretConfig.Proofs.Session.Retention
import SecretConfig.Proofs.Settings.Oversights
import SecretConfig.Vault.Client

set_option autoImplicit false

/-! # Leases beyond the end of the clock

The clock has a last instant. The lease that a store grants is published as it is, and only then
added to the instant of issue. If the sum is beyond the clock (`Token.FitsClock` says when it is
not), whoever computes it crashes: a call for a token that looks at the published one, a renewal
that failed and has to know whether the token is still good, and a scheduler that computes its
schedule.

`Run.crashes_iff` says that calls crash for no other reason, and that with validated settings
nothing crashes on a token that fits. `endlessHistory` is a run with a server that grants a lease of
`2 ^ 64 - 1` seconds. -/

namespace SecretConfig

/-! ## What can be computed -/

/-- The end of the lease and what depends on it can be computed, or none of it can. -/
theorem Token.fitsClock_iff {t : Token} {now : Instant} :
    t.FitsClock ↔ ∃ e b r, t.expiresAt = .ok e ∧ t.isExpired now = .ok b ∧
      t.remaining now = .ok r := by
  unfold FitsClock isExpired remaining expiresAt
  by_cases hlease : t.lease = 0
  · simp [hlease, Except.map]
  · rw [if_neg hlease]
    by_cases hlast : t.issuedAt + t.lease ≤ Instant.last
    · simp [Instant.after, hlast, Except.map]
    · simp [Instant.after, hlast, hlease, Except.map]

/-- When the policy wants a token renewed can be computed if the least interval fits as well. -/
theorem RenewalPolicy.exists_nextRenewalAt {p : RenewalPolicy} {t : Token} (fits : t.FitsClock)
    (interval : t.issuedAt + p.minInterval ≤ Instant.last) :
    ∃ due, p.nextRenewalAt t = .ok due := by
  by_cases hwanted : p.enabled = true ∧ t.isRenewable = true
  · obtain ⟨henabled, hrenewable⟩ := hwanted
    have hlease := (Token.isRenewable_eq_true_iff.1 hrenewable).2
    have hlast : t.issuedAt + max (t.lease - p.threshold) p.minInterval ≤ Instant.last := by
      have hend := fits.resolve_left hlease
      lia
    exact ⟨_, Scheduler.nextRenewalAt_eq_some henabled hrenewable hlast⟩
  · have hnot : ¬ (p.enabled && t.isRenewable) = true := by simpa using hwanted
    exact ⟨none, by rw [RenewalPolicy.nextRenewalAt, if_neg hnot]⟩

/-- A scheduler goes on to wait after a look at a token that fits, if its intervals fit as well. -/
theorem Scheduler.waiting_of_fitsClock {sched : Scheduler} {session : Session} {t : Token}
    (token : session.state.token? = some t) (fits : t.FitsClock)
    (interval : t.issuedAt + sched.policy.minInterval ≤ Instant.last)
    (spaced : ∀ previous ∈ sched.lastAttempt,
      previous + sched.policy.retryInterval ≤ Instant.last) :
    ∃ due, (sched.look session).phase = .waiting due := by
  by_cases hwanted : sched.policy.enabled = true ∧ t.isRenewable = true
  · obtain ⟨henabled, hrenewable⟩ := hwanted
    have hend := fits.resolve_left (Token.isRenewable_eq_true_iff.1 hrenewable).2
    have hlast : sched.due t ≤ Instant.last := by
      unfold due
      cases hprevious : sched.lastAttempt with
      | none =>
          dsimp only
          lia
      | some previous =>
          have hspaced := spaced previous hprevious
          dsimp only
          lia
    rw [look_eq sched token henabled hrenewable, if_pos hlast]
    exact ⟨_, rfl⟩
  · have hnone : sched.fireAt session.state = .ok none := by
      refine fireAt_eq_none ?_
      by_cases henabled : sched.policy.enabled = true
      · refine .inr fun u hu => ?_
        obtain rfl := Option.some.inj (hu.symm.trans token)
        simpa [henabled] using hwanted
      · exact .inl (by simpa using henabled)
    unfold look
    rw [hnone]
    exact ⟨_, rfl⟩

/-- Validated settings ask for an hour between two renewals at most. -/
theorem Settings.minInterval_le_of_validate {c : Settings} (h : c.validate = .ok ()) :
    c.lifecycle.renewal.policy.minInterval ≤ 3600000 := by
  unfold validate at h
  obtain ⟨_, hfields, -⟩ := Except.eq_ok_of_bind h
  have hnone : c.findings = [] := by
    unfold checkFields at hfields
    split at hfields
    · rename_i hempty
      exact List.isEmpty_iff.1 hempty
    · exact nomatch hfields
  simp only [findings, Lifecycle.findings, List.append_eq_nil_iff] at hnone
  obtain ⟨⟨⟨-, ⟨-, hinterval⟩, -⟩, -⟩, -⟩ := hnone
  have hhour : c.lifecycle.renewal.minInterval.toNat ≤ 3600 := by
    unfold inRange at hinterval
    split at hinterval
    · rename_i hrange
      exact hrange.2
    · exact nomatch hinterval
  calc c.lifecycle.renewal.policy.minInterval
      = c.lifecycle.renewal.minInterval.toNat * 1000 := rfl
    _ ≤ 3600 * 1000 := Nat.mul_le_mul_right 1000 hhour

namespace Session

variable {strategy : Strategy} {timeout : Duration} {history : List Moment} {s s' : Session}
  {now : Instant} {l : Label} {events : List Event} {id : CallId} {t : Token} {fault : ClockFault}

/-! ## Which calls crash -/

theorem usable_eq_error_iff :
    s.usable now = .error fault ↔ ∃ t, s.state.token? = some t ∧ ¬ t.FitsClock := by
  unfold usable
  cases s.state.token? with
  | none => simp
  | some t =>
      simp only [Option.some.injEq, exists_eq_left']
      have hfits : t.isExpired now = .error fault ↔ ¬ t.FitsClock :=
        Token.isExpired_eq_error_iff_not_fitsClock
      rw [← hfits]
      cases t.isExpired now with
      | error fault' => simp [Except.map]
      | ok expired => simp [Except.map]

/-- The reply that waits for the end of a revocation is no crash. -/
def IsSettled (s : Session) : Prop :=
  ∀ id target deadline reply, s.active = some (id, .revoking target deadline reply) →
    ∀ fault, reply ≠ .crashed fault

theorem Does.isSettled (h : s.Does now l s' events) (settled : s.IsSettled) : s'.IsSettled := by
  intro id target deadline reply active
  cases h with
  | handOut | crashAtOnce | dropWaiting => exact settled id target deadline reply active
  | ask =>
      rcases acquire_active active with hactive | ⟨call, hphase⟩
      · exact settled id target deadline reply hactive
      · exact nomatch hphase
  | lapse | sendLogin | forceLogin | sendRenewal => exact nomatch active
  | closeRevoking | supersede =>
      -- what is replied after a revocation was settled when it was sent
      obtain ⟨-, hphase⟩ := Prod.mk.inj (Option.some.inj active)
      obtain ⟨-, -, rfl⟩ := Phase.revoking.inj hphase
      exact nofun
  | share | crash | noSession | skipRenewal | close | logIn | failLogin | renew | keep | lose
  | crashRenewing | endRevocation | dropHolder =>
      obtain ⟨call, hphase⟩ := release_active_granted active
      exact nomatch hphase

theorem Run.isSettled (run : Run strategy timeout history s) : s.IsSettled := by
  induction run with
  | fresh =>
      intro id target deadline reply active
      exact nomatch active
  | next run step clock unused ih => exact (does_of_step step).isSettled ih

/-- A call that needs the end of the lease of a token: it looks at the published token, or its
renewal of the token has ended without a grant. -/
def Moment.NeedsEnd (m : Moment) (id : CallId) (t : Token) : Prop :=
  m.Serves id ∨
    ∃ deadline, m.before.active = some (id, .renewing t deadline) ∧ m.label.EndsUngranted id

theorem Does.needsEnd_of_crashed (h : s.Does now l s' events) (coherent : s.Coherent)
    (settled : s.IsSettled) (crashed : .returned id (.crashed fault) ∈ events) :
    ∃ t, s.state.token? = some t ∧ ¬ t.FitsClock ∧
      Moment.NeedsEnd ⟨s, now, l, s', events⟩ id t := by
  cases h with
  | crashAtOnce bad =>
      obtain ⟨rfl, -⟩ := Event.returned.inj (List.mem_singleton.1 crashed)
      obtain ⟨t, token, unfit⟩ := usable_eq_error_iff.1 bad
      exact ⟨t, token, unfit, .inl (.inl rfl)⟩
  | crash holder bad =>
      obtain ⟨rfl, -⟩ := Event.returned.inj (List.mem_singleton.1 crashed)
      obtain ⟨t, token, unfit⟩ := usable_eq_error_iff.1 bad
      exact ⟨t, token, unfit, .inl (.inr ⟨holder, rfl⟩)⟩
  | crashRenewing label holder bad =>
      simp only [List.mem_cons, reduceCtorEq, Event.returned.injEq, List.not_mem_nil, or_false,
        false_or] at crashed
      obtain ⟨rfl, -⟩ := crashed
      refine ⟨_, ?_, Token.isExpired_eq_error_iff_not_fitsClock.1 bad, .inr ⟨_, holder, label⟩⟩
      rw [coherent.renewing_state _ _ _ holder]
      rfl
  | endRevocation label holder =>
      obtain ⟨-, hreply⟩ := Event.returned.inj (List.mem_singleton.1 crashed)
      exact absurd hreply.symm (settled _ _ _ _ holder fault)
  | _ => simp at crashed

theorem Does.crashed_of_needsEnd (h : s.Does now l s' events) (token : s.state.token? = some t)
    (unfit : ¬ t.FitsClock) (needs : Moment.NeedsEnd ⟨s, now, l, s', events⟩ id t) :
    ∃ fault, .returned id (.crashed fault) ∈ events := by
  have bad : s.usable now = .error .overflow := usable_eq_error_iff.2 ⟨t, token, unfit⟩
  -- a rule that does not crash has computed the end of the lease, or is for another call
  rcases needs with (hlabel | ⟨active, hlabel⟩) | ⟨deadline, active, label⟩
  · obtain rfl : l = .begin id .getToken := hlabel
    cases h with
    | crashAtOnce => exact ⟨_, List.mem_singleton_self _⟩
    | handOut good => exact nomatch bad.symm.trans good
    | ask needed => exact nomatch bad.symm.trans (needed rfl)
    | failLogin label | keep label | lose label | crashRenewing label | endRevocation label =>
        exact label.elim
  · obtain rfl : l = .proceed id := hlabel
    cases h with
    | crash => exact ⟨_, List.mem_singleton_self _⟩
    | share holder good => exact nomatch bad.symm.trans good
    | lapse holder token' ended =>
        obtain rfl := Option.some.inj (token'.symm.trans token)
        exact absurd (Token.fitsClock_of_isExpired ended) unfit
    | sendLogin holder none => exact nomatch token.symm.trans none
    | forceLogin holder | noSession holder | skipRenewal holder | sendRenewal holder
    | closeRevoking holder | close holder => exact nomatch active.symm.trans holder
    | failLogin label | keep label | lose label | crashRenewing label | endRevocation label =>
        exact label.elim
  · cases h with
    | crashRenewing _ holder =>
        obtain ⟨rfl, -⟩ := Prod.mk.inj (Option.some.inj (active.symm.trans holder))
        exact ⟨_, List.mem_cons_of_mem _ (List.mem_singleton_self _)⟩
    | keep _ holder good | lose _ holder good =>
        have same := Prod.mk.inj (Option.some.inj (active.symm.trans holder))
        obtain ⟨rfl, -⟩ := Phase.renewing.inj same.2
        exact absurd (Token.fitsClock_of_isExpired good) unfit
    | failLogin _ holder | endRevocation _ holder => exact nomatch active.symm.trans holder
    | logIn | supersede | renew => exact absurd rfl (label.2 _)
    | _ => exact label.elim

/-! ## Every run -/

/-- A published token has the lease that a store has granted, from the instant of the grant on. -/
theorem Run.granted (run : Run strategy timeout history s) (token : s.state.token? = some t) :
    ∃ m ∈ history, ∃ id g, m.label = .answer id (.granted g) ∧ t.lease = g.lease ∧
      t.issuedAt = m.now := by
  induction run with
  | fresh => exact nomatch token
  | next run step clock unused ih =>
      rcases (does_of_step step).granted_or_stays run.coherent token with
        before | ⟨⟨id, g, label, lease⟩, -, issuedAt⟩
      · obtain ⟨m, hm, hgranted⟩ := ih before
        exact ⟨m, List.mem_cons_of_mem _ hm, hgranted⟩
      · exact ⟨_, List.mem_cons_self, id, g, label, lease, issuedAt⟩

/-- **Where the clock ends.** In every run of a session:

* whatever lease a store grants is published as it is, from the instant of the grant on;
* a call crashes exactly if it needs the end of the lease of the published token, and the clock
  does not go as far: it looks at the token, or its renewal of the token has failed;
* with the policy of validated settings, everything can be computed of a published token whose lease
  fits, and a scheduler that looks at it goes on to wait, unless the clock ends within an hour. -/
theorem Run.crashes_iff (run : Run strategy timeout history s) :
    (∀ t, s.state.token? = some t → ∃ m ∈ history, ∃ id g, m.label = .answer id (.granted g) ∧
      t.lease = g.lease ∧ t.issuedAt = m.now) ∧
    (∀ m ∈ history, ∀ id, (∃ fault, .returned id (.crashed fault) ∈ m.events) ↔
      ∃ t, m.before.state.token? = some t ∧ ¬ t.FitsClock ∧ m.NeedsEnd id t) ∧
    ∀ c : Settings, c.validate = .ok () → ∀ t, s.state.token? = some t →
      (∀ now, t.FitsClock ↔ ∃ e b r, t.expiresAt = .ok e ∧ t.isExpired now = .ok b ∧
        t.remaining now = .ok r) ∧
      (t.FitsClock → t.issuedAt + 3600000 ≤ Instant.last →
        (∃ due, c.lifecycle.renewal.policy.nextRenewalAt t = .ok due) ∧
        ∀ sched : Scheduler, sched.policy = c.lifecycle.renewal.policy →
          (∀ previous ∈ sched.lastAttempt, previous + 3600000 ≤ Instant.last) →
          ∃ due, (sched.look s).phase = .waiting due) := by
  refine ⟨fun t token => run.granted token, ?_, ?_⟩
  · intro m hm id
    obtain ⟨later, past, rfl⟩ := List.append_of_mem hm
    obtain ⟨before, does⟩ := (run.of_suffix ⟨later, rfl⟩).of_cons
    constructor
    · rintro ⟨fault, crashed⟩
      exact does.needsEnd_of_crashed before.coherent before.isSettled crashed
    · rintro ⟨t, token, unfit, needs⟩
      exact does.crashed_of_needsEnd token unfit needs
  · intro c valid t token
    refine ⟨fun now => Token.fitsClock_iff, ?_⟩
    intro fits room
    have hhour := Settings.minInterval_le_of_validate valid
    have hinterval : t.issuedAt + c.lifecycle.renewal.policy.minInterval ≤ Instant.last := by lia
    refine ⟨RenewalPolicy.exists_nextRenewalAt fits hinterval, ?_⟩
    intro sched policy spaced
    rw [← policy] at hhour hinterval
    refine Scheduler.waiting_of_fitsClock token fits hinterval fun previous hprevious => ?_
    have hspaced := spaced previous hprevious
    have hretry : sched.policy.retryInterval ≤ 3600000 := Nat.max_le.2 ⟨hhour, by decide⟩
    lia

/-! ### A lease that no clock can represent -/

/-- A server that grants every login the longest lease that it can write down. -/
def endlessServer : Vault.Network where
  answer := fun _ => .answered 200 <| .complete <| String.toUTF8
    "\x7b\"auth\":\x7b\"client_token\":\"s\",\"lease_duration\":18446744073709551615,\"renewable\":true\x7d\x7d"

/-- The grant that its answer makes. -/
def endlessGrant : Grant := ⟨"s", 18446744073709551615000, true⟩

/-- The token that it makes. -/
def endlessToken : Token := ⟨⟨"s"⟩, 18446744073709551615000, true, 0, .login⟩

/-- How the callers log in. -/
def plainLogin : Strategy := .userpass "userpass" "user" ⟨"password"⟩

/-- A caller logs in with a grant, and another one asks for the token. -/
def grantedHistory (g : Grant) : List Moment :=
  replay plainLogin 10000 []
    [(0, .begin 0 .getToken), (0, .proceed 0), (0, .answer 0 (.granted g)), (1, .begin 1 .getToken)]

theorem crashes_iff_grantedHistory :
    (∃ m ∈ grantedHistory endlessGrant, ∃ t, m.before.state.token? = some t ∧ ¬ t.FitsClock ∧
      m.NeedsEnd 1 t) ∧
    ∃ due, (Scheduler.look { policy := Settings.plainSettings.lifecycle.renewal.policy }
      (latest plainLogin 10000 (grantedHistory ⟨"s", 60000, true⟩))).phase = .waiting due := by
  have runs (g : Grant) :
      Run plainLogin 10000 (grantedHistory g) (latest plainLogin 10000 (grantedHistory g)) :=
    Run.fresh.replay _
  constructor
  · obtain ⟨-, crashes, -⟩ := (runs endlessGrant).crashes_iff
    have hne : grantedHistory endlessGrant ≠ [] := List.ne_nil_of_length_eq_add_one (n := 3) rfl
    have hevents : ((grantedHistory endlessGrant).head hne).events =
        [.returned 1 (.crashed .overflow)] := rfl
    have hmem := List.head_mem hne
    refine ⟨_, hmem, (crashes _ hmem 1).1 ⟨.overflow, ?_⟩⟩
    rw [hevents]
    exact List.mem_singleton_self _
  · obtain ⟨-, -, fitting⟩ := (runs ⟨"s", 60000, true⟩).crashes_iff
    obtain ⟨-, computes⟩ := fitting Settings.plainSettings Settings.validate_plainSettings
      ⟨⟨"s"⟩, 60000, true, 0, .login⟩ rfl
    exact (computes (by decide) (by decide)).2 _ rfl nofun

/-- A server grants a lease that is published, and that makes all who need its end crash: the next
caller who asks for the token, and a scheduler with the policy of validated settings. -/
theorem endlessServer_crashes_session :
    (∃ flow, plainLogin.flow default = .ok flow ∧
      Vault.Client.login ⟨"http://vault:8200", none, 30000⟩ endlessServer flow =
        .ok endlessGrant) ∧
    Run plainLogin 10000 (grantedHistory endlessGrant)
      (latest plainLogin 10000 (grantedHistory endlessGrant)) ∧
    (latest plainLogin 10000 (grantedHistory endlessGrant)).state = .valid endlessToken ∧
    ((grantedHistory endlessGrant).head?.map fun m => (m.label, m.events)) =
      some (.begin 1 .getToken, [.returned 1 (.crashed .overflow)]) ∧
    endlessToken.expiresAt = .error .overflow ∧
    endlessToken.isExpired 1 = .error .overflow ∧
    endlessToken.remaining 1 = .error .overflow ∧
    Settings.plainSettings.validate = .ok () ∧
    Settings.plainSettings.lifecycle.renewal.policy.nextRenewalAt endlessToken = .error .overflow ∧
    (Scheduler.look { policy := Settings.plainSettings.lifecycle.renewal.policy }
      (latest plainLogin 10000 (grantedHistory endlessGrant))).phase = .stopped := by
  have granted : ∃ flow, plainLogin.flow default = .ok flow ∧
      Vault.Client.login ⟨"http://vault:8200", none, 30000⟩ endlessServer flow =
        .ok endlessGrant := ⟨_, rfl, by decide +kernel⟩
  refine ⟨granted, Run.fresh.replay _, ?_⟩
  decide +kernel

end Session

end SecretConfig
