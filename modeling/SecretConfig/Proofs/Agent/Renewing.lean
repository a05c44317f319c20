import SecretConfig.Proofs.Agent.Traces
import SecretConfig.Proofs.Session.Publications

set_option autoImplicit false

/-! # What it means that a session is renewing

A call publishes `renewing` before it sends a renewal, and takes it back after the renewal has
ended. While the renewal is in flight the state is `renewing` (`Traced.renewing_of_isRenewing`).
Whether the converse holds depends on how the renewal ends: an answer of the store and the end of
the time for it both publish another state (`Session.Does.ne_renewing_of_ends`), but nothing does so
when the call is dropped where it waits. That is what happens to the attempt of a scheduler that is
stopped for good, and the session says `renewing` then until something else is published.

`Run.renewing_iff` says so exactly, and `staleHistory` is such a run. -/

namespace SecretConfig

namespace Session

variable {s s' : Session} {now : Instant} {l : Label} {events : List Event} {t : Token}

/-- A step leads to the state `renewing` if it sends the renewal, or if it publishes nothing. -/
theorem Does.isRenewing_or_stays (h : s.Does now l s' events) (state : s'.state = .renewing t) :
    s'.IsRenewing t ∨ s'.version = s.version ∧ s.state = .renewing t := by
  cases h with
  | sendRenewal =>
      obtain rfl := SessionState.renewing.inj state
      exact .inl ⟨_, _, rfl⟩
  | handOut | crashAtOnce | sendLogin | forceLogin | dropWaiting => exact .inr ⟨rfl, state⟩
  | ask => exact .inr ⟨acquire_version _ _ _, by rwa [acquire_state] at state⟩
  | share | crash | noSession | skipRenewal | failLogin | crashRenewing | endRevocation
  | dropHolder => exact .inr ⟨release_version _, by rwa [release_state] at state⟩
  | lapse | closeRevoking | supersede => exact nomatch state
  | close | logIn | renew | keep | lose => exact nomatch (release_state _).symm.trans state

/-- A renewal that is answered, or that runs out of time, leaves another state. -/
theorem Does.ne_renewing_of_ends (h : s.Does now l s' events) (renewing : s.IsRenewing t)
    (fits : t.FitsClock) (ends : ∃ id, l = .expire id ∨ ∃ a, l = .answer id a) (u : Token) :
    s'.state ≠ .renewing u := by
  obtain ⟨id, deadline, holder⟩ := renewing
  cases h with
  | renew | keep | lose =>
      -- what these publish is `valid` or `expired`
      rw [release_state]
      exact nofun
  | crashRenewing label holder' bad =>
      have same := Prod.mk.inj (Option.some.inj (holder.symm.trans holder'))
      obtain ⟨rfl, -⟩ := Phase.renewing.inj same.2
      exact absurd fits (Token.isExpired_eq_error_iff_not_fitsClock.1 bad)
  | logIn holder' | supersede holder' | failLogin _ holder' | endRevocation _ holder' =>
      exact nomatch holder.symm.trans holder'
  | handOut | crashAtOnce | ask | share | crash | lapse | sendLogin | forceLogin | noSession
  | skipRenewal | sendRenewal | closeRevoking | close | dropHolder | dropWaiting =>
      obtain ⟨x, h | ⟨a, h⟩⟩ := ends
      · exact nomatch h
      · exact nomatch h

end Session

namespace Agent

variable {start s s' : Agent} {history earlier later : List Moment} {m : Moment} {a : Act}
  {t : Token} {trace : List Session.Moment}

/-- The renewal of a token is in flight. -/
def IsRenewing (s : Agent) (t : Token) : Prop := ∃ r ∈ s.requests, r.request = .renewal t

/-- The request in flight is the one that the holder of the guard waits for. -/
theorem Traced.isRenewing_iff (h : Traced start trace none s) :
    s.IsRenewing t ↔ s.session.IsRenewing t := by
  have hlogin : SessionRequest.renewal t ≠ s.login := by
    unfold login loginRequest
    split
    · exact nofun
    · exact nofun
  have hrequests : s.IsRenewing t ↔ ∃ id, (id, .renewal t) ∈ s.sent := by
    constructor
    · rintro ⟨r, hr, hrequest⟩
      exact ⟨r.caller, List.mem_map.2 ⟨r, hr, by rw [hrequest]⟩⟩
    · rintro ⟨id, hid⟩
      obtain ⟨r, hr, he⟩ := List.mem_map.1 hid
      exact ⟨r, hr, (Prod.mk.inj he).2⟩
  rw [hrequests, h.sent, Session.inFlight, Session.IsRenewing]
  cases s.session.active with
  | none => simp
  | some holder =>
      obtain ⟨id, phase⟩ := holder
      cases phase with
      | granted | revoking => simp [Phase.request?]
      | loggingIn => simp [Phase.request?, hlogin]
      | renewing => simp [Phase.request?, eq_comm]

theorem Traced.renewing_of_isRenewing (h : Traced start trace none s) (renewing : s.IsRenewing t) :
    s.session.state = .renewing t := by
  obtain ⟨id, deadline, holder⟩ := h.isRenewing_iff.1 renewing
  exact h.run.coherent.renewing_state id t deadline holder

/-! ## One act -/

/-- An act leads to the state `renewing` if it sends the renewal, or if it publishes nothing. -/
theorem Traced.isRenewing_or_stays (h : Traced start trace none s) (step : s.act a = some s')
    (state : s'.session.state = .renewing t) :
    s'.IsRenewing t ∨
      s'.session.version = s.session.version ∧ s.session.state = .renewing t := by
  rcases h.act step with ⟨l, events, steps, next⟩ | ⟨-, calls, next, outside⟩
  · have does := Session.does_of_step steps.step
    exact (does.isRenewing_or_stays state).imp_left next.isRenewing_iff.2
  · obtain ⟨hversion, hstate⟩ := next.run.published_of_outside h.run outside
    exact .inr ⟨hversion, hstate ▸ state⟩

/-- An act that publishes nothing leaves the state. -/
theorem Traced.state_of_version (h : Traced start trace none s) (step : s.act a = some s')
    (silent : s'.session.version = s.session.version) : s'.session.state = s.session.state := by
  rcases h.act step with ⟨l, events, steps, -⟩ | ⟨-, calls, next, outside⟩
  · exact (Session.does_of_step steps.step).state_eq_of_version silent
  · exact (next.run.published_of_outside h.run outside).2

/-- A renewal that the store answers, or that runs out of time, leaves another state. -/
theorem Traced.ne_renewing_of_ends (h : Traced start trace none s) (step : s.act a = some s')
    (ends : ∃ id, a = .move (.answer id) ∨ a = .move (.expire id)) (renewing : s.IsRenewing t)
    (fits : t.FitsClock) (u : Token) : s'.session.state ≠ .renewing u := by
  rcases h.act step with ⟨l, events, steps, -⟩ | ⟨outside, -⟩
  · refine (Session.does_of_step steps.step).ne_renewing_of_ends (h.isRenewing_iff.1 renewing)
      fits ?_ u
    have label := steps.label
    obtain ⟨id, rfl | rfl⟩ := ends
    · obtain ⟨r, -, hl⟩ := Option.map_eq_some_iff.1 label
      exact ⟨id, .inr ⟨_, hl.symm⟩⟩
    · exact ⟨id, .inl (Option.some.inj label).symm⟩
  · obtain ⟨id, rfl | rfl⟩ := ends
    · exact nomatch (stepAnswer_eq_none outside).symm.trans step
    · exact nomatch outside

/-! ## Every run -/

/-- Since a moment that publishes nothing, and after which nothing is published, the state stays. -/
theorem Run.state_of_silent (run : Run start (later ++ m :: earlier) s) (fresh : start.IsFresh)
    (silent : ∀ w ∈ m :: later, w.after.session.version = w.before.session.version) :
    Run start earlier m.before ∧ s.session.state = m.before.session.state := by
  induction later generalizing s with
  | nil =>
      cases run with
      | next before step =>
          obtain ⟨trace, traced⟩ := before.traced fresh
          exact ⟨before, traced.state_of_version step (silent _ List.mem_cons_self)⟩
  | cons w rest ih =>
      have hrest : ∀ v ∈ m :: rest, v.after.session.version = v.before.session.version := by
        intro v hv
        rcases List.mem_cons.1 hv with rfl | hv
        · exact silent v List.mem_cons_self
        · exact silent v (List.mem_cons_of_mem m (List.mem_cons_of_mem w hv))
      cases run with
      | next before step =>
          obtain ⟨trace, traced⟩ := before.traced fresh
          have hlast := traced.state_of_version step
            (silent _ (List.mem_cons_of_mem m List.mem_cons_self))
          obtain ⟨upTo, hstate⟩ := ih before hrest
          exact ⟨upTo, hlast.trans hstate⟩

/-- **What it means that a session is renewing.** In every run of an agent, whatever is asked of it,
and whoever is dropped or stopped in it:

* the published state is `renewing` exactly if the renewal of its token is in flight, or if that
  renewal has come to an end at a moment at which nothing was published, and nothing has been
  published since;
* a renewal that the store answers, or that runs out of time, is none of these: it leaves another
  state, if the clock goes as far as the end of the lease. -/
theorem Run.renewing_iff (run : Run start history s) (fresh : start.IsFresh) :
    (∀ t, s.session.state = .renewing t ↔ s.IsRenewing t ∨
      ∃ later m earlier, history = later ++ m :: earlier ∧
        m.before.IsRenewing t ∧ ¬ m.after.IsRenewing t ∧
          ∀ w ∈ m :: later, w.after.session.version = w.before.session.version) ∧
    ∀ m ∈ history, (∃ id, m.act = .move (.answer id) ∨ m.act = .move (.expire id)) →
      ∀ t, m.before.IsRenewing t → t.FitsClock → ∀ u, m.after.session.state ≠ .renewing u := by
  constructor
  · intro t
    constructor
    · intro state
      induction run with
      | start =>
          rw [fresh.session] at state
          exact nomatch state
      | @next past s s' a before step ih =>
          obtain ⟨trace, traced⟩ := before.traced fresh
          by_cases hnow : s'.IsRenewing t
          · exact .inl hnow
          · obtain ⟨hversion, hstate⟩ :=
              (traced.isRenewing_or_stays step state).resolve_left hnow
            -- the renewal has come to its end in this act, or in one before
            rcases ih hstate with hbefore | ⟨later, m, earlier, rfl, hbefore, hafter, silent⟩
            · refine .inr ⟨[], ⟨s, a, s'⟩, past, rfl, hbefore, hnow, ?_⟩
              intro w hw
              obtain rfl := List.mem_singleton.1 hw
              exact hversion
            · refine .inr ⟨⟨s, a, s'⟩ :: later, m, earlier, rfl, hbefore, hafter, ?_⟩
              intro w hw
              rcases List.mem_cons.1 hw with rfl | hw
              · exact silent w List.mem_cons_self
              · rcases List.mem_cons.1 hw with rfl | hw
                · exact hversion
                · exact silent w (List.mem_cons_of_mem m hw)
    · rintro (hnow | ⟨later, m, earlier, rfl, hbefore, -, silent⟩)
      · obtain ⟨trace, traced⟩ := run.traced fresh
        exact traced.renewing_of_isRenewing hnow
      · obtain ⟨upTo, hstate⟩ := run.state_of_silent fresh silent
        obtain ⟨trace, traced⟩ := upTo.traced fresh
        rw [hstate]
        exact traced.renewing_of_isRenewing hbefore
  · intro m hm ends t renewing fits
    induction run with
    | start => exact absurd hm List.not_mem_nil
    | next before step ih =>
        rcases List.mem_cons.1 hm with rfl | hm
        · obtain ⟨trace, traced⟩ := before.traced fresh
          exact traced.ne_renewing_of_ends step ends renewing fits
        · exact ih hm

/-- A store that grants leases of half a minute and takes eight seconds for a renewal. -/
def slowRenewals : MemoryStore := { lease := 30000, renewalDelay := 8000 }

/-- A scheduler starts its attempt at the second 25. At the second 26 it is asked to stop, and at
the second 27 it is stopped in the middle of its renewal. -/
def staleHistory : List Moment :=
  replay (overMemory slowRenewals) []
    [.spawn (.call .login), .move (.proceed 0), .move (.answer 0), .move (.resume 0),
      .startScheduler {}, .move (.resume 1), .move (.pass 25000), .move (.wake 1 .timer),
      .move (.proceed 1), .move (.pass 26000), .spawn (.stopScheduler 1 1000),
      .move (.pass 27000), .move (.resume 2)]

/-- The token that is under renewal then. -/
def staleToken : Token := ⟨⟨MemoryStore.issuedValue 1⟩, 30000, true, 0, .login⟩

theorem renewing_iff_staleHistory :
    (overMemory slowRenewals).IsFresh ∧
      Run (overMemory slowRenewals) staleHistory (latest (overMemory slowRenewals) staleHistory) ∧
      ∃ later m earlier, staleHistory = later ++ m :: earlier ∧
        m.before.IsRenewing staleToken ∧ ¬ m.after.IsRenewing staleToken ∧
          ∀ w ∈ m :: later, w.after.session.version = w.before.session.version := by
  have run : Run (overMemory slowRenewals) staleHistory
      (latest (overMemory slowRenewals) staleHistory) := Run.start.replay _
  have state : (latest (overMemory slowRenewals) staleHistory).session.state =
      .renewing staleToken := by decide +kernel
  have requests : (latest (overMemory slowRenewals) staleHistory).requests = [] := by
    decide +kernel
  refine ⟨isFresh_overMemory slowRenewals, run, ?_⟩
  obtain ⟨iff, -⟩ := run.renewing_iff (isFresh_overMemory slowRenewals)
  rcases (iff staleToken).1 state with ⟨r, hr, -⟩ | ended
  · rw [requests] at hr
    exact absurd hr List.not_mem_nil
  · exact ended

/-- The session says `renewing` while no request is in flight, nobody holds the guard and the
scheduler is stopped. -/
theorem staleHistory_shows_renewing :
    (overMemory slowRenewals).IsFresh ∧
      ∃ s, Run (overMemory slowRenewals) staleHistory s ∧ s.now = 27000 ∧
        s.isStopped 1 = true ∧ s.requests = [] ∧ s.session.active = none ∧
        s.session.state = .renewing staleToken ∧ ∀ t, ¬ s.IsRenewing t := by
  have run : Run (overMemory slowRenewals) staleHistory
      (latest (overMemory slowRenewals) staleHistory) := Run.start.replay _
  have requests : (latest (overMemory slowRenewals) staleHistory).requests = [] := by
    decide +kernel
  refine ⟨isFresh_overMemory slowRenewals, _, run, by decide +kernel, by decide +kernel, requests,
    by decide +kernel, by decide +kernel, ?_⟩
  rintro t ⟨r, hr, -⟩
  rw [requests] at hr
  exact absurd hr List.not_mem_nil

end Agent

end SecretConfig
