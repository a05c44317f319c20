import SecretConfig.Proofs.Scheduler.Schedule

set_option autoImplicit false

/-! # Attempts are spaced

Every state that is published makes a scheduler compute its schedule anew, perhaps for a token that
is due at once. The distance of two attempts survives that: the instant of the last attempt goes
into every schedule (`Abreast.lastAttempt_eq`), so each schedule is a retry interval later than it
(`Looked.spaced`), however often it is computed and however long the attempt took.

`Run.spaces_attempts` adds what follows for the number of attempts in a window of time
(`length_le_of_pairwise`), and that an attempt is made only for a state that asks for one. -/

namespace SecretConfig

namespace Scheduler

variable {id : CallId} {policy : RenewalPolicy} {start : Session}
  {history past earlier later : List Moment} {d d' : Duty} {m : Moment} {now at' : Instant}
  {a : Act} {seen : Nat}

/-! ## One attempt -/

/-- A schedule leaves a retry interval after the last attempt. -/
theorem Looked.spaced (h : Looked policy history seen (some at')) {previous : Instant}
    (last : (attemptStarts history).head? = some previous) :
    previous + max policy.minInterval 1000 ≤ at' := by
  obtain ⟨-, v, -, -, -, -, -, hdue⟩ := h
  obtain ⟨t, wanted, -, -, rfl⟩ := hdue.eq_max at' rfl
  rw [last]
  exact Nat.le_max_right _ _

/-- What the scheduler has seen at its latest look asks for an attempt. -/
theorem Looked.renewable (h : Looked policy history seen (some at')) :
    policy.enabled = true ∧ ∃ later v earlier, history = later ++ v :: earlier ∧
      v.isLook = true ∧ (∀ u ∈ later, u.isLook = false) ∧
        ∃ t, v.before.session.state.token? = some t ∧ t.renewable = true ∧ t.lease ≠ 0 := by
  obtain ⟨later, v, earlier, hhistory, hlook, hnone, -, hdue⟩ := h
  obtain ⟨henabled, t, htoken, hrenewable⟩ : policy.enabled = true ∧
      ∃ t, v.before.session.state.token? = some t ∧ t.isRenewable = true := by
    have hwanted := mt hdue.none_iff.2 nofun
    simpa using hwanted
  refine ⟨henabled, later, v, earlier, hhistory, hlook, ?_, t, htoken,
    Token.isRenewable_eq_true_iff.1 hrenewable⟩
  intro u hu
  rw [Moment.isLook, hnone u hu, Bool.false_and]

/-- An attempt starts when it is time for it. -/
theorem Duty.Acts.waiting_of_isAttempt (h : m.before.Acts id m.now m.act d')
    (hattempt : m.isAttempt = true) :
    ∃ due, m.before.scheduler.phase = .waiting (some due) ∧ due ≤ m.now := by
  unfold Moment.isAttempt at hattempt
  generalize m.act = a at h hattempt
  cases h with
  | session | cancel | abort => exact absurd hattempt Bool.false_ne_true
  | look phase turn =>
      rw [turn] at hattempt
      exact absurd hattempt (by simp)
  | fire phase time => exact ⟨_, phase, time⟩
  | move busy turn other =>
      rw [turn] at hattempt
      exact absurd (of_decide_eq_true hattempt) other

/-! ## All attempts -/

/-- **A later attempt starts a retry interval after an earlier one.** -/
theorem Run.attemptStarts_pairwise (run : Run id policy start history d) :
    (attemptStarts history).Pairwise
      fun later earlier => earlier + max policy.minInterval 1000 ≤ later := by
  induction run with
  | start => exact .nil
  | @next past d d' now a run step clock ih =>
      rw [attemptStarts_cons]
      split
      · rename_i hattempt
        refine List.pairwise_cons.2 ⟨?_, ih⟩
        obtain ⟨due, hphase, htime⟩ :=
          (Duty.acts_of_act step).waiting_of_isAttempt (m := ⟨d, now, a, d'⟩) hattempt
        have looked := run.abreast.looked _ hphase
        -- the attempt before this one is the latest of those before
        cases hstarts : attemptStarts past with
        | nil => exact List.forall_mem_nil _
        | cons previous rest =>
            have hprevious : previous + max policy.minInterval 1000 ≤ now :=
              Nat.le_trans (looked.spaced (by rw [hstarts]; rfl)) htime
            rw [hstarts] at ih
            intro first hfirst
            rcases List.mem_cons.1 hfirst with rfl | hrest
            · exact hprevious
            · have hbefore := (List.pairwise_cons.1 ih).1 first hrest
              lia
      · exact ih

/-- Instants that are spaced take their time. -/
theorem add_length_mul_le {interval from' latest : Nat} {rest : List Nat}
    (spaced : (latest :: rest).Pairwise fun later earlier => earlier + interval ≤ later)
    (lower : ∀ x ∈ latest :: rest, from' ≤ x) : from' + rest.length * interval ≤ latest := by
  induction rest generalizing latest with
  | nil =>
      have hlatest := lower latest List.mem_cons_self
      simpa using hlatest
  | cons next rest ih =>
      obtain ⟨hlatest, hrest⟩ := List.pairwise_cons.1 spaced
      have hnext := ih hrest fun x hx => lower x (List.mem_cons_of_mem latest hx)
      have hspace := hlatest next List.mem_cons_self
      calc from' + (next :: rest).length * interval
          = from' + rest.length * interval + interval := by
            rw [List.length_cons, Nat.add_one_mul, Nat.add_assoc]
        _ ≤ next + interval := Nat.add_le_add_right hnext interval
        _ ≤ latest := hspace

/-- In a window there is room for one spaced instant, and for another one in each interval that the
window is long. -/
theorem length_le_of_pairwise {interval from' width : Nat} {instants : List Nat}
    (positive : 0 < interval)
    (spaced : instants.Pairwise fun later earlier => earlier + interval ≤ later)
    (within : ∀ x ∈ instants, from' ≤ x ∧ x ≤ from' + width) :
    instants.length ≤ width / interval + 1 := by
  cases instants with
  | nil => exact Nat.zero_le _
  | cons latest rest =>
      have hlower := add_length_mul_le spaced fun x hx => (within x hx).1
      have hupper := (within latest List.mem_cons_self).2
      have hrest : rest.length ≤ width / interval := by
        rw [Nat.le_div_iff_mul_le positive]
        omega
      exact Nat.succ_le_succ hrest

/-! ## Every run -/

/-- **Attempts are spaced.** Whatever happens to the session, and whatever the policy is:

* two attempts of a scheduler start at least the least interval of the policy apart, and at least a
  second;
* a window of time, with both its ends, holds no more starts of attempts than one and another one
  for each such interval that it is long;
* an attempt is made only if the policy is enabled, and the scheduler has seen at its latest look a
  token that the store is willing to renew and whose lease ends. -/
theorem Run.spaces_attempts (run : Run id policy start history d) :
    ((attemptStarts history).Pairwise
      fun later earlier => earlier + max policy.minInterval 1000 ≤ later) ∧
    (∀ from' width, ((attemptStarts history).filter fun at' =>
        decide (from' ≤ at' ∧ at' ≤ from' + width)).length ≤
      width / max policy.minInterval 1000 + 1) ∧
    ∀ later m earlier, history = later ++ m :: earlier → m.isAttempt = true →
      policy.enabled = true ∧ ∃ between v before, earlier = between ++ v :: before ∧
        v.isLook = true ∧ (∀ u ∈ between, u.isLook = false) ∧
          ∃ t, v.before.session.state.token? = some t ∧ t.renewable = true ∧ t.lease ≠ 0 := by
  refine ⟨run.attemptStarts_pairwise, ?_, ?_⟩
  · intro from' width
    have hpositive : 0 < max policy.minInterval 1000 := by lia
    exact length_le_of_pairwise hpositive (run.attemptStarts_pairwise.filter _)
      fun x hx => of_decide_eq_true (List.mem_filter.1 hx).2
  · rintro later m earlier rfl hattempt
    obtain ⟨d', upTo⟩ := run.of_append
    obtain ⟨before, acts, -⟩ := upTo.of_cons
    obtain ⟨due, hphase, -⟩ := acts.waiting_of_isAttempt hattempt
    exact (before.abreast.looked _ hphase).renewable

/-- The renewal that was refused is tried again as soon as the policy allows it, which is a second
later, and again another second later. -/
def stubbornHistory : List Moment :=
  replay 7 { minInterval := 0 } quietStart []
    [(0, .session (.begin 0 .login)), (0, .session (.proceed 0)),
      (0, .session (.answer 0 (.granted ⟨"a", 10000, true⟩))), (0, .resume),
      (5000, .wake .timer), (5000, .session (.proceed 7)),
      (5100, .session (.answer 7 (.refused (.unavailable "down")))), (5100, .resume),
      (5100, .resume), (6000, .wake .timer), (6000, .session (.proceed 7)),
      (6500, .session (.expire 7)), (6500, .resume), (6500, .resume), (7000, .wake .timer)]

theorem spaces_attempts_stubbornHistory :
    attemptStarts stubbornHistory = [7000, 6000, 5000] ∧
      ((attemptStarts stubbornHistory).filter fun at' =>
        decide (5000 ≤ at' ∧ at' ≤ 5000 + 1999)).length ≤ 2 ∧
      ∃ between v before, stubbornHistory.tail = between ++ v :: before ∧ v.isLook = true ∧
        ∃ t, v.before.session.state.token? = some t ∧ t.renewable = true := by
  have run : Run 7 { minInterval := 0 } quietStart stubbornHistory
      (latest { minInterval := 0 } quietStart stubbornHistory) := Run.start.replay _
  obtain ⟨-, windows, seen⟩ := run.spaces_attempts
  have hne : stubbornHistory ≠ [] := by
    rw [← List.length_pos_iff]
    decide +kernel
  obtain ⟨-, between, v, before, hhistory, hlook, -, t, htoken, hrenewable, -⟩ :=
    seen [] (stubbornHistory.head hne) stubbornHistory.tail (List.cons_head_tail hne).symm
      rfl
  exact ⟨by decide +kernel, windows 5000 1999, between, v, before, hhistory, hlook, t, htoken,
    hrenewable⟩

end Scheduler

end SecretConfig
