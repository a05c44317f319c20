import SecretConfig.Session.Policy

set_option autoImplicit false

/-! # When a lease ends

`Token.isExpired` adds the lease to the instant of issue and fails where the clock cannot
represent the sum. These lemmas say in plain arithmetic when it answers what, and the same of
the instants at which a policy wants a token renewed. -/

namespace SecretConfig

namespace Instant

theorem after_eq_ok_iff {start : Instant} {d : Duration} {at' : Instant} :
    Instant.after start d = .ok at' ↔ start + d ≤ Instant.last ∧ at' = start + d := by
  unfold after
  split
  · rename_i h
    simp [h, eq_comm]
  · rename_i h
    simp [h]

theorem after_eq_error_iff {start : Instant} {d : Duration} {fault : ClockFault} :
    Instant.after start d = .error fault ↔ Instant.last < start + d := by
  cases fault
  unfold after
  split
  · rename_i h
    simp [h]
  · rename_i h
    simp only [true_iff]
    lia

end Instant

namespace Token

/-- The lease lasts at an instant. -/
def Lasts (t : Token) (now : Instant) : Prop := t.lease = 0 ∨ now < t.issuedAt + t.lease

/-- The lease has ended at an instant. -/
def HasEnded (t : Token) (now : Instant) : Prop := t.lease ≠ 0 ∧ t.issuedAt + t.lease ≤ now

theorem hasEnded_iff_not_lasts {t : Token} {now : Instant} : t.HasEnded now ↔ ¬ t.Lasts now := by
  unfold HasEnded Lasts
  lia

theorem HasEnded.mono {t : Token} {now later : Instant} (h : t.HasEnded now) (le : now ≤ later) :
    t.HasEnded later :=
  ⟨h.1, Nat.le_trans h.2 le⟩

/-- The end of the lease cannot be computed, at whatever instant. -/
theorem isExpired_eq_error_iff {t : Token} {now : Instant} {fault : ClockFault} :
    t.isExpired now = .error fault ↔ t.lease ≠ 0 ∧ Instant.last < t.issuedAt + t.lease := by
  unfold isExpired expiresAt
  by_cases hl : t.lease = 0
  · simp [hl, Except.map]
  · rw [if_neg hl]
    cases ha : Instant.after t.issuedAt t.lease with
    | error fault' =>
        cases fault
        cases fault'
        simp [Except.map, hl, Instant.after_eq_error_iff.1 ha]
    | ok at' =>
        have := (Instant.after_eq_ok_iff.1 ha).1
        simp only [Except.map, reduceCtorEq, false_iff]
        lia

/-- The clock goes as far as the end of the lease. -/
def FitsClock (t : Token) : Prop := t.lease = 0 ∨ t.issuedAt + t.lease ≤ Instant.last

instance (t : Token) : Decidable t.FitsClock := inferInstanceAs (Decidable (_ ∨ _))

theorem isExpired_eq_error_iff_not_fitsClock {t : Token} {now : Instant} {fault : ClockFault} :
    t.isExpired now = .error fault ↔ ¬ t.FitsClock := by
  rw [isExpired_eq_error_iff]
  unfold FitsClock
  lia

theorem fitsClock_of_isExpired {t : Token} {now : Instant} {expired : Bool}
    (h : t.isExpired now = .ok expired) : t.FitsClock := by
  by_cases fits : t.FitsClock
  · exact fits
  · have hfault : t.isExpired now = .error .overflow :=
      isExpired_eq_error_iff_not_fitsClock.2 fits
    exact nomatch hfault.symm.trans h

theorem isExpired_eq_true_iff {t : Token} {now : Instant} :
    t.isExpired now = .ok true ↔ t.HasEnded now ∧ t.issuedAt + t.lease ≤ Instant.last := by
  unfold isExpired expiresAt HasEnded
  by_cases hl : t.lease = 0
  · simp [hl, Except.map]
  · rw [if_neg hl]
    cases ha : Instant.after t.issuedAt t.lease with
    | error fault =>
        have := Instant.after_eq_error_iff.1 ha
        simp only [Except.map, reduceCtorEq, false_iff]
        lia
    | ok at' =>
        obtain ⟨hle, rfl⟩ := Instant.after_eq_ok_iff.1 ha
        simp [Except.map, hl, hle]

theorem isExpired_eq_false_iff {t : Token} {now : Instant} :
    t.isExpired now = .ok false ↔
      t.lease = 0 ∨ now < t.issuedAt + t.lease ∧ t.issuedAt + t.lease ≤ Instant.last := by
  unfold isExpired expiresAt
  by_cases hl : t.lease = 0
  · simp [hl, Except.map]
  · rw [if_neg hl]
    cases ha : Instant.after t.issuedAt t.lease with
    | error fault =>
        have := Instant.after_eq_error_iff.1 ha
        simp only [Except.map, reduceCtorEq, false_iff]
        lia
    | ok at' =>
        obtain ⟨hle, rfl⟩ := Instant.after_eq_ok_iff.1 ha
        simp [Except.map, hl, hle]

theorem lasts_of_isExpired_eq_false {t : Token} {now : Instant} (h : t.isExpired now = .ok false) :
    t.Lasts now :=
  (isExpired_eq_false_iff.1 h).imp_right And.left

/-- A token lasts at the instant of its issue. -/
theorem lasts_issuedAt (t : Token) : t.Lasts t.issuedAt := by
  unfold Lasts
  lia

theorem isRenewable_eq_true_iff {t : Token} :
    t.isRenewable = true ↔ t.renewable = true ∧ t.lease ≠ 0 := by
  simp [isRenewable]

end Token

end SecretConfig
