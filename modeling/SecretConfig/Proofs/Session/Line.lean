import SecretConfig.Proofs.Session.Runs

set_option autoImplicit false

/-! # The line for the guard

The call that holds the guard and the calls that wait for it form one line (`Session.line`), each
with what it is there for. A step does one of five things to it (`Session.LineMove`): a call is
over as soon as it is made, a call joins at the end, the first goes on, the first is over, or one
that waits is dropped.

From this follow the two facts about a whole run: who is in line is there for the call that its
identity was last given to (`Run.callOf_of_mem_line`), and whoever was in line before it is over
by the time it holds the guard (`Run.over_of_active`). -/

namespace SecretConfig

/-- What the call that waits in the phase is for. -/
def Phase.call : Phase → Call
  | granted call => call
  | loggingIn forced _ _ => if forced then .login else .getToken
  | renewing _ _ => .renew
  | revoking _ _ .closed => .shutdown true
  | revoking _ _ _ => .login

namespace Session

/-- The calls in line for the guard, the holder first. -/
def line (s : Session) : List (CallId × Call) :=
  s.active.toList.map (fun e => (e.1, e.2.call)) ++ s.queue

variable {strategy : Strategy} {timeout : Duration} {history past between : List Moment}
  {m : Moment} {s s' : Session} {now : Instant} {l : Label} {events : List Event}

theorem map_fst_line (s : Session) : s.line.map Prod.fst = s.callers := by
  simp [line, callers, Function.comp_def]

theorem line_of_active {id : CallId} {phase : Phase} (holder : s.active = some (id, phase)) :
    s.line = (id, phase.call) :: s.queue := by
  simp [line, holder]

theorem mem_callers_of_mem_line {id : CallId} {call : Call} (h : (id, call) ∈ s.line) :
    id ∈ s.callers := by
  rw [← map_fst_line]
  exact List.mem_map.2 ⟨_, h, rfl⟩

/-! ## One step -/

/-- A holder that goes on to another phase stays there for the same call. -/
theorem Does.call_eq (h : s.Does now l s' events) (coherent : s.Coherent) {id : CallId}
    {phase phase' : Phase} (holder : s.active = some (id, phase))
    (active : s'.active = some (id, phase')) (waits : ∀ call, phase' ≠ .granted call) :
    phase'.call = phase.call := by
  have same {p : Phase} (h : s'.active = some (id, p)) : phase' = p :=
    (Prod.mk.inj (Option.some.inj (active.symm.trans h))).2
  have here {x : CallId} {p : Phase} (h : s.active = some (x, p)) : x = id ∧ phase = p := by
    obtain ⟨hid, hphase⟩ := Prod.mk.inj (Option.some.inj (holder.symm.trans h))
    exact ⟨hid.symm, hphase⟩
  cases h with
  | handOut | crashAtOnce | dropWaiting =>
      obtain rfl := same holder
      rfl
  | ask =>
      rcases acquire_active active with hactive | ⟨call, rfl⟩
      · rw [(here hactive).2]
      · exact absurd rfl (waits call)
  | lapse holder' | sendLogin holder' | forceLogin holder' | sendRenewal holder'
  | closeRevoking holder' =>
      obtain ⟨rfl, rfl⟩ := here holder'
      obtain rfl := same rfl
      rfl
  | supersede holder' =>
      obtain ⟨rfl, rfl⟩ := here holder'
      obtain rfl := same rfl
      rename_i forced old deadline g _ _
      -- a login for a call for a token replaces none
      cases forced with
      | true => rfl
      | false =>
          have hnone := coherent.unforced_token _ _ _ holder'
          have hold := coherent.superseded_eq _ _ _ _ holder'
          exact nomatch hold.trans hnone
  | share | crash | noSession | skipRenewal | close | logIn | failLogin | renew | keep | lose
  | crashRenewing | endRevocation | dropHolder =>
      obtain ⟨call, rfl⟩ := release_active_granted (by simpa using active)
      exact absurd rfl (waits call)

/-- What becomes of the line. -/
inductive LineMove (s : Session) (l : Label) (s' : Session) (events : List Event) : Prop
  /-- A call is over as soon as it is made. -/
  | pass (id : CallId) (label : l.Begins id) (line : s'.line = s.line)
      (ends : ∀ x, Ends l events x ↔ x = id)
  /-- A call is made and joins at the end. -/
  | join (id : CallId) (call : Call) (label : l = .begin id call)
      (line : s'.line = s.line ++ [(id, call)]) (ends : ∀ x, ¬ Ends l events x)
  /-- The first goes on. -/
  | hold (label : ∀ x, ¬ l.Begins x) (line : s'.line = s.line) (ends : ∀ x, ¬ Ends l events x)
  /-- The first is over. -/
  | handOn (id : CallId) (call : Call) (label : ∀ x, ¬ l.Begins x)
      (line : s.line = (id, call) :: s'.line) (ends : ∀ x, Ends l events x ↔ x = id)
  /-- One that waits is dropped. -/
  | leave (id : CallId) (label : l = .drop id) (line : s'.line = s.line.filter fun c => c.1 ≠ id)
      (ends : ∀ x, Ends l events x ↔ x = id)

theorem line_acquire (id : CallId) (call : Call) (h : s.active = none → s.queue = []) :
    (s.acquire id call).line = s.line ++ [(id, call)] := by
  unfold acquire
  split
  · rename_i hnone
    simp [line, hnone, h hnone, Phase.call]
  · rename_i holder hsome
    simp [line, hsome]

theorem line_release {id : CallId} {phase : Phase} (holder : s.active = some (id, phase)) :
    s.line = (id, phase.call) :: s.release.line := by
  rw [line_of_active holder]
  unfold release
  split
  · rename_i hnil
    simp [line, hnil]
  · rename_i next call rest hcons
    simp [line, hcons, Phase.call]

theorem Does.lineMove (h : s.Does now l s' events) (coherent : s.Coherent) :
    s.LineMove l s' events := by
  cases h.guardMove with
  | pass id label active queue ends => exact .pass id label (by simp [line, active, queue]) ends
  | ask id call label next ends =>
      subst next
      exact .join id call label (line_acquire id call coherent.queue_nil) ends
  | hold id phase phase' holder active waits queue label ends =>
      refine .hold label ?_ ends
      rw [line_of_active holder, line_of_active active, queue,
        h.call_eq coherent holder active waits]
  | handOn id phase holder active queue label ends =>
      refine .handOn id phase.call label ?_ ends
      rw [line_release holder]
      simp [line, active, queue]
  | leave id label waiting next ends =>
      subst next
      refine .leave id label ?_ ends
      -- the holder is another call, so only the queue gets shorter
      simp only [line, List.filter_append, List.append_cancel_right_eq]
      refine (List.filter_eq_self.2 ?_).symm
      intro e he
      obtain ⟨⟨holder, phase⟩, hmem, rfl⟩ := List.mem_map.1 he
      have hholder : s.active = some (holder, phase) := by simpa using hmem
      simp only [ne_eq, decide_eq_true_eq]
      rintro rfl
      exact waiting phase hholder

/-! ## What a call is for -/

/-- The call that the identity was last given to. -/
def callOf : List Moment → CallId → Option Call
  | [], _ => none
  | m :: past, id =>
    match m.label with
    | .begin caller call => if caller = id then some call else callOf past id
    | _ => callOf past id

theorem callOf_of_begin {id : CallId} {call : Call} (label : m.label = .begin id call) :
    callOf (m :: past) id = some call := by
  simp [callOf, label]

theorem callOf_of_not_begins {id : CallId} (label : ¬ m.label.Begins id) :
    callOf (m :: past) id = callOf past id := by
  simp only [callOf]
  split
  · rename_i caller call hlabel
    rw [hlabel] at label
    exact if_neg label
  · rfl

/-- An identity that is in line is not given to another call. -/
theorem not_begins_of_mem_line (unused : ∀ id, l.Begins id → id ∉ s.callers) {id : CallId}
    {call : Call} (h : (id, call) ∈ s.line) : ¬ l.Begins id :=
  fun begins => unused id begins (mem_callers_of_mem_line h)

/-- Who is in line is there for the call that its identity was last given to. -/
theorem Run.callOf_of_mem_line (run : Run strategy timeout history s) {id : CallId} {call : Call}
    (h : (id, call) ∈ s.line) : callOf history id = some call := by
  induction run with
  | fresh => simp [line] at h
  | next run step clock unused ih =>
      cases (does_of_step step).lineMove run.coherent with
      | pass caller label line | hold label line =>
          rw [line] at h
          rw [callOf_of_not_begins (not_begins_of_mem_line unused h), ih h]
      | join caller call' label line =>
          rw [line, List.mem_append, List.mem_singleton] at h
          rcases h with h | h
          · rw [callOf_of_not_begins (not_begins_of_mem_line unused h), ih h]
          · obtain ⟨rfl, rfl⟩ := Prod.mk.inj h
            exact callOf_of_begin label
      | handOn caller call' label line =>
          have hmem := List.mem_cons_of_mem (caller, call') h
          rw [← line] at hmem
          rw [callOf_of_not_begins (label id), ih hmem]
      | leave caller label line =>
          rw [line] at h
          have hmem := (List.mem_filter.1 h).1
          rw [callOf_of_not_begins (not_begins_of_mem_line unused hmem), ih hmem]

/-- The holder of the guard is there for the call that its identity was last given to. -/
theorem Run.callOf_of_active (run : Run strategy timeout history s) {id : CallId} {phase : Phase}
    (holder : s.active = some (id, phase)) : callOf history id = some phase.call :=
  run.callOf_of_mem_line (by simp [line, holder])

/-! ## Calls that are on -/

/-- A call that was made and is not over is live. -/
theorem live_of_not_ends {id : CallId} (begins : m.label.Begins id)
    (on : ∀ v ∈ m :: between, ¬ Ends v.label v.events id) :
    Live (between ++ m :: past) id := by
  induction between with
  | nil => exact ⟨on m List.mem_cons_self, .inl begins⟩
  | cons v rest ih =>
      have hsub : m :: rest ⊆ m :: v :: rest :=
        List.cons_subset_cons m (List.subset_cons_self v rest)
      have hv : v ∈ m :: v :: rest := List.mem_cons_of_mem m List.mem_cons_self
      exact ⟨on v hv, .inr (ih fun w hw => on w (hsub hw))⟩

theorem Run.not_begins_of_live (run : Run strategy timeout (m :: past) s) {id : CallId}
    (live : Live past id) : ¬ m.label.Begins id := by
  intro begins
  cases run with
  | next run step clock unused => exact unused id begins ((run.callers_iff id).2 live)

/-! ## Who is ahead -/

/-- The first call is in line, somewhere behind the second. -/
def IsBehind (s : Session) (id x : CallId) : Prop := List.Sublist [x, id] s.callers

theorem LineMove.isBehind (move : s.LineMove l s' events) {id x : CallId}
    (behind : s.IsBehind id x) (on : ¬ Ends l events id) (waits : ¬ Ends l events x) :
    s'.IsBehind id x := by
  unfold IsBehind at behind ⊢
  rw [← map_fst_line] at behind ⊢
  cases move with
  | pass caller label line | hold label line => rwa [line]
  | join caller call label line =>
      rw [line, List.map_append]
      exact behind.trans (List.sublist_append_left _ _)
  | handOn caller call label line ends =>
      rw [line, List.map_cons] at behind
      -- who is over is the first in line, and neither of the two
      cases behind with
      | cons _ h => exact h
      | cons_cons _ h => exact absurd ((ends _).2 rfl) waits
  | leave caller label line ends =>
      have hx : x ≠ caller := fun he => waits ((ends x).2 he)
      have hid : id ≠ caller := fun he => on ((ends id).2 he)
      have hfilter := behind.filter fun c => decide (c ≠ caller)
      rw [line]
      simpa [List.filter_map, Function.comp_def, List.filter_cons, hx, hid] using hfilter

/-- Nobody is ahead of the holder. -/
theorem Coherent.not_isBehind (coherent : s.Coherent) {id x : CallId} {phase : Phase}
    (holder : s.active = some (id, phase)) : ¬ s.IsBehind id x := by
  intro behind
  have hcallers := callers_release holder
  have hnodup := coherent.callers_nodup
  rw [hcallers, List.nodup_cons] at hnodup
  unfold IsBehind at behind
  rw [hcallers] at behind
  cases behind with
  | cons _ h => exact hnodup.1 (h.subset (by simp))
  | cons_cons _ h => exact hnodup.1 (List.singleton_sublist.1 h)

/-- A call that joined the line stays behind who was there, as long as neither is over. -/
theorem Run.isBehind (run : Run strategy timeout (between ++ m :: past) s) {id x : CallId}
    {call : Call} (joins : m.label = .begin id call) (ahead : x ∈ m.before.callers)
    (on : ∀ v ∈ m :: between, ¬ Ends v.label v.events id)
    (waits : ∀ v ∈ m :: between, ¬ Ends v.label v.events x) : s.IsBehind id x := by
  induction between generalizing s with
  | nil =>
      obtain ⟨before, does⟩ := run.of_cons
      obtain rfl : m.after = s := by cases run; rfl
      have hon := on m List.mem_cons_self
      unfold IsBehind
      rw [← map_fst_line] at ahead ⊢
      cases does.lineMove before.coherent with
      | pass caller label line ends =>
          have hcaller : caller = id := (joins ▸ label : Label.Begins caller (.begin id call)).symm
          exact absurd ((ends id).2 hcaller.symm) hon
      | join caller call' label line =>
          obtain ⟨rfl, rfl⟩ := Label.begin.inj (joins.symm.trans label)
          rw [line, List.map_append]
          exact (List.singleton_sublist.2 ahead).append (List.Sublist.refl _)
      | hold label | handOn caller call' label =>
          exact absurd (joins ▸ rfl : m.label.Begins id) (label id)
      | leave caller label => exact nomatch joins.symm.trans label
  | cons v rest ih =>
      obtain ⟨before, does⟩ := Run.of_cons run
      obtain rfl : v.after = s := by cases run; rfl
      have hsub : m :: rest ⊆ m :: v :: rest := List.cons_subset_cons m (List.subset_cons_self v rest)
      have hv : v ∈ m :: v :: rest := List.mem_cons_of_mem m List.mem_cons_self
      have hbehind := ih before (fun w hw => on w (hsub hw)) fun w hw => waits w (hsub hw)
      exact (does.lineMove before.coherent).isBehind hbehind (on v hv) (waits v hv)

/-- By the time a call holds the guard, all who were in line before it are over. -/
theorem Run.over_of_active (run : Run strategy timeout (between ++ m :: past) s) {id x : CallId}
    {call : Call} {phase : Phase} (joins : m.label = .begin id call)
    (ahead : x ∈ m.before.callers) (on : ∀ v ∈ m :: between, ¬ Ends v.label v.events id)
    (holder : s.active = some (id, phase)) : ∃ v ∈ m :: between, Ends v.label v.events x := by
  refine Classical.byContradiction fun hnone => ?_
  have waits (v : Moment) (hv : v ∈ m :: between) : ¬ Ends v.label v.events x :=
    fun ends => hnone ⟨v, hv, ends⟩
  exact run.coherent.not_isBehind holder (run.isBehind joins ahead on waits)

end Session

end SecretConfig
