import SecretConfig.Proofs.Agent.BuildSteps

set_option autoImplicit false

/-! # How builds count backends

What a task counts is what the counters gain at its acts (`gainOf`). A build counts what it skips
when it plans its reads, and each read when it ends. `Tally` keeps account of both from the plan
on, and `Run.counts_backends` is about builds that are over: one that has read has counted each
backend that is enabled once, as it has fared. -/

namespace SecretConfig

namespace Agent

variable {start s s' : Agent} {history past later : List Moment} {m u : Moment} {id : CallId}
  {a : Act} {o : BuildOptions} {ds : List Descriptor} {trace : List Session.Moment}

/-! ## What the acts of a task count -/

instance (a : Act) (id : CallId) (s : Agent) : Decidable (a.IsOf id s) :=
  match a with
  | .spawn _ => inferInstanceAs (Decidable (id = s.nextId))
  | .startScheduler _ => inferInstanceAs (Decidable False)
  | .drop caller => inferInstanceAs (Decidable (id = caller))
  | .move (.resume caller) => inferInstanceAs (Decidable (id = caller))
  | .move (.wake caller _) => inferInstanceAs (Decidable (id = caller))
  | .move (.read caller _) => inferInstanceAs (Decidable (id = caller))
  | .move (.proceed _) => inferInstanceAs (Decidable False)
  | .move (.answer _) => inferInstanceAs (Decidable False)
  | .move (.expire _) => inferInstanceAs (Decidable False)
  | .move (.pass _) => inferInstanceAs (Decidable False)

/-- By how much a counter goes up at a moment. -/
def Moment.gain (u : Moment) (x : Metrics.Record) : Nat :=
  u.after.metrics.value x - u.before.metrics.value x

/-- By how much a counter has gone up at some moments. -/
def gained (x : Metrics.Record) : List Moment → Nat
  | [] => 0
  | u :: rest => u.gain x + gained x rest

/-- By how much a counter has gone up through what a task did. -/
def gainOf (history : List Moment) (id : CallId) (x : Metrics.Record) : Nat :=
  gained x (history.filter fun u => u.act.IsOf id u.before)

variable {x : Metrics.Record}

theorem value_of_act (counted : x.isCounted = true) (step : s.act a = some s') :
    s'.metrics.value x = s.metrics.value x + (a.records s).count x := by
  have hrecords : s'.metrics = (a.records s).foldl Metrics.add s.metrics := records_of_act step
  rw [hrecords, Metrics.value_foldl_add counted]

theorem gain_of_act (counted : x.isCounted = true) (step : s.act a = some s') :
    Moment.gain ⟨s, a, s'⟩ x = (a.records s).count x := by
  simp only [Moment.gain, value_of_act counted step]
  omega

theorem gainOf_cons_of_isOf (own : u.act.IsOf id u.before) (history : List Moment) :
    gainOf (u :: history) id x = u.gain x + gainOf history id x := by
  simp [gainOf, gained, own]

theorem gainOf_cons_of_not_isOf (other : ¬ u.act.IsOf id u.before) (history : List Moment) :
    gainOf (u :: history) id x = gainOf history id x := by
  simp [gainOf, other]

/-- What a build records at a moment at which one of its reads ends. -/
def Moment.fate? (u : Moment) (id : CallId) (o : BuildOptions) : Option Metrics.Record :=
  (u.readEnd? id).map fun e => e.2.1.descriptor.record (e.2.1.layer o e.2.2).2

/-- What a build has recorded of the reads that have ended. -/
def readFates (later : List Moment) (id : CallId) (o : BuildOptions) : List Metrics.Record :=
  later.filterMap fun u => u.fate? id o

theorem readFates_cons_of_silent (silent : u.readEnd? id = none) (later : List Moment)
    (o : BuildOptions) : readFates (u :: later) id o = readFates later id o := by
  simp [readFates, Moment.fate?, silent]

/-- Only a task ends its own reads. -/
theorem readEnd?_of_not_isOf (other : ¬ u.act.IsOf id u.before) : u.readEnd? id = none := by
  unfold Moment.readEnd?
  split
  · rename_i caller index goal o t slots act ht
    have hne : caller ≠ id := by
      rintro rfl
      rw [act] at other
      exact other rfl
    rw [if_neg hne]
  · rfl

/-- What a read of a build records, if it has got its answer. -/
def cellRecord? (o : BuildOptions) (c : PlannedRead × Option ReadAnswer) :
    Option Metrics.Record :=
  c.2.map fun answer => c.1.descriptor.record (c.1.layer o answer).2

/-- The reads of a build that stand open in `slots`, each with the answer that it has got. -/
structure Answered (later : List Moment) (id : CallId) (o : BuildOptions) (slots : List ReadSlot)
    (cells : List (PlannedRead × Option ReadAnswer)) : Prop where
  slots : slots.map (fun r => (r.read, r.outcome.isSome)) = cells.map fun c => (c.1, c.2.isSome)
  ended : ∀ (index : Nat) r answer, cells[index]? = some (r, some answer) →
    ∃ u ∈ later, u.readEnd? id = some (index, r, answer)
  count : ∀ x, (readFates later id o).count x = (cells.filterMap (cellRecord? o)).count x

/-- Nothing has been answered when the reads are sent. -/
theorem answered_unread {slots : List ReadSlot} (unread : ∀ r ∈ slots, r.outcome = none)
    (silent : readFates later id o = []) :
    Answered later id o slots (slots.map fun r => (r.read, none)) where
  slots := by
    rw [List.map_map]
    refine List.map_congr_left fun r hr => ?_
    simp [unread r hr]
  ended index r answer h := by
    rw [List.getElem?_map] at h
    obtain ⟨r', -, hcell⟩ := Option.map_eq_some_iff.1 h
    exact nomatch hcell
  count x := by
    rw [silent, List.filterMap_map]
    have hnone : List.filterMap (cellRecord? o ∘ fun r => (r.read, none)) slots = [] :=
      List.filterMap_eq_nil_iff.2 fun r _ => rfl
    rw [hnone]

variable {slots : List ReadSlot} {cells : List (PlannedRead × Option ReadAnswer)}
  {index : Nat} {r : ReadSlot} {answer : ReadAnswer}

theorem Answered.next (h : Answered later id o slots cells) (silent : u.readEnd? id = none) :
    Answered (u :: later) id o slots cells where
  slots := h.slots
  ended index r answer hcell := by
    obtain ⟨v, hv, ended⟩ := h.ended index r answer hcell
    exact ⟨v, List.mem_cons_of_mem u hv, ended⟩
  count x := by rw [readFates_cons_of_silent silent, h.count]

/-- A list yields one more if an element that yields nothing is replaced by one that does. -/
theorem count_filterMap_set {α : Type} {f : α → Option Metrics.Record} {l : List α} {i : Nat}
    {c c' : α} {y : Metrics.Record} (hc : l[i]? = some c) (before : f c = none)
    (after : f c' = some y) (x : Metrics.Record) :
    ((l.set i c').filterMap f).count x = (y :: l.filterMap f).count x := by
  induction l generalizing i with
  | nil => exact nomatch hc
  | cons b rest ih =>
      cases i with
      | zero =>
          obtain rfl := Option.some.inj hc
          rw [List.set_cons_zero, List.filterMap_cons_some after, List.filterMap_cons_none before]
      | succ i =>
          rw [List.set_cons_succ]
          have hrest := ih hc
          cases hb : f b with
          | none => rw [List.filterMap_cons_none hb, List.filterMap_cons_none hb, hrest]
          | some z =>
              rw [List.filterMap_cons_some hb, List.filterMap_cons_some hb]
              simp only [List.count_cons] at hrest ⊢
              omega

theorem Answered.cell (h : Answered later id o slots cells) (slot : slots[index]? = some r) :
    ∃ answer, cells[index]? = some (r.read, answer) ∧ r.outcome.isSome = answer.isSome := by
  have hcell := congrArg (·[index]?) h.slots
  simp only [List.getElem?_map, slot, Option.map_some] at hcell
  obtain ⟨⟨r', answer⟩, hc, hboth⟩ := Option.map_eq_some_iff.1 hcell.symm
  obtain ⟨rfl, hsome⟩ := Prod.mk.inj hboth
  exact ⟨answer, hc, hsome.symm⟩

/-- One more read has got its answer. -/
theorem Answered.ends (h : Answered later id o slots cells) (slot : slots[index]? = some r)
    (unread : r.outcome = none) (ended : u.readEnd? id = some (index, r.read, answer))
    (result : Except Error Layer) :
    Answered (u :: later) id o (slots.set index { r with outcome := some result })
      (cells.set index (r.read, some answer)) := by
  obtain ⟨before, hcell, hsome⟩ := h.cell slot
  obtain rfl : before = none := by
    cases before with
    | none => rfl
    | some b => simp [unread] at hsome
  refine ⟨?_, fun k r' answer' hk => ?_, fun x => ?_⟩
  · rw [List.map_set, List.map_set, h.slots]
    rfl
  · by_cases hindex : index = k
    · subst hindex
      obtain ⟨hlt, -⟩ := List.getElem?_eq_some_iff.1 hcell
      rw [List.getElem?_set_self hlt] at hk
      obtain ⟨rfl, hanswer⟩ := Prod.mk.inj (Option.some.inj hk)
      obtain rfl := Option.some.inj hanswer
      exact ⟨u, List.mem_cons_self, ended⟩
    · rw [List.getElem?_set_ne hindex] at hk
      obtain ⟨v, hv, hended⟩ := h.ended k r' answer' hk
      exact ⟨v, List.mem_cons_of_mem u hv, hended⟩
  · have hfate : u.fate? id o = some (r.read.descriptor.record (r.read.layer o answer).2) := by
      simp [Moment.fate?, ended]
    have hcons : readFates (u :: later) id o =
        r.read.descriptor.record (r.read.layer o answer).2 :: readFates later id o :=
      List.filterMap_cons_some hfate
    rw [hcons, count_filterMap_set hcell rfl rfl, List.count_cons, List.count_cons, h.count]

/-- The records of reads that have all got their answers. -/
theorem records_of_cells (all : ∀ c ∈ cells, c.2.isSome = true) :
    ∃ answers : List ReadAnswer, cells.map Prod.snd = answers.map some ∧
      cells.filterMap (cellRecord? o) = Build.readRecords o (cells.map Prod.fst) answers := by
  induction cells with
  | nil => exact ⟨[], rfl, rfl⟩
  | cons c rest ih =>
      obtain ⟨hc, hrest⟩ := List.forall_mem_cons.1 all
      obtain ⟨answer, hanswer⟩ := Option.isSome_iff_exists.1 hc
      obtain ⟨answers, hsnd, hrecords⟩ := ih hrest
      have hrecord : cellRecord? o c = some (c.1.descriptor.record (c.1.layer o answer).2) := by
        simp [cellRecord?, hanswer]
      refine ⟨answer :: answers, by rw [List.map_cons, List.map_cons, hanswer, hsnd], ?_⟩
      rw [List.filterMap_cons_some hrecord, hrecords]
      rfl

theorem Answered.map_fst (h : Answered later id o slots cells) :
    cells.map Prod.fst = slots.map ReadSlot.read := by
  have hfst := congrArg (List.map Prod.fst) h.slots
  simpa [Function.comp_def] using hfst.symm

/-- When all reads have ended, their records are those of their answers. -/
theorem Answered.complete (h : Answered later id o slots cells)
    (all : ∀ r ∈ slots, r.outcome.isSome = true) :
    ∃ answers : List ReadAnswer, answers.length = slots.length ∧
      (∀ (index : Nat) r answer, (slots.map ReadSlot.read)[index]? = some r →
        answers[index]? = some answer → ∃ u ∈ later, u.readEnd? id = some (index, r, answer)) ∧
      ∀ x, (readFates later id o).count x =
        (Build.readRecords o (slots.map ReadSlot.read) answers).count x := by
  have some_of_mem : ∀ c ∈ cells, c.2.isSome = true := by
    intro c hc
    have hmem : (c.1, c.2.isSome) ∈ slots.map fun r => (r.read, r.outcome.isSome) := by
      rw [h.slots]
      exact List.mem_map_of_mem (f := fun c => (c.1, c.2.isSome)) hc
    obtain ⟨r, hr, heq⟩ := List.mem_map.1 hmem
    exact (Prod.mk.inj heq).2.symm.trans (all r hr)
  obtain ⟨answers, hsnd, hrecords⟩ := records_of_cells (o := o) some_of_mem
  have hlength : answers.length = slots.length := by
    have hcells := congrArg List.length hsnd
    have hslots := congrArg List.length h.slots
    simp only [List.length_map] at hcells hslots
    omega
  refine ⟨answers, hlength, fun index r answer hr hanswer => h.ended index r answer ?_,
    fun x => by rw [h.count, hrecords, h.map_fst]⟩
  rw [← h.map_fst, List.getElem?_map, Option.map_eq_some_iff] at hr
  obtain ⟨c, hc, rfl⟩ := hr
  have hboth := congrArg (·[index]?) hsnd
  simp only [List.getElem?_map, hc, hanswer, Option.map_some, Option.some.injEq] at hboth
  rw [hc, ← hboth]

/-! ## A build from its plan on -/

/-- Where a build stands that has planned its reads at `m`, and which of them have ended. -/
inductive Standing (m : Moment) (id : CallId) (o : BuildOptions) (ds : List Descriptor)
    (later : List Moment) (s : Agent) : Prop
  | obtaining {goal : Goal} (clear : ds.findSome? (m.before.registry.obstacle? o) = none)
      (unread : readFates later id o = [])
      (work : s.work? id = some (goal, .obtaining o (m.planned ds) none))
  | reading {goal : Goal} {t : Token} {slots : List ReadSlot}
      {cells : List (PlannedRead × Option ReadAnswer)}
      (clear : ds.findSome? (m.before.registry.obstacle? o) = none)
      (reads : slots.map ReadSlot.read = m.planned ds) (answered : Answered later id o slots cells)
      (work : s.work? id = some (goal, .reading o t slots))
  | rests (rests : s.Rests id)

/-- A build that has planned its reads at `m` has a standing, and has counted the reads that have
ended. -/
structure Tally (m : Moment) (id : CallId) (o : BuildOptions) (ds : List Descriptor)
    (later : List Moment) (s : Agent) : Prop where
  given : id < s.nextId
  counts : ∀ x : Metrics.Record, x.isCounted = true →
    gainOf later id x = (readFates later id o).count x
  standing : Standing m id o ds later s

theorem Standing.next (h : Standing m id o ds later s) (silent : u.readEnd? id = none)
    (same : s'.work? id = s.work? id) (given : s.nextId ≤ s'.nextId) :
    Standing m id o ds (u :: later) s' := by
  cases h with
  | obtaining clear unread work =>
      exact .obtaining clear ((readFates_cons_of_silent silent later o).trans unread)
        (same.trans work)
  | reading clear reads answered work =>
      exact .reading clear reads (answered.next silent) (same.trans work)
  | rests rests => exact .rests (rests.of_work? same given)

theorem Tally.not_early (h : Tally m id o ds later s) : ¬ s.Early id := by
  cases h.standing with
  | obtaining clear unread work => exact not_early_of_work? h.given work rfl
  | reading clear reads answered work => exact not_early_of_work? h.given work rfl
  | rests rests => exact rests.not_early

/-- A build that waits for a token sends its reads. -/
theorem Standing.sends {goal : Goal} {o' : BuildOptions} {t : Token}
    (h : Standing m id o ds later s) (silent : u.readEnd? id = none)
    (before : s.work? id = some (goal, .obtaining o' (slots.map ReadSlot.read) none))
    (after : s'.work? id = some (goal, .reading o' t slots))
    (unread : ∀ r ∈ slots, r.outcome = none) : Standing m id o ds (u :: later) s' := by
  cases h with
  | obtaining clear none work =>
      obtain ⟨rfl, hstage⟩ := work?_unique work before
      obtain ⟨rfl, hreads, -⟩ := Stage.obtaining.inj hstage
      have hnone := (readFates_cons_of_silent silent later o).trans none
      exact .reading clear hreads.symm (answered_unread unread hnone) after
  | reading clear reads answered work =>
      exact nomatch (work?_unique work before).2
  | rests rests => exact nomatch (rests.apart _ _ before).1

/-- A read of a build ends. -/
theorem Standing.ends {goal : Goal} {o' : BuildOptions} {t : Token} {result : Except Error Layer}
    (h : Standing m id o ds later s) (ended : u.readEnd? id = some (index, r.read, answer))
    (before : s.work? id = some (goal, .reading o' t slots))
    (after : s'.work? id =
      some (goal, .reading o' t (slots.set index { r with outcome := some result })))
    (slot : slots[index]? = some r) (unread : r.outcome = none) :
    o' = o ∧ Standing m id o ds (u :: later) s' := by
  cases h with
  | obtaining clear none work =>
      exact nomatch (work?_unique work before).2
  | reading clear reads answered work =>
      obtain ⟨rfl, hstage⟩ := work?_unique work before
      obtain ⟨rfl, rfl, rfl⟩ := Stage.reading.inj hstage
      refine ⟨rfl, .reading clear ?_ (answered.ends slot unread ended result) after⟩
      rw [map_read_set slot, reads]
  | rests rests => exact nomatch (rests.apart _ _ before).1

/-- A build goes on, or others do. -/
theorem Tally.act (h : Tally m id o ds later s) (traced : Traced start trace none s)
    (step : s.act a = some s') : Tally m id o ds (⟨s, a, s'⟩ :: later) s' := by
  have hnextId := (advances_of_act step).nextId
  have given : id < s'.nextId := Nat.lt_of_lt_of_le h.given hnextId
  by_cases own : a.IsOf id s
  · -- its own act counts what it records, and that is how a read has ended, or nothing
    have counts (records : List Metrics.Record) (hrecords : a.records s = records)
        (hfates : readFates (⟨s, a, s'⟩ :: later) id o = records ++ readFates later id o) :
        ∀ x : Metrics.Record, x.isCounted = true → gainOf (⟨s, a, s'⟩ :: later) id x =
          (readFates (⟨s, a, s'⟩ :: later) id o).count x := by
      intro x counted
      rw [gainOf_cons_of_isOf own, gain_of_act counted step, h.counts x counted, hfates, hrecords,
        List.count_append]
    generalize hrecords : a.records s = records at counts
    cases hrecords ▸ own.buildStep traced step with
    | early silent early => exact absurd early h.not_early
    | plans plans => exact absurd plans.early h.not_early
    | sends silent before after unread =>
        exact ⟨given, counts _ rfl (readFates_cons_of_silent silent later o),
          h.standing.sends silent before after unread⟩
    | ends ended before after slot unread =>
        obtain ⟨rfl, standing⟩ := h.standing.ends ended before after slot unread
        refine ⟨given, counts _ rfl ?_, standing⟩
        exact List.filterMap_cons_some (by simp [Moment.fate?, ended])
    | rests silent rests =>
        exact ⟨given, counts _ rfl (readFates_cons_of_silent silent later o), .rests rests⟩
  · have silent : Moment.readEnd? ⟨s, a, s'⟩ id = none := readEnd?_of_not_isOf own
    refine ⟨given, fun x counted => ?_,
      h.standing.next silent (traced.work?_of_not_isOf own step) hnextId⟩
    rw [gainOf_cons_of_not_isOf own, readFates_cons_of_silent silent, h.counts x counted]

/-- A task that rests goes on to do so, and has no read that ends. -/
theorem Run.rests (run : Run start (later ++ m :: past) s) (fresh : start.IsFresh)
    (rests : m.after.Rests id) : s.Rests id ∧ readFates later id o = [] := by
  induction later generalizing s with
  | nil =>
      cases run with
      | next run step => exact ⟨rests, rfl⟩
  | cons u rest ih =>
      cases run with
      | @next _ before _ a run step =>
          obtain ⟨trace, traced⟩ := run.traced fresh
          obtain ⟨still, unread⟩ := ih run
          have silent : Moment.readEnd? ⟨before, a, s⟩ id = none := by
            unfold Moment.readEnd?
            split
            · rename_i caller index goal o t slots act ht
              exact nomatch (still.apart _ _ (work?_of_task? ht)).1
            · rfl
          refine ⟨?_, (readFates_cons_of_silent silent rest o).trans unread⟩
          by_cases own : a.IsOf id before
          · generalize hrecords : a.records before = records
            cases hrecords ▸ own.buildStep traced step with
            | early silent early => exact absurd early still.not_early
            | plans plans => exact absurd plans.early still.not_early
            | sends silent before | ends ended before =>
                exact nomatch (still.apart _ _ before).1
            | rests silent rests => exact rests
          · exact still.of_work? (traced.work?_of_not_isOf own step)
              (advances_of_act step).nextId

/-- A run up to one of its moments. -/
theorem Run.upTo (run : Run start (later ++ m :: past) s) :
    Run start past m.before ∧ m.before.act m.act = some m.after := by
  induction later generalizing s with
  | nil =>
      cases run with
      | next run step => exact ⟨run, step⟩
  | cons u rest ih =>
      cases run with
      | next run step => exact ih run

end Agent

end SecretConfig
