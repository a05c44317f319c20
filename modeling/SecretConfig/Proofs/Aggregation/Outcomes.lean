import SecretConfig.Proofs.Aggregation.Build

set_option autoImplicit false

/-! # What becomes of a build

A build can fail twice: when its reads are planned, and when their layers are collected.

* A plan fails with the error of the first descriptor that is an obstacle: it is enabled, has to be
  there and does not resolve (`Build.plan_eq`).
* The answer to a read makes a layer or an error. `PlannedRead.Yields` and `PlannedRead.Fails` say
  which, answer by answer, and one of the two holds of each answer (`PlannedRead.layer_eq_ok_iff`,
  `PlannedRead.layer_eq_error_iff`).
* Collecting ends with the first error in the order of declaration (`Build.collect_eq_error_iff`),
  or with all layers in an order that is ascending and stable (`Layer.isSorting_sorted`).

`Build.collect_cases` puts the last two together: what comes of a build is said by the answers to
its reads (`Build.Breaks`, `Build.Makes`). -/

namespace SecretConfig

/-! ## Plans -/

/-- The error of a descriptor that is enabled and has to be there, but does not resolve. -/
def Registry.obstacle? (registry : Registry) (o : BuildOptions) (d : Descriptor) : Option Error :=
  if d.enabled && d.isRequired o then
    match registry.resolve d with
    | .ok _ => none
    | .error e => some e
  else none

/-- A plan ends with the error of the first obstacle, or has the reads of all descriptors. -/
theorem Build.plan_eq (registry : Registry) (o : BuildOptions) (ds : List Descriptor) :
    (plan registry o ds).1 =
      match ds.findSome? (registry.obstacle? o) with
      | some e => .error e
      | none => .ok (ds.filterMap registry.read?) := by
  induction ds with
  | nil => rfl
  | cons d rest ih =>
      cases henabled : d.enabled with
      | false =>
          have hread : registry.read? d = none := by simp [Registry.read?, henabled]
          have hfree : registry.obstacle? o d = none := by simp [Registry.obstacle?, henabled]
          rw [List.findSome?_cons_of_isNone (by simp [hfree]), List.filterMap_cons_none hread]
          simpa only [plan, henabled, Bool.false_eq_true, if_false] using ih
      | true =>
          cases hresolve : registry.resolve d with
          | ok p =>
              have hread : registry.read? d = some ⟨d, p⟩ := by
                simp [Registry.read?, henabled, hresolve]
              have hfree : registry.obstacle? o d = none := by
                simp [Registry.obstacle?, henabled, hresolve]
              rw [List.findSome?_cons_of_isNone (by simp [hfree]),
                List.filterMap_cons_some hread]
              simp only [plan, henabled, if_true, hresolve, ih]
              cases rest.findSome? (registry.obstacle? o) <;> rfl
          | error e =>
              have hread : registry.read? d = none := by
                simp [Registry.read?, henabled, hresolve]
              cases hrequired : d.isRequired o with
              | true =>
                  have hblocks : registry.obstacle? o d = some e := by
                    simp [Registry.obstacle?, henabled, hrequired, hresolve]
                  simp [plan, henabled, hresolve, hrequired, hblocks]
              | false =>
                  have hfree : registry.obstacle? o d = none := by
                    simp [Registry.obstacle?, henabled, hrequired]
                  rw [List.findSome?_cons_of_isNone (by simp [hfree]),
                    List.filterMap_cons_none hread]
                  simpa [plan, henabled, hresolve, hrequired] using ih

/-! ## Answers -/

/-- Where the secret stands in a payload: it is the payload, or the object under `data`. -/
inductive PayloadLayout.Holds (p : Payload) : PayloadLayout → Dict Json → Prop
  | flat : Holds p .flat p.data
  | versioned {fields : List (String × Json)} (data : p.data.get? "data" = some (.obj fields)) :
      Holds p .versioned (Dict.ofList fields)

theorem Payload.unwrap?_eq_some_iff {p secret : Payload} {layout : PayloadLayout} :
    p.unwrap? layout = some secret ↔ layout.Holds p secret.data ∧ secret.lease = p.lease := by
  obtain ⟨data, lease⟩ := secret
  cases layout with
  | flat =>
      constructor
      · intro h
        obtain rfl := Option.some.inj h
        exact ⟨.flat, rfl⟩
      · rintro ⟨⟨⟩, rfl⟩
        rfl
  | versioned =>
      constructor
      · intro h
        simp only [unwrap?] at h
        split at h
        · rename_i fields hdata
          obtain ⟨rfl, rfl⟩ := Payload.mk.inj (Option.some.inj h)
          exact ⟨.versioned hdata, rfl⟩
        · exact nomatch h
      · rintro ⟨holds, rfl⟩
        cases holds with
        | versioned hdata =>
            simp only [unwrap?, hdata]
            rfl

namespace PlannedRead

variable {o : BuildOptions} {r : PlannedRead} {answer : ReadAnswer} {layer : Layer} {e : Error}
  {p : Payload}

/-- There is no secret for the read: nothing stands at its path, or nothing of the layout. -/
inductive Lacks (r : PlannedRead) : ReadAnswer → Prop
  | nothing : Lacks r (.ok none)
  | notFound (path : String) : Lacks r (.error (.notFound path))
  | shapeless {p : Payload} (none : ∀ data, ¬ r.plan.layout.Holds p data) : Lacks r (.ok (some p))

/-- The layer that the read makes of an answer. -/
inductive Yields (o : BuildOptions) (r : PlannedRead) : ReadAnswer → Layer → Prop
  /-- The properties of the secret, flattened and renamed, with the lease of the payload. -/
  | secret {p : Payload} {data : Dict Json} (holds : r.plan.layout.Holds p data) :
      Yields o r (.ok (some p))
        { source := r.plan.source
          order := r.plan.order
          properties := r.plan.names.elim (Properties.flatten data) fun names =>
            names.apply (Properties.flatten data)
          lease := p.lease }
  | missing {answer : ReadAnswer} (lacks : r.Lacks answer)
      (optional : r.descriptor.isRequired o = false) :
      Yields o r answer (.vacant r.plan.source r.plan.order)
  | forbidden (message : String) (optional : r.descriptor.isRequired o = false) :
      Yields o r (.error (.unauthorized message)) (.vacant r.plan.source r.plan.order)

/-- The error that the read makes of an answer. -/
inductive Fails (o : BuildOptions) (r : PlannedRead) : ReadAnswer → Error → Prop
  | missing {answer : ReadAnswer} (lacks : r.Lacks answer)
      (required : r.descriptor.isRequired o = true) :
      Fails o r answer (.missingSecret r.descriptor.name r.plan.path)
  | forbidden (message : String) (required : r.descriptor.isRequired o = true) :
      Fails o r (.error (.unauthorized message)) (.store (.unauthorized message))
  | transient {fault : StoreFault} (transient : fault.isTransient = true) :
      Fails o r (.error fault) (.transient "read" fault)
  | lasting {fault : StoreFault} (lasting : fault.isTransient = false)
      (found : fault.isNotFound = false) (authorized : fault.isUnauthorized = false) :
      Fails o r (.error fault) (.store fault)

theorem unwrap?_eq_none (none : ∀ data, ¬ r.plan.layout.Holds p data) :
    p.unwrap? r.plan.layout = Option.none := by
  cases hsecret : p.unwrap? r.plan.layout with
  | none => rfl
  | some secret => exact absurd (Payload.unwrap?_eq_some_iff.1 hsecret).1 (none _)

theorem Lacks.layer_eq (lacks : r.Lacks answer) :
    (r.layer o answer).1 =
      if r.descriptor.isRequired o then .error (.missingSecret r.descriptor.name r.plan.path)
      else .ok r.vacant := by
  cases lacks with
  | nothing | notFound => rfl
  | shapeless none => simp only [layer, secret, unwrap?_eq_none none]

theorem layer_unauthorized (o : BuildOptions) (r : PlannedRead) (message : String) :
    (r.layer o (.error (.unauthorized message))).1 =
      if r.descriptor.isRequired o then .error (.store (.unauthorized message))
      else .ok r.vacant := rfl

theorem Yields.layer_eq (h : r.Yields o answer layer) : (r.layer o answer).1 = .ok layer := by
  cases h with
  | @secret p data holds =>
      have hsecret : p.unwrap? r.plan.layout = some ⟨data, p.lease⟩ :=
        Payload.unwrap?_eq_some_iff.2 ⟨holds, rfl⟩
      simp only [PlannedRead.layer, PlannedRead.secret, hsecret, contribution]
      cases r.plan.names <;> rfl
  | missing lacks optional => simp [lacks.layer_eq, optional, vacant]
  | forbidden message optional => simp [layer_unauthorized, optional, vacant]

theorem Fails.layer_eq (h : r.Fails o answer e) : (r.layer o answer).1 = .error e := by
  cases h with
  | missing lacks required => simp [lacks.layer_eq, required]
  | forbidden message required => simp [layer_unauthorized, required]
  | @transient fault transient =>
      cases fault with
      | unavailable | timeout => rfl
      | unauthorized | notFound | invalidResponse | invalidRequest => exact nomatch transient
  | @lasting fault lasting found authorized =>
      cases fault with
      | invalidResponse | invalidRequest => rfl
      | unavailable | timeout => exact nomatch lasting
      | notFound => exact nomatch found
      | unauthorized => exact nomatch authorized

theorem outcome_of_lacks (lacks : r.Lacks answer) :
    (∃ layer, r.Yields o answer layer) ∨ ∃ e, r.Fails o answer e := by
  cases hrequired : r.descriptor.isRequired o with
  | true => exact .inr ⟨_, .missing lacks hrequired⟩
  | false => exact .inl ⟨_, .missing lacks hrequired⟩

/-- Every answer makes a layer or an error. -/
theorem outcome_of_answer (o : BuildOptions) (r : PlannedRead) (answer : ReadAnswer) :
    (∃ layer, r.Yields o answer layer) ∨ ∃ e, r.Fails o answer e := by
  cases answer with
  | ok found =>
      cases found with
      | none => exact outcome_of_lacks .nothing
      | some p =>
          by_cases holds : ∃ data, r.plan.layout.Holds p data
          · obtain ⟨data, hdata⟩ := holds
            exact .inl ⟨_, .secret hdata⟩
          · exact outcome_of_lacks (.shapeless fun data hdata => holds ⟨data, hdata⟩)
  | error fault =>
      cases fault with
      | notFound path => exact outcome_of_lacks (.notFound path)
      | unauthorized message =>
          cases hrequired : r.descriptor.isRequired o with
          | true => exact .inr ⟨_, .forbidden message hrequired⟩
          | false => exact .inl ⟨_, .forbidden message hrequired⟩
      | unavailable | timeout => exact .inr ⟨_, .transient rfl⟩
      | invalidResponse | invalidRequest => exact .inr ⟨_, .lasting rfl rfl rfl⟩

theorem layer_eq_ok_iff : (r.layer o answer).1 = .ok layer ↔ r.Yields o answer layer := by
  constructor
  · intro h
    rcases outcome_of_answer o r answer with ⟨made, yields⟩ | ⟨e, fails⟩
    · obtain rfl := Except.ok.inj (yields.layer_eq.symm.trans h)
      exact yields
    · exact nomatch fails.layer_eq.symm.trans h
  · exact Yields.layer_eq

theorem layer_eq_error_iff : (r.layer o answer).1 = .error e ↔ r.Fails o answer e := by
  constructor
  · intro h
    rcases outcome_of_answer o r answer with ⟨made, yields⟩ | ⟨e', fails⟩
    · exact nomatch yields.layer_eq.symm.trans h
    · obtain rfl := Except.error.inj (fails.layer_eq.symm.trans h)
      exact fails
  · exact Fails.layer_eq

end PlannedRead

/-! ## Layers by ascending order -/

/-- The second list has the layers of the first in ascending order; layers of one order stand as
they did. -/
structure Layer.IsSorting (made sorted : List Layer) : Prop where
  perm : sorted.Perm made
  ascending : sorted.Pairwise fun a b => a.order ≤ b.order
  stable : ∀ order, (sorted.filter fun l => l.order = order) = made.filter fun l => l.order = order

namespace Layer

theorem order_trans (a b c : Layer) (h : decide (a.order.toInt ≤ b.order.toInt) = true)
    (h' : decide (b.order.toInt ≤ c.order.toInt) = true) :
    decide (a.order.toInt ≤ c.order.toInt) = true := by
  simp only [decide_eq_true_eq] at h h' ⊢
  exact Int.le_trans h h'

theorem order_total (a b : Layer) :
    (decide (a.order.toInt ≤ b.order.toInt) || decide (b.order.toInt ≤ a.order.toInt)) = true := by
  simp only [Bool.or_eq_true, decide_eq_true_eq]
  exact Int.le_total _ _

@[simp] theorem sorted_nil : sorted [] = [] := List.mergeSort_nil

theorem isSorting_sorted (ls : List Layer) : IsSorting ls (sorted ls) where
  perm := List.mergeSort_perm _ _
  ascending := by
    refine (List.pairwise_mergeSort order_trans order_total ls).imp ?_
    intro a b h
    exact Int32.le_iff_toInt_le.2 (of_decide_eq_true h)
  stable order := by
    -- layers of one order are in ascending order already, so they stay a sublist
    have hsame : (ls.filter fun l => l.order = order).Pairwise
        (fun a b => decide (a.order.toInt ≤ b.order.toInt) = true) := by
      refine List.pairwise_of_forall_mem_list fun a ha b hb => ?_
      have hOrder (x : Layer) (hx : x ∈ ls.filter fun l => l.order = order) : x.order = order := by
        simpa using (List.mem_filter.1 hx).2
      rw [hOrder a ha, hOrder b hb]
      exact decide_eq_true (Int.le_refl _)
    have hsub : (ls.filter fun l => l.order = order).Sublist (sorted ls) :=
      List.sublist_mergeSort order_trans order_total hsame List.filter_sublist
    have hsub' : (ls.filter fun l => l.order = order).Sublist
        ((sorted ls).filter fun l => l.order = order) := by
      have h := hsub.filter fun l => l.order = order
      rwa [List.filter_filter, List.filter_congr fun l _ => Bool.and_self _] at h
    have hlength : (ls.filter fun l => l.order = order).length =
        ((sorted ls).filter fun l => l.order = order).length :=
      ((List.mergeSort_perm ls _).filter _).length_eq.symm
    exact (hsub'.eq_of_length hlength).symm

end Layer

namespace Build

/-- A build fails with its first error. -/
theorem allLayers_eq_error_iff {results : List (Except Error Layer)} {e : Error} :
    allLayers results = .error e ↔
      ∃ (made : List Layer) (after : List (Except Error Layer)),
        results = made.map .ok ++ .error e :: after := by
  induction results with
  | nil =>
      constructor
      · rintro ⟨⟩
      · rintro ⟨made, after, h⟩
        cases made <;> cases h
  | cons result rest ih =>
      cases result with
      | error e' =>
          simp only [allLayers, Except.error.injEq]
          constructor
          · rintro rfl
            exact ⟨[], rest, rfl⟩
          · rintro ⟨made, after, h⟩
            cases made with
            | nil => exact Except.error.inj (List.cons.inj h).1
            | cons head tail => cases (List.cons.inj h).1
      | ok layer =>
          have hmap : allLayers (.ok layer :: rest) = .error e ↔ allLayers rest = .error e := by
            simp only [allLayers]
            cases allLayers rest <;> simp [Except.map]
          rw [hmap, ih]
          constructor
          · rintro ⟨made, after, rfl⟩
            exact ⟨layer :: made, after, rfl⟩
          · rintro ⟨made, after, h⟩
            cases made with
            | nil => cases (List.cons.inj h).1
            | cons head tail => exact ⟨tail, after, (List.cons.inj h).2⟩

theorem collect_eq_error_iff {results : List (Except Error Layer)} {e : Error} :
    collect results = .error e ↔
      ∃ (made : List Layer) (after : List (Except Error Layer)),
        results = made.map .ok ++ .error e :: after := by
  rw [← allLayers_eq_error_iff, collect]
  cases allLayers results <;> simp [Except.map]

/-! ### The answers to all reads -/

variable {o : BuildOptions} {reads : List PlannedRead} {answers : List ReadAnswer}

/-- What the reads make of the answers to them. -/
def results (o : BuildOptions) (reads : List PlannedRead) (answers : List ReadAnswer) :
    List (Except Error Layer) :=
  List.zipWith (fun r answer => (r.layer o answer).1) reads answers

/-- Every read makes a layer of the answer to it. -/
structure Makes (o : BuildOptions) (reads : List PlannedRead) (answers : List ReadAnswer)
    (made : List Layer) : Prop where
  length : made.length = reads.length
  yields : ∀ (index : Nat) r answer layer, reads[index]? = some r → answers[index]? = some answer →
    made[index]? = some layer → r.Yields o answer layer

/-- A read makes an error of the answer to it, and all before it make layers. -/
def Breaks (o : BuildOptions) (reads : List PlannedRead) (answers : List ReadAnswer) (e : Error) :
    Prop :=
  ∃ (index : Nat) (r : PlannedRead) (answer : ReadAnswer), reads[index]? = some r ∧
    answers[index]? = some answer ∧ r.Fails o answer e ∧
      ∀ before < index, ∀ r answer, reads[before]? = some r → answers[before]? = some answer →
        ∃ layer, r.Yields o answer layer

theorem getElem?_results {index : Nat} {r : PlannedRead} {answer : ReadAnswer}
    (hr : reads[index]? = some r) (hanswer : answers[index]? = some answer) :
    (results o reads answers)[index]? = some (r.layer o answer).1 := by
  simp [results, List.getElem?_zipWith, hr, hanswer]

/-- A build that succeeds has made a layer of every read. -/
theorem makes_of_collect {ls : List Layer} (complete : answers.length = reads.length)
    (h : collect (results o reads answers) = .ok ls) :
    ∃ made, Makes o reads answers made ∧ ls = Layer.sorted made := by
  obtain ⟨made, hmade, rfl⟩ := collect_eq_ok_iff.1 h
  refine ⟨made, ⟨?_, ?_⟩, rfl⟩
  · have hlength := congrArg List.length hmade
    simp only [results, List.length_zipWith, List.length_map] at hlength
    omega
  · intro index r answer layer hr hanswer hlayer
    have hresult := getElem?_results (o := o) hr hanswer
    rw [hmade, List.getElem?_map, hlayer] at hresult
    exact PlannedRead.layer_eq_ok_iff.1 (Option.some.inj hresult).symm

/-- A build that fails has the error of the first read that makes one. -/
theorem breaks_of_collect {e : Error} (h : collect (results o reads answers) = .error e) :
    Breaks o reads answers e := by
  obtain ⟨made, after, hresults⟩ := collect_eq_error_iff.1 h
  have hfails : (results o reads answers)[made.length]? = some (.error e) := by
    rw [hresults, List.getElem?_append_right (by simp)]
    simp
  obtain ⟨r, answer, hr, hanswer, herror⟩ :
      ∃ r answer, reads[made.length]? = some r ∧ answers[made.length]? = some answer ∧
        (r.layer o answer).1 = .error e := by
    simpa [results, List.getElem?_zipWith_eq_some] using hfails
  refine ⟨made.length, r, answer, hr, hanswer, PlannedRead.layer_eq_error_iff.1 herror, ?_⟩
  intro before hbefore r' answer' hr' hanswer'
  have hresult := getElem?_results (o := o) hr' hanswer'
  rw [hresults, List.getElem?_append_left (by simpa using hbefore), List.getElem?_map,
    List.getElem?_eq_getElem hbefore] at hresult
  exact ⟨made[before], PlannedRead.layer_eq_ok_iff.1 (Option.some.inj hresult).symm⟩

/-- **The end of a build.** A build that has an answer to each of its reads fails with the error of
the first read that makes one, or returns the layers of all reads by ascending order. -/
theorem collect_cases (complete : answers.length = reads.length) :
    (∃ e, Breaks o reads answers e ∧ collect (results o reads answers) = .error e) ∨
      ∃ made, Makes o reads answers made ∧
        collect (results o reads answers) = .ok (Layer.sorted made) := by
  cases hcollect : collect (results o reads answers) with
  | error e => exact .inl ⟨e, breaks_of_collect hcollect, rfl⟩
  | ok ls =>
      obtain ⟨made, makes, rfl⟩ := makes_of_collect complete hcollect
      exact .inr ⟨made, makes, rfl⟩

end Build

end SecretConfig
