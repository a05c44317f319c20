import Mathlib.Algebra.Group.Int.Defs
import Mathlib.Algebra.Group.Nat.Defs
import SecretConfig.Proofs.Aggregation.Outcomes
import SecretConfig.Settings.Backends

set_option autoImplicit false

/-! # Which context wins

In merged layers the last layer with a key has its value (`Layer.get?_merge`). The contexts of a
key-value store are read into layers whose orders rise with the place of the context, until they
stay at the greatest order there is (`KeyValue.raise_le_raise`). From there on all layers have one
order, and stand as they were declared; so the last context with a key wins, whatever the first
order is (`KeyValue.get?_merge`). -/

namespace SecretConfig

/-! ## Look-ups in merged layers -/

/-- What is written over a dictionary is found there, and all else as before. -/
theorem Dict.get?_union {α : Type} (d other : Dict α) (key : String) :
    (d.union other).get? key = (other.get? key).or (d.get? key) := by
  obtain ⟨entries, ascending⟩ := other
  induction entries generalizing d with
  | nil => rfl
  | cons e rest ih =>
      obtain ⟨k, v⟩ := e
      obtain ⟨hhead, hrest⟩ := List.pairwise_cons.1 ascending
      have hstep := ih (d.insert k v) hrest
      rw [Dict.get?_insert] at hstep
      refine hstep.trans ?_
      by_cases hk : key = k
      · subst hk
        -- the key stands once in the dictionary
        have hnone : Entries.get? key rest = none := Entries.get?_eq_none hhead
        simp [Dict.get?, Entries.get?, hnone]
      · simp [Dict.get?, Entries.get?, hk, Ne.symm hk]

namespace Layer

variable {ls : List Layer} {key : String}

theorem get?_foldl_union (acc : Properties) :
    (ls.foldl (fun acc l => acc.union l.properties) acc).get? key =
      (ls.filterMap fun l => l.properties.get? key).getLast?.or (acc.get? key) := by
  induction ls generalizing acc with
  | nil => rfl
  | cons l rest ih =>
      rw [List.foldl_cons, ih, Dict.get?_union]
      cases hl : l.properties.get? key with
      | none => simp only [List.filterMap_cons, hl, Option.none_or]
      | some v =>
          simp only [List.filterMap_cons, hl, List.getLast?_cons]
          cases (rest.filterMap fun l => l.properties.get? key).getLast? <;> rfl

theorem sorted_of_ascending (ascending : ls.Pairwise fun a b => a.order ≤ b.order) :
    sorted ls = ls := by
  refine List.mergeSort_of_pairwise (ascending.imp ?_)
  intro a b h
  exact decide_eq_true (Int32.le_iff_toInt_le.1 h)

/-- **The last layer with a key has its value.** -/
theorem get?_merge (ascending : ls.Pairwise fun a b => a.order ≤ b.order) (key : String) :
    (merge ls).get? key = (ls.filterMap fun l => l.properties.get? key).getLast? := by
  rw [merge, sorted_of_ascending ascending, get?_foldl_union, Dict.get?_empty, Option.or_none]

end Layer

/-! ## Reads that find something or nothing -/

namespace PlannedRead

variable {o : BuildOptions} {r : PlannedRead} {answer : ReadAnswer} {layer : Layer} {e : Error}
  {content : String → Option Payload}

/-- The answer to the read is what stands at its path. -/
inductive Finds (content : String → Option Payload) (r : PlannedRead) : ReadAnswer → Prop
  | found : Finds content r (.ok (content r.plan.path))
  | notFound (path : String) (none : content r.plan.path = none) :
      Finds content r (.error (.notFound path))

theorem Finds.content_eq {found : Option Payload} (finds : r.Finds content (.ok found)) :
    content r.plan.path = found := by
  generalize hanswer : (.ok found : ReadAnswer) = answer at finds
  cases finds with
  | found => exact (Except.ok.inj hanswer).symm
  | notFound path none => exact nomatch hanswer

instance (content : String → Option Payload) (r : PlannedRead) (answer : ReadAnswer) :
    Decidable (r.Finds content answer) :=
  match answer with
  | .ok found => decidable_of_iff (content r.plan.path = found)
      ⟨fun h => h ▸ .found, Finds.content_eq⟩
  | .error (.notFound path) => decidable_of_iff (content r.plan.path = none)
      ⟨.notFound path, fun h => by cases h; assumption⟩
  | .error (.unauthorized _) | .error (.unavailable _) | .error (.timeout _ _)
  | .error (.invalidResponse _) | .error (.invalidRequest _) => isFalse nofun

/-- The properties of the secret at the path of the read, if there is one. -/
def secretOf? (content : String → Option Payload) (r : PlannedRead) : Option Properties :=
  ((content r.plan.path).bind fun p => p.unwrap? r.plan.layout).map fun secret =>
    Properties.flatten secret.data

theorem Yields.order_eq (h : r.Yields o answer layer) : layer.order = r.plan.order := by
  cases h <;> rfl

/-- The layer of the read has the properties of the secret, or none. -/
theorem Finds.properties_eq (finds : r.Finds content answer) (names : r.plan.names = none)
    (yields : r.Yields o answer layer) :
    layer.properties = (r.secretOf? content).getD Dict.empty := by
  cases yields with
  | @secret p data holds =>
      have hsecret : p.unwrap? r.plan.layout = some ⟨data, p.lease⟩ :=
        Payload.unwrap?_eq_some_iff.2 ⟨holds, rfl⟩
      simp [secretOf?, finds.content_eq, hsecret, names]
  | missing lacks optional =>
      cases lacks with
      | nothing => simp [secretOf?, finds.content_eq, Layer.vacant]
      | shapeless none => simp [secretOf?, finds.content_eq, unwrap?_eq_none none, Layer.vacant]
      | notFound path =>
          cases finds with
          | notFound path none => simp [secretOf?, none, Layer.vacant]
  | forbidden message optional => exact nomatch finds

end PlannedRead

/-! ## The contexts of a key-value store -/

namespace Settings.KeyValue

variable {c : KeyValue} {registry : Registry} {o : BuildOptions}

/-- An order is raised by the place, and stays at the greatest. -/
theorem toInt_raise (order : Int32) {index : Nat} (bound : index < 2 ^ 31) :
    (raise order index).toInt = min (2 ^ 31 - 1) (order.toInt + index) := by
  have hindex : (Int32.ofInt index).toInt = index :=
    Int32.toInt_ofInt_of_le (by omega) (by omega)
  have hlow := order.le_toInt
  have hmin : Int32.minValue.toInt = -2 ^ 31 := by decide
  have hmax : Int32.maxValue.toInt = 2 ^ 31 - 1 := by decide
  simp only [raise, hindex, hmin, hmax]
  rw [Int32.toInt_ofInt_of_le (by omega) (by omega)]
  omega

/-- Later places have orders that are at least as high. -/
theorem raise_le_raise (order : Int32) {i j : Nat} (le : i ≤ j) (bound : j < 2 ^ 31) :
    raise order i ≤ raise order j := by
  rw [Int32.le_iff_toInt_le, toInt_raise order bound,
    toInt_raise order (Nat.lt_of_le_of_lt le bound)]
  omega

/-- The read of a context, apart from its order. -/
def plan? (c : KeyValue) (context : String) : Option ReadPlan :=
  match Resolver.keyValue (c.descriptor 0 context) with
  | .ok p => some p
  | .error _ => none

/-- The properties of the secret of a context, if the context resolves and has one. -/
def secret? (c : KeyValue) (content : String → Option Payload) (context : String) :
    Option Properties :=
  (c.plan? context).bind fun p => ((content p.path).bind fun found => found.unwrap? p.layout).map
    fun secret => Properties.flatten secret.data

/-- Only the order depends on the place of a context. -/
theorem resolve_descriptor (c : KeyValue) (index : Nat) (context : String) :
    Resolver.keyValue (c.descriptor index context) =
      (Resolver.keyValue (c.descriptor 0 context)).map fun p =>
        { p with order := raise c.order index } := by
  have hmount : (c.descriptor index context).require "mount" (c.descriptor index context).mount =
      (c.descriptor 0 context).require "mount" (c.descriptor 0 context).mount := rfl
  have hcontext : (c.descriptor index context).require "context" (some context) =
      (c.descriptor 0 context).require "context" (some context) := rfl
  have hsettings (place : Nat) :
      (c.descriptor place context).settings = .keyValue (some context) c.version := rfl
  simp only [Resolver.keyValue, hsettings, hmount, hcontext]
  cases (c.descriptor 0 context).require "mount" (c.descriptor 0 context).mount with
  | error e => rfl
  | ok mount =>
      cases (c.descriptor 0 context).require "context" (some context) with
      | error e => rfl
      | ok path => cases c.version <;> rfl

theorem read?_descriptor (resolver : registry.resolver? .keyValue = some Resolver.keyValue)
    (c : KeyValue) (index : Nat) (context : String) :
    registry.read? (c.descriptor index context) = (c.plan? context).map fun p =>
      ⟨c.descriptor index context, { p with order := raise c.order index }⟩ := by
  have hresolve : registry.resolve (c.descriptor index context) =
      Resolver.keyValue (c.descriptor index context) := by
    have hkind : (c.descriptor index context).kind = .keyValue := rfl
    simp only [Registry.resolve, hkind, resolver]
  have henabled : (c.descriptor index context).enabled = true := rfl
  simp only [Registry.read?, henabled, if_true, hresolve, resolve_descriptor c index, plan?]
  cases Resolver.keyValue (c.descriptor 0 context) <;> rfl

/-- The properties of a key-value store keep their names. -/
theorem names_of_keyValue {d : Descriptor} {p : ReadPlan} (h : Resolver.keyValue d = .ok p) :
    p.names = none := by
  unfold Resolver.keyValue at h
  split at h
  · rename_i context version hsettings
    cases hmount : d.require "mount" d.mount with
    | error e =>
        rw [hmount] at h
        exact nomatch h
    | ok mount =>
        cases hcontext : d.require "context" context with
        | error e =>
            rw [hmount, hcontext] at h
            exact nomatch h
        | ok path =>
            rw [hmount, hcontext] at h
            cases version with
            | v1 | v2 =>
                obtain rfl := Except.ok.inj h
                rfl
  · exact nomatch h

theorem names_of_plan? {context : String} {p : ReadPlan} (plan : c.plan? context = some p) :
    p.names = none := by
  unfold plan? at plan
  split at plan
  · rename_i resolved hresolved
    obtain rfl := Option.some.inj plan
    exact names_of_keyValue hresolved
  · exact nomatch plan

/-- The reads of contexts. -/
def reads (c : KeyValue) (registry : Registry) (contexts : List String) : List PlannedRead :=
  (contexts.mapIdx c.descriptor).filterMap registry.read?

/-- Where the place does not matter, it can be left out. -/
theorem filterMap_mapIdx {α β γ : Type} {f : Nat → α → β} {g : β → Option γ} {h : α → Option γ}
    (same : ∀ index a, g (f index a) = h a) (l : List α) :
    (l.mapIdx f).filterMap g = l.filterMap h := by
  induction l generalizing f with
  | nil => rfl
  | cons a rest ih =>
      rw [List.mapIdx_cons, List.filterMap_cons, List.filterMap_cons, same,
        ih fun index a => same (index + 1) a]

section Reads

variable (resolver : registry.resolver? .keyValue = some Resolver.keyValue)
  {contexts : List String}

include resolver

theorem mem_reads {r : PlannedRead} (h : r ∈ c.reads registry contexts) :
    r.descriptor.failFast = c.failFast ∧ r.plan.names = none := by
  obtain ⟨d, hd, hread⟩ := List.mem_filterMap.1 h
  obtain ⟨index, hlt, rfl⟩ := List.mem_mapIdx.1 hd
  rw [read?_descriptor resolver] at hread
  obtain ⟨p, hplan, rfl⟩ := Option.map_eq_some_iff.1 hread
  have hnames : p.names = none := names_of_plan? hplan
  exact ⟨rfl, hnames⟩

theorem reads_ascending (few : contexts.length < 2 ^ 31) :
    (c.reads registry contexts).Pairwise fun a b => a.plan.order ≤ b.plan.order := by
  refine List.pairwise_filterMap.2 (List.pairwise_iff_getElem.2 ?_)
  intro i j hi hj hlt a ha b hb
  rw [List.getElem_mapIdx, read?_descriptor resolver] at ha hb
  obtain ⟨p, -, rfl⟩ := Option.map_eq_some_iff.1 ha
  obtain ⟨p', -, rfl⟩ := Option.map_eq_some_iff.1 hb
  have bound : j < 2 ^ 31 := Nat.lt_trans (by simpa using hj) few
  exact raise_le_raise c.order (Nat.le_of_lt hlt) bound

/-- What the reads find for a key is what the contexts have for it. -/
theorem filterMap_reads (content : String → Option Payload) (contexts : List String)
    (key : String) :
    (c.reads registry contexts).filterMap (fun r => (r.secretOf? content).bind (·.get? key)) =
      contexts.filterMap fun context => (c.secret? content context).bind (·.get? key) := by
  have hread (index : Nat) (context : String) :
      ((registry.read? (c.descriptor index context)).bind fun r =>
        (r.secretOf? content).bind (·.get? key)) =
          (c.secret? content context).bind (·.get? key) := by
    rw [read?_descriptor resolver, secret?]
    cases c.plan? context <;> rfl
  rw [reads, List.filterMap_filterMap]
  exact filterMap_mapIdx hread contexts

end Reads

/-- **The last context with a key wins.** -/
theorem get?_merge (resolver : registry.resolver? .keyValue = some Resolver.keyValue)
    {contexts : List String} (few : contexts.length < 2 ^ 31) {content : String → Option Payload}
    {answers : List ReadAnswer} {made : List Layer}
    (complete : answers.length = (c.reads registry contexts).length)
    (finds : ∀ (index : Nat) r answer, (c.reads registry contexts)[index]? = some r →
      answers[index]? = some answer → r.Finds content answer)
    (makes : Build.Makes o (c.reads registry contexts) answers made) (key : String) :
    (Layer.merge (Layer.sorted made)).get? key =
      (contexts.filterMap fun context =>
        (c.secret? content context).bind (·.get? key)).getLast? := by
  have yields (index : Nat) (r : PlannedRead) (layer : Layer)
      (hr : (c.reads registry contexts)[index]? = some r) (hlayer : made[index]? = some layer) :
      layer.order = r.plan.order ∧
        layer.properties.get? key = (r.secretOf? content).bind (·.get? key) := by
    obtain ⟨hlt, -⟩ := List.getElem?_eq_some_iff.1 hr
    have hanswer : answers[index]? = some answers[index] :=
      List.getElem?_eq_getElem (complete ▸ hlt)
    have yielded := makes.yields index r _ layer hr hanswer hlayer
    have hfinds := finds index r _ hr hanswer
    refine ⟨yielded.order_eq, ?_⟩
    rw [hfinds.properties_eq (mem_reads resolver (List.mem_of_getElem? hr)).2 yielded]
    cases r.secretOf? content <;> rfl
  -- layers with their orders as the contexts stand: sorting changes nothing
  have ascending : made.Pairwise fun a b => a.order ≤ b.order := by
    refine List.pairwise_iff_getElem.2 fun i j hi hj hlt => ?_
    have hi' : i < (c.reads registry contexts).length := makes.length ▸ hi
    have hj' : j < (c.reads registry contexts).length := makes.length ▸ hj
    rw [(yields i _ _ (List.getElem?_eq_getElem hi') (List.getElem?_eq_getElem hi)).1,
      (yields j _ _ (List.getElem?_eq_getElem hj') (List.getElem?_eq_getElem hj)).1]
    exact List.pairwise_iff_getElem.1 (reads_ascending resolver few) i j hi' hj' hlt
  have values : made.filterMap (fun l => l.properties.get? key) =
      (c.reads registry contexts).filterMap fun r =>
        (r.secretOf? content).bind (·.get? key) := by
    have hmap : made.map (fun l => l.properties.get? key) =
        (c.reads registry contexts).map fun r => (r.secretOf? content).bind (·.get? key) := by
      refine List.ext_getElem (by simpa using makes.length) fun index h h' => ?_
      simp only [List.length_map] at h h'
      simp only [List.getElem_map]
      exact (yields index _ _ (List.getElem?_eq_getElem h') (List.getElem?_eq_getElem h)).2
    have hvalues := congrArg (List.filterMap id) hmap
    simpa only [List.filterMap_map, Function.id_comp] using hvalues
  rw [Layer.sorted_of_ascending ascending, Layer.get?_merge ascending, values,
    filterMap_reads resolver]

end Settings.KeyValue

end SecretConfig
