import SecretConfig.Proofs.Tree.Records

set_option autoImplicit false

/-! # What is read of a map

A record with fields that must be there and fields that may be absent or null is read from the
members of a map under its names (`Tree.member?`, `Tree.optional?`). So it is one to the reader
whether an unknown member is there, in which order the members stand and whether a field that may be
absent is left out or null: members that are respelled in one of these ways (`Json.Respells`) agree
on all that is read of them (`Tree.Agree`). -/

namespace SecretConfig

/-- The same members in another spelling, for a record with some names that must be there and some
that may be absent: in another order, without a member that the record does not have, or without one
that is null and may be absent. -/
inductive Json.Respells (required optional : List String) :
    List (String × Json) → List (String × Json) → Prop where
  | reorder {fields fields' : List (String × Json)} (perm : fields.Perm fields') :
    Respells required optional fields fields'
  | unknown {name : String} (v : Json) (fields : List (String × Json))
      (unknown : name ∉ required ++ optional) :
    Respells required optional ((name, v) :: fields) fields
  | omitNull {name : String} {fields : List (String × Json)} (known : name ∈ optional)
      (absent : name ∉ fields.map Prod.fst) :
    Respells required optional ((name, .null) :: fields) fields

namespace Tree

variable {α : Type} {fields fields' : List (String × Tree)} {name : String} {t : Tree}

/-! ## Reading members -/

/-- Read a member that must be there. -/
def member? (name : String) (read : Tree → Option α) (fields : List (String × Tree)) : Option α :=
  (single? name fields).bind (·.bind read)

/-- Read what may be absent or null. -/
def readOptional? (read : Tree → Option α) : Option Tree → Option (Option α)
  | none => some none
  | some t => t.asOption? read

/-- Read a member that may be absent or null. -/
def optional? (name : String) (read : Tree → Option α) (fields : List (String × Tree)) :
    Option (Option α) :=
  (single? name fields).bind (readOptional? read)

/-- A tree that does not stand for nothing. -/
def present? : Tree → Option Tree
  | null => none
  | t => some t

/-- What is given under a name: nothing where the name is absent or null. A repeated name gives no
answer. -/
def given? (name : String) (fields : List (String × Tree)) : Option (Option Tree) :=
  (single? name fields).map (·.bind present?)

/-- Of a member that may be absent or null, only what is given counts. -/
theorem optional?_congr (read : Tree → Option α) (same : given? name fields = given? name fields') :
    optional? name read fields = optional? name read fields' := by
  have hgiven (fields : List (String × Tree)) :
      optional? name read fields = (given? name fields).bind (readOptional? read) := by
    rw [optional?, given?]
    cases single? name fields with
    | none => rfl
    | some v =>
      cases v with
      | none => rfl
      | some t => cases t <;> rfl
  rw [hgiven, hgiven, same]

theorem member?_congr (read : Tree → Option α)
    (same : single? name fields = single? name fields') :
    member? name read fields = member? name read fields' := by
  rw [member?, member?, same]

/-- Where a name stands once, its member is read. -/
theorem member?_middle (before after : List (String × Tree)) (read : Tree → Option α) :
    member? name read (before ++ (name, t) :: after) =
      if name ∈ (before ++ after).map Prod.fst then none else read t := by
  have hmoved : (before ++ (name, t) :: after).Perm ((name, t) :: (before ++ after)) :=
    List.perm_middle
  rw [member?, single?_perm hmoved]
  split
  · rename_i hrepeated
    rw [single?_cons_of_mem t hrepeated, Option.bind_none]
  · rename_i habsent
    rw [single?_cons_of_not_mem t habsent, Option.bind_some, Option.bind_some]

/-! ## Reading records -/

variable {names : List String} {values : List (String × Option Tree)}

/-- The value of a name that is read is the member under it. -/
theorem single?_of_namedFields (named : namedFields fields names = some values)
    (known : name ∈ names) : single? name fields = some (Fields.get? ⟨values, false⟩ name) := by
  induction names generalizing values with
  | nil => exact absurd known List.not_mem_nil
  | cons n ns ih =>
    rw [namedFields] at named
    split at named
    · rename_i v rest hv hrest
      obtain rfl := Option.some.inj named
      by_cases hn : n = name
      · subst hn
        rw [hv, Fields.get?_cons_self]
      · have hlater : name ∈ ns := (List.mem_cons.1 known).resolve_left (Ne.symm hn)
        have hother : ((n, v) : String × Option Tree).1 ≠ name := hn
        rw [Fields.get?_cons_of_ne rest false hother]
        exact ih hrest hlater
    · cases named

theorem required_eq (read : Tree → Option α) (named : namedFields fields names = some values)
    (known : name ∈ names) : Fields.required ⟨values, false⟩ name read =
      member? name read fields := by
  rw [Fields.required, member?, single?_of_namedFields named known, Option.bind_some]

theorem nullable_eq (read : Tree → Option α) (named : namedFields fields names = some values)
    (known : name ∈ names) : Fields.nullable ⟨values, false⟩ name read =
      optional? name read fields := by
  rw [Fields.nullable, optional?, single?_of_namedFields named known, Option.bind_some]
  rfl

theorem exists_repeated (h : namedFields fields names = none) :
    ∃ n ∈ names, single? n fields = none := by
  induction names with
  | nil => exact absurd h (Option.some_ne_none [])
  | cons n ns ih =>
    by_cases hn : single? n fields = none
    · exact ⟨n, List.mem_cons_self, hn⟩
    · obtain ⟨v, hv⟩ := Option.ne_none_iff_exists'.1 hn
      have hrest : namedFields fields ns = none := by
        cases hns : namedFields fields ns with
        | none => rfl
        | some rest =>
          rw [namedFields, hv, hns] at h
          exact absurd h (Option.some_ne_none _)
      obtain ⟨m, hm, hnone⟩ := ih hrest
      exact ⟨m, List.mem_cons_of_mem n hm, hnone⟩

/-- What is read of a map by its fields is what is read of its members, if that fails where a name
is repeated. -/
theorem fields?_map_bind {next : Fields → Option α} {result : Option α}
    (repeated : ∀ n ∈ names, single? n fields = none → result = none)
    (read : ∀ values, namedFields fields names = some values → next ⟨values, false⟩ = result) :
    ((map fields).fields? names).bind next = result := by
  rw [fields?]
  cases hvalues : namedFields fields names with
  | none =>
    obtain ⟨n, hn, hnone⟩ := exists_repeated hvalues
    rw [repeated n hn hnone]
    rfl
  | some values => exact read values hvalues

/-! ## Respelled members -/

/-- Under the names that must be there stand the same members, and under those that may be absent
the same is given. -/
def Agree (required optional : List String) (fields fields' : List (String × Tree)) : Prop :=
  (∀ n ∈ required, single? n fields = single? n fields') ∧
    ∀ n ∈ optional, given? n fields = given? n fields'

variable {required optional : List String}

theorem Agree.symm (agree : Agree required optional fields fields') :
    Agree required optional fields' fields :=
  ⟨fun n hn => (agree.1 n hn).symm, fun n hn => (agree.2 n hn).symm⟩

theorem agree_of_perm (perm : fields.Perm fields') : Agree required optional fields fields' := by
  constructor
  · intro n _
    exact single?_perm perm n
  · intro n _
    rw [given?, given?, single?_perm perm n]

theorem agree_of_filter {p : String × Tree → Bool}
    (kept : ∀ f ∈ fields, f.1 ∈ required ++ optional → p f = true) :
    Agree required optional (fields.filter p) fields := by
  constructor
  · intro n hn
    exact single?_filter fun f hf hname => kept f hf (hname ▸ List.mem_append_left _ hn)
  · intro n hn
    rw [given?, given?,
      single?_filter fun f hf hname => kept f hf (hname ▸ List.mem_append_right _ hn)]

/-- Members agree with their respelling. -/
theorem agree_of_respells {members members' : List (String × Json)}
    (disjoint : ∀ n ∈ required, n ∉ optional)
    (respells : Json.Respells required optional members members') :
    Agree required optional (ofJsonFields members) (ofJsonFields members') := by
  cases respells with
  | reorder perm =>
    rw [ofJsonFields_eq, ofJsonFields_eq]
    exact agree_of_perm (perm.map _)
  | @unknown name v _ unknown =>
    have hother (n : String) (hn : n ∈ required ++ optional) :
        single? n ((name, ofJson v) :: ofJsonFields members') = single? n (ofJsonFields members') :=
      single?_cons_of_ne _ fun heq => unknown ((show name = n from heq) ▸ hn)
    constructor
    · intro n hn
      exact hother n (List.mem_append_left _ hn)
    · intro n hn
      exact congrArg (Option.map _) (hother n (List.mem_append_right _ hn))
  | @omitNull name _ known absent =>
    constructor
    · intro n hn
      have hne : name ≠ n := fun heq => disjoint n hn (heq ▸ known)
      exact single?_cons_of_ne _ hne
    · intro n _
      -- with the null nothing is given under its name, and without it neither
      by_cases hn : name = n
      · subst hn
        have habsent : name ∉ (ofJsonFields members').map Prod.fst := by
          rwa [keys_ofJsonFields]
        rw [ofJsonFields, given?, given?, single?_of_not_mem habsent]
        show (single? name ((name, null) :: ofJsonFields members')).map (·.bind present?) = _
        rw [single?_cons_of_not_mem null habsent]
        rfl
      · exact congrArg (Option.map _) (single?_cons_of_ne (f := (name, null)) _ hn)

end Tree

end SecretConfig
