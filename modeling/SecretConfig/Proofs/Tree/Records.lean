import SecretConfig.Proofs.Json.Writing
import SecretConfig.Tree

set_option autoImplicit false

/-! # Records and their members

A record is read from the members of a map, and it does not matter in which order they stand
(`Tree.single?_perm`). What a record is written as is an object with one member for each of its
names, and so every name has a value when it is read back (`Tree.fields?_object`). A value that can
be written as a text and that a reader takes for `a` is said to encode it (`Tree.Encodes`). -/

namespace SecretConfig.Tree

variable {α β : Type} {fields fields' : List (String × Tree)} {name : String} {t : Tree}

theorem ofJsonFields_eq (fields : List (String × Json)) :
    ofJsonFields fields = fields.map fun e => (e.1, ofJson e.2) := by
  induction fields with
  | nil => rfl
  | cons e rest ih => rw [ofJsonFields, ih, List.map_cons]

/-- The trees of members have the keys of the members. -/
theorem keys_ofJsonFields (fields : List (String × Json)) :
    (ofJsonFields fields).map Prod.fst = fields.map Prod.fst := by
  rw [ofJsonFields_eq, List.map_map]
  rfl

/-! ## The member under a name -/

theorem single?_cons_of_ne {f : String × Tree} (fields : List (String × Tree))
    (other : f.1 ≠ name) : single? name (f :: fields) = single? name fields := by
  rw [single?, single?, List.filter_cons_of_neg (by simpa using other)]

theorem filter_of_not_mem (absent : name ∉ fields.map Prod.fst) :
    fields.filter (fun f => f.1 = name) = [] := by
  refine List.filter_eq_nil_iff.2 fun f hf heq => absent ?_
  exact List.mem_map.2 ⟨f, hf, of_decide_eq_true heq⟩

theorem single?_of_not_mem (absent : name ∉ fields.map Prod.fst) :
    single? name fields = some none := by
  rw [single?, filter_of_not_mem absent]

theorem single?_cons_of_not_mem (t : Tree) (absent : name ∉ fields.map Prod.fst) :
    single? name ((name, t) :: fields) = some (some t) := by
  rw [single?, List.filter_cons_of_pos (by simp), filter_of_not_mem absent]

theorem single?_cons_of_mem (t : Tree) (repeated : name ∈ fields.map Prod.fst) :
    single? name ((name, t) :: fields) = none := by
  obtain ⟨f, hf, hname⟩ := List.mem_map.1 repeated
  have hfound : f ∈ fields.filter fun f => f.1 = name :=
    List.mem_filter.2 ⟨hf, decide_eq_true hname⟩
  rw [single?, List.filter_cons_of_pos (by simp)]
  cases hrest : fields.filter fun f => f.1 = name with
  | nil => exact nomatch hrest ▸ hfound
  | cons g rest => rfl

/-- Without members of other names, the member is the same. -/
theorem single?_filter {p : String × Tree → Bool} (kept : ∀ f ∈ fields, f.1 = name → p f = true) :
    single? name (fields.filter p) = single? name fields := by
  have hfilter : (fields.filter p).filter (fun f => f.1 = name) =
      fields.filter fun f => f.1 = name := by
    rw [List.filter_filter]
    refine List.filter_congr fun f hf => ?_
    by_cases hname : f.1 = name
    · rw [kept f hf hname, Bool.and_true]
    · rw [decide_eq_false hname, Bool.false_and]
  rw [single?, single?, hfilter]

/-- Without repeated keys, every member is the one under its key. -/
theorem single?_of_mem (nodup : (fields.map Prod.fst).Nodup) (member : (name, t) ∈ fields) :
    single? name fields = some (some t) := by
  induction fields with
  | nil => exact nomatch member
  | cons f rest ih =>
    rw [List.map_cons, List.nodup_cons] at nodup
    rcases List.mem_cons.1 member with rfl | hrest
    · exact single?_cons_of_not_mem t nodup.1
    · have hother : f.1 ≠ name := by
        rintro rfl
        exact nodup.1 (List.mem_map.2 ⟨_, hrest, rfl⟩)
      rw [single?_cons_of_ne rest hother]
      exact ih nodup.2 hrest

/-- The order of the members does not matter. -/
theorem single?_perm (perm : fields.Perm fields') (name : String) :
    single? name fields = single? name fields' := by
  have hperm := perm.filter fun f => decide (f.1 = name)
  unfold single?
  generalize fields.filter (fun f => decide (f.1 = name)) = found at hperm ⊢
  generalize fields'.filter (fun f => decide (f.1 = name)) = found' at hperm ⊢
  -- no member or one is the same list in any order, and more are refused in any order
  match found with
  | [] => rw [hperm.symm.eq_nil]
  | [f] => rw [List.singleton_perm.1 hperm]
  | f :: g :: rest =>
    have hlength := hperm.length_eq
    match found' with
    | [] => exact absurd hlength (by simp)
    | [_] => exact absurd hlength (by simp)
    | _ :: _ :: _ => rfl

theorem namedFields_congr {names : List String}
    (same : ∀ n ∈ names, single? n fields = single? n fields') :
    namedFields fields names = namedFields fields' names := by
  induction names with
  | nil => rfl
  | cons n ns ih =>
    rw [namedFields, namedFields, same n List.mem_cons_self,
      ih fun m hm => same m (List.mem_cons_of_mem n hm)]

/-- Without repeated keys, the names of some members have the values of those members. -/
theorem namedFields_of_subset (nodup : (fields.map Prod.fst).Nodup)
    {members : List (String × Tree)} (subset : members ⊆ fields) :
    namedFields fields (members.map Prod.fst) = some (members.map fun f => (f.1, some f.2)) := by
  induction members with
  | nil => rfl
  | cons f rest ih =>
    obtain ⟨hf, hrest⟩ := List.cons_subset.1 subset
    rw [List.map_cons, namedFields, single?_of_mem nodup hf, ih hrest]
    rfl

/-! ## Records that have been written -/

/-- The members of an object are those that it is made of in another order. -/
theorem perm_ofPairs {members : List (String × Json)} (nodup : (members.map Prod.fst).Nodup) :
    (ofJsonFields (Entries.ofPairs members)).Perm (ofJsonFields members) := by
  rw [ofJsonFields_eq, ofJsonFields_eq]
  exact (Entries.ofPairs_perm nodup).map _

/-- Every name of an object with one member for each has the value of its member. -/
theorem fields?_object {members : List (String × Json)} {names : List String}
    (keys : members.map Prod.fst = names) (nodup : names.Nodup) :
    fields? names (ofJson (Json.object members)) =
      some ⟨members.map fun m => (m.1, some (ofJson m.2)), false⟩ := by
  subst keys
  have hnodup : ((ofJsonFields members).map Prod.fst).Nodup := by rwa [keys_ofJsonFields]
  rw [Json.object, ofJson, fields?,
    namedFields_congr fun n _ => single?_perm (perm_ofPairs nodup) n, ← keys_ofJsonFields,
    namedFields_of_subset hnodup (List.Subset.refl _), ofJsonFields_eq, List.map_map]
  rfl

namespace Fields

@[simp] theorem get?_cons_self (name : String) (value : Option Tree)
    (values : List (String × Option Tree)) (p : Bool) :
    get? ⟨(name, value) :: values, p⟩ name = value := by
  simp [get?]

@[simp] theorem get?_cons_of_ne {f : String × Option Tree} (values : List (String × Option Tree))
    (p : Bool) (other : f.1 ≠ name) : get? ⟨f :: values, p⟩ name = get? ⟨values, p⟩ name := by
  have hother : decide (f.1 = name) = false := decide_eq_false other
  simp only [get?, List.find?_cons, hother]

end Fields

/-! ## Values that encode -/

/-- The value can be written as a text, and the reader takes it for `a`. -/
structure Encodes (n : Nat) (read : Tree → Option α) (v : Json) (a : α) : Prop where
  writable : v.Writable n
  reads : read (ofJson v) = some a

namespace Encodes

variable {n : Nat} {read : Tree → Option α} {v : Json} {a : α}

theorem text (n : Nat) (s : String) : Encodes n asText? (.str s) s := ⟨.str n s, rfl⟩

theorem bool (n : Nat) (b : Bool) : Encodes n asBool? (.bool b) b := ⟨.bool n b, rfl⟩

theorem asNatBelow?_nat {m bound : Nat} (below : m < bound) :
    asNatBelow? bound (ofJson (Json.nat m)) = some m := by
  have hbounds : (0 : Int) ≤ (m : Int) ∧ (m : Int) < (bound : Int) ∧ false = false := by
    refine ⟨by omega, by omega, rfl⟩
  show (if (0 : Int) ≤ (m : Int) ∧ (m : Int) < (bound : Int) ∧ false = false then
    some (m : Int).toNat else none) = some m
  rw [if_pos hbounds, Int.toNat_natCast]

theorem uint64 (n : Nat) (x : UInt64) : Encodes n asUInt64? (Json.nat x.toNat) x := by
  have hlt : x.toNat < UInt64.size := x.toNat_lt_size
  constructor
  · have hlow : Int64.minValue.toInt ≤ 0 := by decide
    exact .int n ⟨by omega, by omega⟩
  · rw [asUInt64?, asNatBelow?_nat hlt, Option.map_some, UInt64.ofNat_toNat]

theorem uint16 (n : Nat) (x : UInt16) : Encodes n asUInt16? (Json.nat x.toNat) x := by
  have hlt : x.toNat < UInt16.size := x.toNat_lt_size
  constructor
  · have hlow : Int64.minValue.toInt ≤ 0 := by decide
    have hsize : UInt16.size ≤ UInt64.size := by decide
    exact .int n ⟨by omega, by omega⟩
  · rw [asUInt16?, asNatBelow?_nat hlt, Option.map_some, UInt16.ofNat_toNat]

theorem int32 (n : Nat) (x : Int32) : Encodes n asInt32? (Json.int x.toInt) x := by
  have hlow : Int32.minValue.toInt ≤ x.toInt := x.minValue_le_toInt
  have hhigh : x.toInt ≤ Int32.maxValue.toInt := x.toInt_le
  constructor
  · have hword : Int64.minValue.toInt ≤ Int32.minValue.toInt ∧
        Int32.maxValue.toInt < UInt64.size := by decide
    exact .int n ⟨by omega, by omega⟩
  · show (if Int32.minValue.toInt ≤ x.toInt ∧ x.toInt ≤ Int32.maxValue.toInt then
      some (Int32.ofInt x.toInt) else none) = some x
    rw [if_pos ⟨hlow, hhigh⟩, Int32.ofInt_toInt]

/-- A name encodes what it is the name of. -/
theorem choice (n : Nat) {ofName? : String → Option α} {s : String} (named : ofName? s = some a) :
    Encodes n (asChoice? ofName?) (.str s) a := ⟨.str n s, named⟩

/-- What is there is read as it is read where nothing may be absent. -/
theorem asOption?_ofJson (there : v ≠ .null) :
    asOption? read (ofJson v) = (read (ofJson v)).map some := by
  cases v with
  | null => exact absurd rfl there
  | num x => cases x <;> rfl
  | bool | str | arr | obj => rfl

/-- Absence is encoded by `null`. -/
theorem option {write : β → Json} {f : β → α} (o : Option β)
    (encodes : ∀ b, Encodes n read (write b) (f b)) (there : ∀ b, write b ≠ .null) :
    Encodes n (asOption? read) (Json.ofOption write o) (o.map f) := by
  cases o with
  | none => exact ⟨.null n, rfl⟩
  | some b =>
    refine ⟨(encodes b).writable, ?_⟩
    rw [Json.ofOption, asOption?_ofJson (there b), (encodes b).reads]
    rfl

theorem optionalText (n : Nat) (s : Option String) :
    Encodes n (asOption? asText?) (Json.ofOption Json.str s) s := by
  have hencodes := option s (text n) nofun
  rwa [Option.map_id'] at hencodes

/-- An array encodes a list, item by item. -/
theorem list {write : α → Json} {as : List α} (encodes : ∀ a ∈ as, Encodes n read (write a) a) :
    Encodes (n + 1) (asList? read) (.arr (as.map write)) as := by
  constructor
  · refine .arr fun v hv => ?_
    obtain ⟨a, ha, rfl⟩ := List.mem_map.1 hv
    exact (encodes a ha).writable
  · show readAll read (ofJsonItems (as.map write)) = some as
    induction as with
    | nil => rfl
    | cons a rest ih =>
      have hrest := ih fun b hb => encodes b (List.mem_cons_of_mem a hb)
      rw [List.map_cons, ofJsonItems, readAll, (encodes a List.mem_cons_self).reads, hrest]

/-- An object with one member for each name encodes what its members are read as. -/
theorem record {names : List String} {members : List (String × Json)} {next : Fields → Option α}
    (keys : members.map Prod.fst = names) (nodup : names.Nodup)
    (writable : ∀ m ∈ members, m.2.Writable n)
    (reads : next ⟨members.map fun m => (m.1, some (ofJson m.2)), false⟩ = some a) :
    Encodes (n + 1) (fun t => (t.fields? names).bind next) (Json.object members) a := by
  constructor
  · exact .object writable
  · rw [fields?_object keys nodup, Option.bind_some, reads]

end Encodes

end SecretConfig.Tree
