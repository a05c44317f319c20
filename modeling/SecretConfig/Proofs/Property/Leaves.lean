import Mathlib.Data.List.Basic
import SecretConfig.Property.Flatten

set_option autoImplicit false

/-! # The leaves of a document

A leaf is a value with nothing inside: a scalar, an empty object or an empty array. The path to it
names the steps down to it, by the key of a member or the place of an item. `Json.leaves` lists the
leaves of a document: they are the leaves that the paths of the document end at
(`Json.mem_leaves_iff`), depth first, members by ascending key and items by place
(`Json.leaves_ascending`).

Flattening writes the leaves in this order, each under the name of its path
(`Properties.flatten_eq`). -/

namespace SecretConfig

namespace Json

/-! ## Paths -/

/-- One step down into a document. -/
inductive Segment where
  | member (key : String)
  | item (index : Nat)
deriving DecidableEq, Repr

/-- The value one step down. -/
def child? : Json → Segment → Option Json
  | obj fields, .member key => Entries.get? key fields
  | arr items, .item index => items[index]?
  | _, _ => none

/-- The value at the end of a path. -/
def at? : Json → List Segment → Option Json
  | v, [] => some v
  | v, s :: rest => (v.child? s).bind fun c => c.at? rest

/-- The first path stands before the second: where they part, it takes the lesser key or the
lesser place. -/
inductive Before : List Segment → List Segment → Prop
  | member {key key' : String} (lt : key < key') (rest rest' : List Segment) :
    Before (.member key :: rest) (.member key' :: rest')
  | item {index index' : Nat} (lt : index < index') (rest rest' : List Segment) :
    Before (.item index :: rest) (.item index' :: rest')
  | deeper (s : Segment) {rest rest' : List Segment} (before : Before rest rest') :
    Before (s :: rest) (s :: rest')

theorem Before.asymm {p q : List Segment} (before : Before p q) : ¬ Before q p := by
  induction before with
  | member lt rest rest' =>
    intro h
    cases h with
    | member lt' => exact String.lt_asymm lt lt'
    | deeper => exact String.lt_irrefl _ lt
  | item lt rest rest' =>
    intro h
    cases h with
    | item lt' => exact Nat.lt_asymm lt lt'
    | deeper => exact Nat.lt_irrefl _ lt
  | deeper s before ih =>
    intro h
    cases h with
    | member lt' => exact String.lt_irrefl _ lt'
    | item lt' => exact Nat.lt_irrefl _ lt'
    | deeper _ before' => exact ih before'

/-! ## Leaves -/

/-- The value has nothing inside: a scalar, an empty object or an empty array. -/
def isLeaf : Json → Bool
  | obj (_ :: _) | arr (_ :: _) => false
  | _ => true

/-- A leaf of a document and the path to it. -/
@[ext]
structure Leaf where
  path : List Segment
  value : Json
deriving DecidableEq, Repr

/-- The leaf as seen from one step above. -/
def Leaf.under (s : Segment) (l : Leaf) : Leaf := ⟨s :: l.path, l.value⟩

mutual

/-- The leaves of a document, depth first. -/
def leaves : Json → List Leaf
  | .obj (field :: rest) => fieldLeaves (field :: rest)
  | .arr (item :: rest) => itemLeaves 0 (item :: rest)
  | leaf => [⟨[], leaf⟩]

/-- The leaves of the members of an object. -/
def fieldLeaves : List (String × Json) → List Leaf
  | [] => []
  | (key, v) :: rest => v.leaves.map (.under (.member key)) ++ fieldLeaves rest

/-- The leaves of the items, from `index` on, of an array. -/
def itemLeaves (index : Nat) : List Json → List Leaf
  | [] => []
  | v :: rest => v.leaves.map (.under (.item index)) ++ itemLeaves (index + 1) rest

end

variable {v c : Json} {s : Segment} {l : Leaf}

theorem fieldLeaves_eq (fields : List (String × Json)) :
    fieldLeaves fields = fields.flatMap fun e => e.2.leaves.map (.under (.member e.1)) := by
  induction fields with
  | nil => simp [fieldLeaves]
  | cons e rest ih => rw [fieldLeaves, ih, List.flatMap_cons]

theorem itemLeaves_eq (index : Nat) (items : List Json) :
    itemLeaves index items =
      (items.zipIdx index).flatMap fun e => e.1.leaves.map (.under (.item e.2)) := by
  induction items generalizing index with
  | nil => simp [itemLeaves]
  | cons v rest ih => rw [itemLeaves, ih, List.zipIdx_cons, List.flatMap_cons]

theorem leaves_of_isLeaf (leaf : v.isLeaf = true) : v.leaves = [⟨[], v⟩] := by
  unfold leaves
  split
  · exact nomatch leaf
  · exact nomatch leaf
  · rfl

theorem child?_of_isLeaf (leaf : v.isLeaf = true) (s : Segment) : v.child? s = none := by
  unfold child?
  split
  · rename_i fields key
    cases fields with
    | nil => rfl
    | cons e rest => exact nomatch leaf
  · rename_i items index
    cases items with
    | nil => rfl
    | cons e rest => exact nomatch leaf
  · rfl

theorem Canonical.child (canonical : v.Canonical) (child : v.child? s = some c) :
    c.Canonical := by
  cases canonical with
  | obj fields sorted h =>
    cases s with
    | member key => exact h (key, c) (sorted.get?_eq_some_iff.1 child)
    | item index => exact nomatch child
  | arr items h =>
    cases s with
    | member key => exact nomatch child
    | item index => exact h c (List.mem_of_getElem? child)
  | null | bool | num | str => exact nomatch child

/-- The leaves of a value with something inside are those of its members or items. -/
theorem mem_leaves_of_inner (canonical : v.Canonical) (inner : v.isLeaf = false) :
    l ∈ v.leaves ↔ ∃ s c, v.child? s = some c ∧ ∃ m ∈ c.leaves, m.under s = l := by
  cases canonical with
  | obj fields sorted h =>
    have hleaves : (obj fields).leaves = fieldLeaves fields := by
      cases fields with
      | nil => exact nomatch inner
      | cons e rest => rw [leaves]
    simp only [hleaves, fieldLeaves_eq, List.mem_flatMap, List.mem_map]
    constructor
    · rintro ⟨⟨key, c⟩, hmem, hm⟩
      exact ⟨.member key, c, sorted.get?_eq_some_iff.2 hmem, hm⟩
    · rintro ⟨s, c, hchild, hm⟩
      cases s with
      | member key => exact ⟨(key, c), sorted.get?_eq_some_iff.1 hchild, hm⟩
      | item index => exact nomatch hchild
  | arr items h =>
    have hleaves : (arr items).leaves = itemLeaves 0 items := by
      cases items with
      | nil => exact nomatch inner
      | cons e rest => rw [leaves]
    simp only [hleaves, itemLeaves_eq, List.mem_flatMap, List.mem_map]
    constructor
    · rintro ⟨⟨c, index⟩, hmem, hm⟩
      exact ⟨.item index, c, List.mem_zipIdx_iff_getElem?.1 hmem, hm⟩
    · rintro ⟨s, c, hchild, hm⟩
      cases s with
      | member key => exact nomatch hchild
      | item index => exact ⟨(c, index), List.mem_zipIdx_iff_getElem?.2 hchild, hm⟩
  | null | bool | num | str => exact nomatch inner

/-- **The listed leaves are the leaves at the ends of the paths.** -/
theorem mem_leaves_iff (canonical : v.Canonical) :
    l ∈ v.leaves ↔ v.at? l.path = some l.value ∧ l.value.isLeaf = true := by
  obtain ⟨path, value⟩ := l
  induction path generalizing v with
  | nil =>
    cases hleaf : v.isLeaf with
    | true =>
      rw [leaves_of_isLeaf hleaf]
      constructor
      · intro h
        obtain rfl : value = v := by simpa using h
        exact ⟨rfl, hleaf⟩
      · rintro ⟨h, -⟩
        obtain rfl := Option.some.inj h
        exact List.mem_singleton_self _
    | false =>
      rw [mem_leaves_of_inner canonical hleaf]
      constructor
      · rintro ⟨s, c, -, m, -, hm⟩
        exact nomatch hm
      · rintro ⟨h, hvalue⟩
        obtain rfl := Option.some.inj h
        exact nomatch hleaf.symm.trans hvalue
  | cons s rest ih =>
    cases hleaf : v.isLeaf with
    | true =>
      rw [leaves_of_isLeaf hleaf]
      simp [at?, child?_of_isLeaf hleaf]
    | false =>
      rw [mem_leaves_of_inner canonical hleaf]
      constructor
      · rintro ⟨s', c, hchild, m, hm, heq⟩
        obtain ⟨hpath, rfl⟩ := Leaf.mk.inj heq
        obtain ⟨rfl, rfl⟩ := List.cons.inj hpath
        simp only [at?, hchild, Option.bind_some]
        exact (ih (canonical.child hchild)).1 hm
      · rintro ⟨h, hvalue⟩
        obtain ⟨c, hchild, hc⟩ := Option.bind_eq_some_iff.1 h
        exact ⟨s, c, hchild, _, (ih (canonical.child hchild)).2 ⟨hc, hvalue⟩, rfl⟩

/-- **The leaves are listed by ascending path.** -/
theorem leaves_ascending (canonical : v.Canonical) :
    v.leaves.Pairwise fun a b => Before a.path b.path := by
  induction canonical with
  | obj fields sorted h ih =>
    cases fields with
    | nil => exact List.pairwise_singleton _ _
    | cons e rest =>
      rw [leaves, fieldLeaves_eq, List.pairwise_flatMap]
      constructor
      · intro e he
        exact List.pairwise_map.2 ((ih e he).imp (.deeper _))
      · refine sorted.imp fun {a b} hlt x hx y hy => ?_
        obtain ⟨m, -, rfl⟩ := List.mem_map.1 hx
        obtain ⟨m', -, rfl⟩ := List.mem_map.1 hy
        exact .member hlt _ _
  | arr items h ih =>
    cases items with
    | nil => exact List.pairwise_singleton _ _
    | cons e rest =>
      rw [leaves, itemLeaves_eq, List.pairwise_flatMap]
      constructor
      · intro e he
        exact List.pairwise_map.2 ((ih e.1 (List.fst_mem_of_mem_zipIdx he)).imp (.deeper _))
      · have hplaces : ((e :: rest).zipIdx).Pairwise fun a b => a.2 < b.2 := by
          refine List.pairwise_iff_getElem.2 fun i j hi hj hlt => ?_
          simpa only [List.getElem_zipIdx, Nat.zero_add] using hlt
        refine hplaces.imp fun {a b} hlt x hx y hy => ?_
        obtain ⟨m, -, rfl⟩ := List.mem_map.1 hx
        obtain ⟨m', -, rfl⟩ := List.mem_map.1 hy
        exact .item hlt _ _
  | null | bool | num | str => exact List.pairwise_singleton _ _

end Json

/-! ## The properties of a document are its leaves -/

namespace Properties

open Json (Segment Leaf Before)

variable {data : Dict Json} {l : Leaf} {name : String} {v : Json}

/-- The name of what is one step below the value called `name`. -/
def extend (name : String) : Segment → String
  | .member key => memberName name key
  | .item index => itemName name index

/-- The name of what is at the end of a path. The members of the document itself are called by
their keys. -/
def nameOf : List Segment → String
  | [] => ""
  | .member key :: rest => rest.foldl extend key
  | .item index :: rest => rest.foldl extend (itemName "" index)

/-- The leaves of the members of a document, depth first. -/
def leaves (data : Dict Json) : List Leaf := Json.fieldLeaves data.entries

/-- The leaves of a document are those of its members, unless it is empty and a leaf itself. -/
theorem mem_leaves_iff (canonical : (Json.ofDict data).Canonical) :
    l ∈ leaves data ↔
      l.path ≠ [] ∧ (Json.ofDict data).at? l.path = some l.value ∧ l.value.isLeaf = true := by
  have hall := Json.mem_leaves_iff (l := l) canonical
  unfold leaves
  unfold Json.ofDict at hall ⊢
  cases hentries : data.entries with
  | nil =>
    obtain ⟨path, value⟩ := l
    cases path with
    | nil => simp [Json.fieldLeaves]
    | cons s rest => simp [Json.fieldLeaves, Json.at?, Json.child?_of_isLeaf (v := .obj []) rfl]
  | cons e rest =>
    rw [hentries, Json.leaves] at hall
    rw [hall]
    constructor
    · rintro ⟨h, hvalue⟩
      refine ⟨fun hpath => ?_, h, hvalue⟩
      -- at the end of the empty path stands the document, and it is no leaf
      rw [hpath] at h
      rw [← Option.some.inj h] at hvalue
      exact nomatch hvalue
    · exact fun h => h.2

theorem leaves_ascending (canonical : (Json.ofDict data).Canonical) :
    (leaves data).Pairwise fun a b => Before a.path b.path := by
  have h := Json.leaves_ascending canonical
  unfold leaves
  unfold Json.ofDict at h
  cases hentries : data.entries with
  | nil => exact List.Pairwise.nil
  | cons e rest => rwa [hentries, Json.leaves] at h

/-- The leaves of a document are those of its members, seen from one step above. -/
theorem mem_leaves_iff_exists :
    l ∈ leaves data ↔ ∃ e ∈ data.entries, ∃ m ∈ e.2.leaves, m.under (.member e.1) = l := by
  simp only [leaves, Json.fieldLeaves_eq, List.mem_flatMap, List.mem_map]

theorem path_of_mem_leaves (h : l ∈ leaves data) : ∃ key rest, l.path = .member key :: rest := by
  obtain ⟨e, -, m, -, rfl⟩ := mem_leaves_iff_exists.1 h
  exact ⟨e.1, m.path, rfl⟩

/-- Put a leaf of the value called `name` among the properties. -/
def write (name : String) (acc : Properties) (l : Leaf) : Properties :=
  acc.insert (l.path.foldl extend name) l.value

mutual

theorem addValue_eq (acc : Properties) (name : String) (v : Json) :
    addValue acc name v = v.leaves.foldl (write name) acc := by
  match v with
  | .obj (field :: rest) => rw [addValue, Json.leaves, addFields_eq]
  | .arr (item :: rest) => rw [addValue, Json.leaves, addItems_eq]
  | .obj [] | .arr [] | .null | .bool _ | .num _ | .str _ => rfl

theorem addFields_eq (acc : Properties) (name : String) (fields : List (String × Json)) :
    addFields acc name fields = (Json.fieldLeaves fields).foldl (write name) acc := by
  match fields with
  | [] => rfl
  | (key, v) :: rest =>
    rw [addFields, addFields_eq, addValue_eq, Json.fieldLeaves, List.foldl_append, List.foldl_map]
    rfl

theorem addItems_eq (acc : Properties) (name : String) (index : Nat) (items : List Json) :
    addItems acc name index items = (Json.itemLeaves index items).foldl (write name) acc := by
  match items with
  | [] => rfl
  | v :: rest =>
    rw [addItems, addItems_eq, addValue_eq, Json.itemLeaves, List.foldl_append, List.foldl_map]
    rfl

end

/-- **Flattening writes the leaves one after the other**, each under the name of its path. -/
theorem flatten_eq (data : Dict Json) :
    flatten data = Dict.ofList ((leaves data).map fun l => (nameOf l.path, l.value)) := by
  suffices ∀ (fields : List (String × Json)) (acc : Properties),
      fields.foldl (fun acc e => addValue acc e.1 e.2) acc =
        (Json.fieldLeaves fields).foldl (fun acc l => acc.insert (nameOf l.path) l.value) acc by
    rw [Dict.ofList_eq_foldl, List.foldl_map]
    exact this data.entries Dict.empty
  intro fields
  induction fields with
  | nil => exact fun acc => rfl
  | cons e rest ih =>
    intro acc
    rw [List.foldl_cons, ih, addValue_eq, Json.fieldLeaves, List.foldl_append, List.foldl_map]
    rfl

/-- The last leaf with a name has its value. -/
theorem get?_flatten (data : Dict Json) (name : String) :
    (flatten data).get? name =
      ((leaves data).filter fun l => nameOf l.path = name).getLast?.map Leaf.value := by
  rw [flatten_eq, Dict.get?_ofList_map]

theorem mem_keys_flatten :
    name ∈ (flatten data).keys ↔ ∃ l ∈ leaves data, nameOf l.path = name := by
  rw [flatten_eq, Dict.mem_keys_ofList, List.map_map, List.mem_map]
  rfl

/-- A property is the value of a leaf with its name. -/
theorem exists_leaf_of_get? (h : (flatten data).get? name = some v) :
    ∃ l ∈ leaves data, nameOf l.path = name ∧ l.value = v := by
  rw [get?_flatten] at h
  obtain ⟨l, hlast, hv⟩ := Option.map_eq_some_iff.1 h
  obtain ⟨hl, hname⟩ := List.mem_filter.1 (List.mem_of_getLast? hlast)
  exact ⟨l, hl, of_decide_eq_true hname, hv⟩

end Properties

end SecretConfig
