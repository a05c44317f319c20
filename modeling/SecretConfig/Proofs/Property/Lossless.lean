import SecretConfig.Proofs.Property.Collisions

set_option autoImplicit false

/-! # Documents that flattening keeps apart

Keys without points and opening brackets leave no choice where the next step of a name begins, so a
name is read in one way (`Properties.texts_inj`). Leaves have names of their own then, and the
properties tell the leaves with their paths. The leaves in turn tell the document
(`Json.eq_of_sameLeaves`): there is one below each of its values, so two documents with the same
leaves have the same steps down, and the same below them. So no two documents have the same
properties (`Properties.flatten_lossless`). -/

namespace SecretConfig

namespace Json

/-! ## Plain keys -/

/-- The character begins no step of a name. -/
def isPlainChar (c : Char) : Bool := c ≠ '.' && c ≠ '['

/-- The key has neither points nor opening brackets. -/
def isPlain (key : String) : Bool := key.toList.all isPlainChar

/-- The step does not take a member whose key is not plain. -/
def Segment.IsPlain : Segment → Prop
  | .member key => isPlain key = true
  | .item _ => True

/-- At every depth the keys of an object are plain. -/
inductive Undotted : Json → Prop where
  | null : Undotted null
  | bool (b : Bool) : Undotted (bool b)
  | num (n : Number) : Undotted (num n)
  | str (s : String) : Undotted (str s)
  | arr (items : List Json) (h : ∀ v ∈ items, Undotted v) : Undotted (arr items)
  | obj (fields : List (String × Json)) (plain : ∀ e ∈ fields, isPlain e.1 = true)
      (h : ∀ e ∈ fields, Undotted e.2) : Undotted (obj fields)

variable {v w c : Json} {s : Segment} {path : List Segment}

theorem Undotted.child (undotted : v.Undotted) (canonical : v.Canonical)
    (child : v.child? s = some c) : s.IsPlain ∧ c.Undotted := by
  cases undotted with
  | obj fields plain h =>
    cases canonical with
    | obj _ sorted _ =>
      cases s with
      | member key =>
        have hmem : (key, c) ∈ fields := sorted.get?_eq_some_iff.1 child
        exact ⟨plain _ hmem, h _ hmem⟩
      | item index => exact nomatch child
  | arr items h =>
    cases s with
    | member key => exact nomatch child
    | item index => exact ⟨trivial, h c (List.mem_of_getElem? child)⟩
  | null | bool | num | str => exact nomatch child

theorem Undotted.isPlain (undotted : v.Undotted) (canonical : v.Canonical)
    (ends : v.at? path = some c) : ∀ s ∈ path, s.IsPlain := by
  induction path generalizing v with
  | nil => exact nofun
  | cons s rest ih =>
    obtain ⟨d, hchild, hrest⟩ := Option.bind_eq_some_iff.1 ends
    obtain ⟨hplain, hd⟩ := undotted.child canonical hchild
    exact List.forall_mem_cons.2 ⟨hplain, ih hd (canonical.child hchild) hrest⟩

/-! ## The leaves determine the document -/

/-- The same leaves stand at the ends of the paths of both values. -/
def SameLeaves (v w : Json) : Prop :=
  ∀ path leaf, leaf.isLeaf = true → (v.at? path = some leaf ↔ w.at? path = some leaf)

theorem SameLeaves.symm (same : SameLeaves v w) : SameLeaves w v :=
  fun path leaf hleaf => (same path leaf hleaf).symm

/-- Some path of a value ends at a leaf. -/
theorem exists_leaf (canonical : v.Canonical) :
    ∃ path leaf, leaf.isLeaf = true ∧ v.at? path = some leaf := by
  induction canonical with
  | obj fields sorted h ih =>
    cases fields with
    | nil => exact ⟨[], _, rfl, rfl⟩
    | cons e rest =>
      obtain ⟨path, leaf, hleaf, hends⟩ := ih e List.mem_cons_self
      refine ⟨.member e.1 :: path, leaf, hleaf, ?_⟩
      simp [at?, child?, Entries.get?, hends]
  | arr items h ih =>
    cases items with
    | nil => exact ⟨[], _, rfl, rfl⟩
    | cons e rest =>
      obtain ⟨path, leaf, hleaf, hends⟩ := ih e List.mem_cons_self
      refine ⟨.item 0 :: path, leaf, hleaf, ?_⟩
      simp [at?, child?, hends]
  | null | bool | num | str => exact ⟨[], _, rfl, rfl⟩

/-- Below each step of one value, the other has the same leaves. -/
theorem SameLeaves.child (same : SameLeaves v w) (canonical : v.Canonical)
    (child : v.child? s = some c) : ∃ d, w.child? s = some d ∧ SameLeaves c d := by
  -- a leaf below the step shows that the other value has the step too
  obtain ⟨path, leaf, hleaf, hends⟩ := exists_leaf (canonical.child child)
  have hv : v.at? (s :: path) = some leaf := by rw [at?, child, Option.bind_some, hends]
  obtain ⟨d, hd, -⟩ := Option.bind_eq_some_iff.1 ((same _ _ hleaf).1 hv)
  refine ⟨d, hd, fun path leaf hleaf => ?_⟩
  have h := same (s :: path) leaf hleaf
  rwa [at?, at?, child, hd, Option.bind_some, Option.bind_some] at h

theorem eq_of_child? (hv : v.Canonical) (hw : w.Canonical) (inner : v.isLeaf = false)
    (same : ∀ s, v.child? s = w.child? s) : v = w := by
  cases hv with
  | obj fields sorted h =>
    cases fields with
    | nil => cases inner
    | cons e rest =>
      have hfirst := same (.member e.1)
      cases hw with
      | obj fields' sorted' h' => rw [sorted.ext sorted' fun key => same (.member key)]
      | null | bool | num | str | arr => simp [child?, Entries.get?] at hfirst
  | arr items h =>
    cases items with
    | nil => cases inner
    | cons e rest =>
      have hfirst := same (.item 0)
      cases hw with
      | arr items' h' => rw [List.ext_getElem? fun index => same (.item index)]
      | null | bool | num | str | obj => simp [child?] at hfirst
  | null | bool | num | str => cases inner

theorem eq_of_sameLeaves_below (hv : v.Canonical) (hw : w.Canonical) (same : SameLeaves v w)
    (below : ∀ s c, v.child? s = some c → ∀ d, d.Canonical → SameLeaves c d → c = d) : v = w := by
  cases hleaf : v.isLeaf with
  | true => exact (Option.some.inj ((same [] v hleaf).1 rfl)).symm
  | false =>
    refine eq_of_child? hv hw hleaf fun s => ?_
    cases hchild : v.child? s with
    | some c =>
      obtain ⟨d, hd, hsame⟩ := same.child hv hchild
      rw [hd, below s c hchild d (hw.child hd) hsame]
    | none =>
      cases hd : w.child? s with
      | none => rfl
      | some d =>
        obtain ⟨c, hc, -⟩ := same.symm.child hw hd
        exact nomatch hchild.symm.trans hc

/-- **The leaves determine the document.** -/
theorem eq_of_sameLeaves (hv : v.Canonical) (hw : w.Canonical) (same : SameLeaves v w) :
    v = w := by
  induction hv generalizing w with
  | obj fields sorted h ih =>
    refine eq_of_sameLeaves_below (.obj fields sorted h) hw same fun s c hchild d hd hsame => ?_
    cases s with
    | member key => exact ih (key, c) (sorted.get?_eq_some_iff.1 hchild) hd hsame
    | item index => exact nomatch hchild
  | arr items h ih =>
    refine eq_of_sameLeaves_below (.arr items h) hw same fun s c hchild d hd hsame => ?_
    cases s with
    | member key => exact nomatch hchild
    | item index => exact ih c (List.mem_of_getElem? hchild) hd hsame
  | null | bool | num | str => exact (Option.some.inj ((same [] _ rfl).1 rfl)).symm

end Json

namespace Properties

open Json (Segment Leaf)

/-! ## Names are read in one way -/

/-- The text of a path begins with a character that is not plain. -/
theorem head?_texts (path : List Segment) :
    ∀ c ∈ (path.flatMap segmentText).head?, Json.isPlainChar c = false := by
  cases path with
  | nil => exact nofun
  | cons s rest =>
    intro c hc
    cases s with
    | member key =>
      obtain rfl : '.' = c := by simpa [segmentText] using hc
      decide
    | item index =>
      obtain rfl : '[' = c := by simpa [segmentText] using hc
      decide

theorem texts_eq_nil {path : List Segment} (h : path.flatMap segmentText = []) : path = [] := by
  cases path with
  | nil => rfl
  | cons s rest => cases s <;> simp [segmentText] at h

/-- **A text is that of one path with plain keys.** -/
theorem texts_inj {p q : List Segment} (hp : ∀ s ∈ p, s.IsPlain) (hq : ∀ s ∈ q, s.IsPlain)
    (same : p.flatMap segmentText = q.flatMap segmentText) : p = q := by
  induction p generalizing q with
  | nil => exact (texts_eq_nil same.symm).symm
  | cons s rest ih =>
    cases q with
    | nil => exact texts_eq_nil same
    | cons s' rest' =>
      obtain ⟨hs, hrest⟩ := List.forall_mem_cons.1 hp
      obtain ⟨hs', hrest'⟩ := List.forall_mem_cons.1 hq
      rw [List.flatMap_cons, List.flatMap_cons] at same
      cases s with
      | member key =>
        cases s' with
        | member key' =>
          obtain ⟨hkey, htail⟩ := front_inj (List.all_eq_true.1 hs) (List.all_eq_true.1 hs')
            (head?_texts rest) (head?_texts rest') (List.cons.inj same).2
          rw [String.toList_inj.1 hkey, ih hrest hrest' htail]
        | item index => exact absurd (List.cons.inj same).1 (by decide)
      | item index =>
        cases s' with
        | member key => exact absurd (List.cons.inj same).1 (by decide)
        | item index' =>
          simp only [segmentText, List.cons_append, List.append_assoc, List.nil_append,
            List.cons.injEq, true_and] at same
          obtain ⟨hindex, htail⟩ := index_inj same
          rw [hindex, ih hrest hrest' htail]

/-! ## Members with plain keys -/

/-- A plain name is that of a member of the document. -/
theorem eq_nil_of_isPlain {key : String} {rest : List Segment}
    (plain : Json.isPlain (nameOf (.member key :: rest)) = true) : rest = [] := by
  rw [Json.isPlain, nameOf, toList_foldl_extend, List.all_append, Bool.and_eq_true] at plain
  refine texts_eq_nil (List.head?_eq_none_iff.1 (Option.eq_none_iff_forall_ne_some.2 ?_))
  intro c hc
  have hplain := List.all_eq_true.1 plain.2 c (List.mem_of_head? hc)
  exact Bool.false_ne_true ((head?_texts rest c hc).symm.trans hplain)

/-- A leaf that a document holds under a plain key is a property, whatever else it holds. -/
theorem get?_flatten_of_isPlain {data : Dict Json} {key : String} {v : Json}
    (plain : Json.isPlain key = true) (found : data.get? key = some v)
    (leaf : v.isLeaf = true) : (flatten data).get? key = some v := by
  have hmem : (⟨[.member key], v⟩ : Leaf) ∈ leaves data := by
    refine mem_leaves_iff_exists.2 ⟨(key, v), Dict.get?_eq_some_iff.1 found, ⟨[], v⟩, ?_, rfl⟩
    rw [Json.leaves_of_isLeaf leaf]
    exact List.mem_singleton_self _
  have hkey : key ∈ (flatten data).keys := mem_keys_flatten.2 ⟨_, hmem, rfl⟩
  obtain ⟨w, hw⟩ := Option.isSome_iff_exists.1 (Dict.mem_keys_iff.1 hkey)
  -- no other leaf has the name
  obtain ⟨l, hl, hname, rfl⟩ := exists_leaf_of_get? hw
  obtain ⟨⟨key', c⟩, he, ⟨path, value⟩, hm, rfl⟩ := mem_leaves_iff_exists.1 hl
  obtain rfl : path = [] := eq_nil_of_isPlain (hname ▸ plain)
  obtain rfl : key' = key := hname
  obtain rfl : c = v := Option.some.inj ((Dict.get?_eq_some_iff.2 he).symm.trans found)
  rw [Json.leaves_of_isLeaf leaf] at hm
  obtain rfl : value = c := congrArg Leaf.value (List.mem_singleton.1 hm)
  exact hw

/-! ## Documents with plain keys -/

/-- A document as it is held, with plain keys at every depth. -/
structure Plain (data : Dict Json) : Prop where
  canonical : (Json.ofDict data).Canonical
  undotted : (Json.ofDict data).Undotted

variable {data data' : Dict Json} {a b : Leaf} {name : String} {v : Json}

theorem Plain.isPlain (plain : Plain data) (h : a ∈ leaves data) : ∀ s ∈ a.path, s.IsPlain :=
  plain.undotted.isPlain plain.canonical ((mem_leaves_iff plain.canonical).1 h).2.1

theorem Plain.path_eq (plain : Plain data) (plain' : Plain data') (ha : a ∈ leaves data)
    (hb : b ∈ leaves data') (same : nameOf a.path = nameOf b.path) : a.path = b.path :=
  texts_inj (plain.isPlain ha) (plain'.isPlain hb) (texts_of_name ha hb same)

theorem Plain.leaf_eq (plain : Plain data) (ha : a ∈ leaves data) (hb : b ∈ leaves data)
    (same : nameOf a.path = nameOf b.path) : a = b := by
  have hpath := plain.path_eq plain ha hb same
  have hends := ((mem_leaves_iff plain.canonical).1 ha).2.1
  rw [hpath, ((mem_leaves_iff plain.canonical).1 hb).2.1] at hends
  exact Leaf.ext hpath (Option.some.inj hends).symm

theorem Plain.nodup_names (plain : Plain data) :
    ((leaves data).map fun l => nameOf l.path).Nodup := by
  refine List.pairwise_map.2 ((leaves_ascending plain.canonical).imp_of_mem ?_)
  intro a b ha hb before same
  rw [plain.path_eq plain ha hb same] at before
  exact before.asymm before

/-- Each leaf is found under its name, and nothing else is. -/
theorem Plain.get?_flatten_iff (plain : Plain data) :
    (flatten data).get? name = some v ↔
      ∃ l ∈ leaves data, nameOf l.path = name ∧ l.value = v := by
  refine ⟨exists_leaf_of_get?, ?_⟩
  rintro ⟨w, hw, hname, hv⟩
  refine (get?_flatten_eq_some_iff plain.canonical).2 ⟨w, hw, hname, hv, fun l hl hlname ne => ?_⟩
  exact absurd (plain.leaf_eq hl hw (hlname.trans hname.symm)) ne

theorem Plain.size_flatten (plain : Plain data) :
    (flatten data).size = (leaves data).length := by
  have hnodup := plain.nodup_names
  rw [flatten_eq, Dict.size_ofList, List.length_map]
  rwa [List.map_map]

theorem Plain.leaves_subset (plain : Plain data) (plain' : Plain data')
    (same : flatten data = flatten data') (ha : a ∈ leaves data) : a ∈ leaves data' := by
  have hfound := plain.get?_flatten_iff.2 ⟨a, ha, rfl, rfl⟩
  rw [same] at hfound
  obtain ⟨b, hb, hname, hvalue⟩ := plain'.get?_flatten_iff.1 hfound
  rwa [← Leaf.ext (plain'.path_eq plain hb ha hname) hvalue]

theorem isLeaf_ofDict : (Json.ofDict data).isLeaf = true ↔ data.entries = [] := by
  unfold Json.ofDict
  cases data.entries with
  | nil => exact iff_of_true rfl rfl
  | cons e rest => exact iff_of_false Bool.false_ne_true (List.cons_ne_nil e rest)

/-- Only the empty document has no leaves. -/
theorem entries_eq_nil (canonical : (Json.ofDict data).Canonical)
    (none : ∀ l, l ∉ leaves data) : data.entries = [] := by
  obtain ⟨path, leaf, hleaf, hends⟩ := Json.exists_leaf canonical
  cases path with
  | nil =>
    obtain rfl := Option.some.inj hends
    exact isLeaf_ofDict.1 hleaf
  | cons s rest =>
    have hmem := (mem_leaves_iff (l := ⟨s :: rest, leaf⟩) canonical).2
      ⟨List.cons_ne_nil s rest, hends, hleaf⟩
    exact absurd hmem (none _)

theorem at?_of_leaves {path : List Segment} {leaf : Json}
    (canonical : (Json.ofDict data).Canonical) (canonical' : (Json.ofDict data').Canonical)
    (same : ∀ l, l ∈ leaves data ↔ l ∈ leaves data') (hleaf : leaf.isLeaf = true)
    (ends : (Json.ofDict data).at? path = some leaf) :
    (Json.ofDict data').at? path = some leaf := by
  cases path with
  | nil =>
    -- the document itself is the leaf, so it is empty, and the other one is too
    obtain rfl := Option.some.inj ends
    have hnil := isLeaf_ofDict.1 hleaf
    have hnil' : data'.entries = [] := by
      refine entries_eq_nil canonical' fun l hl => ?_
      have hmem := (same l).2 hl
      rw [leaves, hnil] at hmem
      exact List.not_mem_nil hmem
    rw [Json.at?, Json.ofDict, Json.ofDict, hnil, hnil']
  | cons s rest =>
    have hmem : (⟨s :: rest, leaf⟩ : Leaf) ∈ leaves data :=
      (mem_leaves_iff canonical).2 ⟨List.cons_ne_nil s rest, ends, hleaf⟩
    exact ((mem_leaves_iff canonical').1 ((same _).1 hmem)).2.1

/-- **The properties determine the document.** -/
theorem Plain.eq_of_flatten (plain : Plain data) (plain' : Plain data')
    (same : flatten data = flatten data') : data = data' := by
  have hleaves (l : Leaf) : l ∈ leaves data ↔ l ∈ leaves data' :=
    ⟨plain.leaves_subset plain' same, plain'.leaves_subset plain same.symm⟩
  have hsame : Json.SameLeaves (Json.ofDict data) (Json.ofDict data') := fun path leaf hleaf =>
    ⟨at?_of_leaves plain.canonical plain'.canonical hleaves hleaf,
      at?_of_leaves plain'.canonical plain.canonical (fun l => (hleaves l).symm) hleaf⟩
  have hobj := Json.eq_of_sameLeaves plain.canonical plain'.canonical hsame
  exact Dict.ext_get? fun key => congrArg (Entries.get? key) (Json.obj.inj hobj)

/-- **Flattening loses nothing of documents with plain keys.** No two of them have the same
properties, and each leaf has a name of its own. -/
theorem flatten_lossless :
    (∀ data data', Plain data → Plain data' → flatten data = flatten data' → data = data') ∧
    ∀ data, Plain data →
      (∀ l, l ∈ leaves data ↔
        l.path ≠ [] ∧ (Json.ofDict data).at? l.path = some l.value ∧ l.value.isLeaf = true) ∧
      (leaves data).Nodup ∧
      (∀ a ∈ leaves data, ∀ b ∈ leaves data, a ≠ b → nameOf a.path ≠ nameOf b.path) ∧
      (flatten data).size = (leaves data).length := by
  refine ⟨fun data data' plain plain' same => plain.eq_of_flatten plain' same, ?_⟩
  intro data plain
  refine ⟨fun l => mem_leaves_iff plain.canonical, ?_, ?_, plain.size_flatten⟩
  · exact List.Pairwise.of_map _ (fun a b ne same => ne (by rw [same])) plain.nodup_names
  · exact fun a ha b hb ne same => ne (plain.leaf_eq ha hb same)

/-- What the first document below has under the key `]`, and the second under the empty key. -/
def pair : Json := .arr [.num (.int 1), .obj [("0", .null)]]

theorem undotted_pair : pair.Undotted := by
  have hsecond : (Json.obj [("0", .null)]).Undotted :=
    .obj _ (by decide) (List.forall_mem_singleton.2 .null)
  exact .arr _ (by simp [Json.Undotted.num, hsecond])

/-- Empty keys, keys of a bracket or a digit, and leaves with nothing inside. -/
def nestedText : String :=
  "\x7b\"\": \x7b\"]\": [1, \x7b\"0\": null\x7d], \"a\": \x7b\x7d\x7d, \"x1\": []\x7d"

def nestedDocument : Dict Json where
  entries := [("", .obj [("]", pair), ("a", .obj [])]), ("x1", .arr [])]
  sorted := by
    unfold Entries.Ascending
    decide

theorem plain_nestedDocument : Plain nestedDocument where
  canonical := by
    have hparse : Json.parse? nestedText = some (Json.ofDict nestedDocument) := by decide +kernel
    exact Json.canonical_of_parse? hparse
  undotted := by
    have hfirst : (Json.obj [("]", pair), ("a", .obj [])]).Undotted :=
      .obj _ (by decide) (by simp [undotted_pair, Json.Undotted.obj])
    exact .obj _ (by decide) (by simp [nestedDocument, hfirst, Json.Undotted.arr])

/-- The same with the pair one level up. -/
def raisedText : String := "\x7b\"\": [1, \x7b\"0\": null\x7d], \"x1\": []\x7d"

def raisedDocument : Dict Json where
  entries := [("", pair), ("x1", .arr [])]
  sorted := by
    unfold Entries.Ascending
    decide

theorem plain_raisedDocument : Plain raisedDocument where
  canonical := by
    have hparse : Json.parse? raisedText = some (Json.ofDict raisedDocument) := by decide +kernel
    exact Json.canonical_of_parse? hparse
  undotted := .obj _ (by decide) (by simp [raisedDocument, undotted_pair, Json.Undotted.arr])

theorem flatten_lossless_nestedDocument :
    Plain nestedDocument ∧ Plain raisedDocument ∧
      (leaves nestedDocument).map (fun l => nameOf l.path) = [".][0]", ".][1].0", ".a", "x1"] ∧
      (flatten nestedDocument).size = 4 ∧
      flatten nestedDocument ≠ flatten raisedDocument := by
  obtain ⟨hinj, hleaves⟩ := flatten_lossless
  obtain ⟨-, -, -, hsize⟩ := hleaves nestedDocument plain_nestedDocument
  refine ⟨plain_nestedDocument, plain_raisedDocument, by decide, hsize, fun same => ?_⟩
  have heq := hinj nestedDocument raisedDocument plain_nestedDocument plain_raisedDocument same
  exact absurd heq (by decide)

end Properties

end SecretConfig
