import Mathlib.Data.List.Pairwise
import SecretConfig.Json.Document
import SecretConfig.Proofs.Property.Leaves

set_option autoImplicit false

/-! # Leaves with one name

The characters of a name are what the steps of the path add one after the other
(`Properties.toList_nameOf`): a point and the key of a member, or the place of an item in brackets.
Keys with points and brackets of their own can make two paths into one text. Where such paths part
they take two members of one object, and the key of one is the front of the key of the other
(`Properties.longerKey_of_before`): two places would end at the first closing bracket, and a key
stands before those that extend it. So the last of the leaves with one name, which is the one that
flattening keeps, has the longer key against every other one (`Properties.flatten_keeps_last`). -/

namespace SecretConfig.Properties

open Json (Segment Leaf Before)

/-! ## The characters of a name -/

/-- What a step adds to a name. -/
def segmentText : Segment → List Char
  | .member key => '.' :: key.toList
  | .item index => '[' :: ((toString index).toList ++ [']'])

theorem toList_extend (name : String) (s : Segment) :
    (extend name s).toList = name.toList ++ segmentText s := by
  cases s with
  | member key => simp [extend, memberName, segmentText, String.toList_append]
  | item index => simp [extend, itemName, segmentText, String.toList_append]

theorem toList_foldl_extend (name : String) (path : List Segment) :
    (path.foldl extend name).toList = name.toList ++ path.flatMap segmentText := by
  induction path generalizing name with
  | nil => simp
  | cons s rest ih => rw [List.foldl_cons, ih, toList_extend, List.flatMap_cons, List.append_assoc]

/-- Behind a point, a name is what the steps of its path add. -/
theorem toList_nameOf (key : String) (rest : List Segment) :
    '.' :: (nameOf (.member key :: rest)).toList =
      (Segment.member key :: rest).flatMap segmentText := by
  rw [nameOf, toList_foldl_extend, List.flatMap_cons, segmentText, List.cons_append]

/-- Two texts of one class of characters are the same if both end where the class does. -/
theorem front_inj {p : Char → Bool} {front front' tail tail' : List Char}
    (hfront : ∀ c ∈ front, p c = true) (hfront' : ∀ c ∈ front', p c = true)
    (htail : ∀ c ∈ tail.head?, p c = false) (htail' : ∀ c ∈ tail'.head?, p c = false)
    (same : front ++ tail = front' ++ tail') : front = front' ∧ tail = tail' := by
  have htake {l r : List Char} (hl : ∀ c ∈ l, p c = true) (hr : ∀ c ∈ r.head?, p c = false) :
      (l ++ r).takeWhile p = l := by
    have hstop : r.takeWhile p = [] := by
      cases r with
      | nil => rfl
      | cons c rest => exact List.takeWhile_cons_of_neg (by simp [hr c rfl])
    rw [List.takeWhile_append_of_pos hl, hstop, List.append_nil]
  have hsame : front = front' := by
    rw [← htake hfront htail, same, htake hfront' htail']
  subst hsame
  exact ⟨rfl, List.append_cancel_left same⟩

theorem isDigit_of_mem_toString {index : Nat} {c : Char} (h : c ∈ (toString index).toList) :
    c.isDigit = true := by
  rw [Nat.toString_eq_repr, Nat.toList_repr] at h
  exact Nat.isDigit_of_mem_toDigits (by decide) (by decide) h

/-- A place ends at the bracket behind it. -/
theorem index_inj {index index' : Nat} {tail tail' : List Char}
    (same : (toString index).toList ++ ']' :: tail = (toString index').toList ++ ']' :: tail') :
    index = index' ∧ tail = tail' := by
  have hbracket (rest : List Char) : ∀ c ∈ (']' :: rest).head?, c.isDigit = false := by
    intro c hc
    obtain rfl := Option.some.inj hc
    decide
  obtain ⟨hdigits, htail⟩ := front_inj (fun _ => isDigit_of_mem_toString)
    (fun _ => isDigit_of_mem_toString) (hbracket tail) (hbracket tail') same
  rw [Nat.toString_eq_repr, Nat.toString_eq_repr, Nat.toList_repr, Nat.toList_repr] at hdigits
  refine ⟨?_, (List.cons.inj htail).2⟩
  rw [← Nat.ofDigitChars_ten_toDigits (n := index), hdigits, Nat.ofDigitChars_ten_toDigits]

/-! ## Paths with one text -/

/-- Where the paths part they take members of one object, and the second takes the longer key. -/
inductive LongerKey : List Segment → List Segment → Prop
  | here {key key' : String} (longer : key.length < key'.length) (rest rest' : List Segment) :
    LongerKey (.member key :: rest) (.member key' :: rest')
  | deeper (s : Segment) {rest rest' : List Segment} (longer : LongerKey rest rest') :
    LongerKey (s :: rest) (s :: rest')

theorem LongerKey.asymm {p q : List Segment} (longer : LongerKey p q) : ¬ LongerKey q p := by
  induction longer with
  | here lt rest rest' =>
    intro h
    cases h with
    | here lt' => exact Nat.lt_asymm lt lt'
    | deeper => exact Nat.lt_irrefl _ lt
  | deeper s longer ih =>
    intro h
    cases h with
    | here lt' => exact Nat.lt_irrefl _ lt'
    | deeper _ longer' => exact ih longer'

/-- **Of two paths with one text, the later has the longer key.** -/
theorem longerKey_of_before {p q : List Segment} (before : Before p q)
    (same : p.flatMap segmentText = q.flatMap segmentText) : LongerKey p q := by
  induction before with
  | deeper s before ih =>
    rw [List.flatMap_cons, List.flatMap_cons, List.append_cancel_left_eq] at same
    exact .deeper s (ih same)
  | @item index index' lt rest rest' =>
    simp only [List.flatMap_cons, segmentText, List.cons_append, List.append_assoc,
      List.nil_append, List.cons.injEq, true_and] at same
    exact absurd (index_inj same).1 (Nat.ne_of_lt lt)
  | @member key key' lt rest rest' =>
    simp only [List.flatMap_cons, segmentText, List.cons_append, List.cons.injEq, true_and] at same
    refine .here ?_ rest rest'
    rcases List.append_eq_append_iff.1 same with ⟨more, hkey, -⟩ | ⟨more, hkey, -⟩
    · have hmore : more ≠ [] := by
        rintro rfl
        rw [List.append_nil] at hkey
        rw [String.toList_inj.1 hkey] at lt
        exact String.lt_irrefl key lt
      have hpos := List.length_pos_of_ne_nil hmore
      rw [← String.length_toList, ← String.length_toList, hkey, List.length_append]
      omega
    · -- a key does not stand before one that it extends
      have hprefix : key'.toList <+: key.toList := ⟨more, hkey.symm⟩
      exact absurd (show key.toList < key'.toList from lt) hprefix.le

/-! ## Leaves with one name -/

variable {data data' : Dict Json} {a b : Leaf} {name : String} {v : Json}

/-- Leaves with one name have paths with one text, also leaves of different documents. -/
theorem texts_of_name (ha : a ∈ leaves data) (hb : b ∈ leaves data')
    (same : nameOf a.path = nameOf b.path) :
    a.path.flatMap segmentText = b.path.flatMap segmentText := by
  obtain ⟨key, rest, ha⟩ := path_of_mem_leaves ha
  obtain ⟨key', rest', hb⟩ := path_of_mem_leaves hb
  rw [ha, hb] at same ⊢
  rw [← toList_nameOf, ← toList_nameOf, same]

/-- One of two leaves stands before the other. -/
theorem before_or (canonical : (Json.ofDict data).Canonical) (ha : a ∈ leaves data)
    (hb : b ∈ leaves data) (ne : a ≠ b) : Before a.path b.path ∨ Before b.path a.path := by
  have hordered : (leaves data).Pairwise fun a b => Before a.path b.path ∨ Before b.path a.path :=
    (leaves_ascending canonical).imp .inl
  have : Std.Symm fun a b : Leaf => Before a.path b.path ∨ Before b.path a.path :=
    ⟨fun _ _ => Or.symm⟩
  exact hordered.forall ha hb ne

/-- Of two leaves with one name, the later is the one with the longer key. -/
theorem before_iff_longerKey (canonical : (Json.ofDict data).Canonical) (ha : a ∈ leaves data)
    (hb : b ∈ leaves data) (same : nameOf a.path = nameOf b.path) (ne : a ≠ b) :
    Before a.path b.path ↔ LongerKey a.path b.path := by
  have htexts := texts_of_name ha hb same
  refine ⟨fun before => longerKey_of_before before htexts, fun longer => ?_⟩
  refine (before_or canonical ha hb ne).resolve_right fun before => ?_
  exact longer.asymm (longerKey_of_before before htexts.symm)

/-- The leaf that has the longer key against all others of its name is the one that stays. -/
theorem get?_flatten_eq_some_iff (canonical : (Json.ofDict data).Canonical) :
    (flatten data).get? name = some v ↔ ∃ w ∈ leaves data, nameOf w.path = name ∧ w.value = v ∧
      ∀ l ∈ leaves data, nameOf l.path = name → l ≠ w → LongerKey l.path w.path := by
  rw [flatten_eq, Dict.get?_ofList_map_eq_some_iff (leaves_ascending canonical)
    fun _ _ => Before.asymm]
  refine exists_congr fun w => and_congr_right fun hw => and_congr_right fun hname =>
    and_congr_right fun _ => forall₂_congr fun l hl => forall₂_congr fun hlname ne => ?_
  exact before_iff_longerKey canonical hl hw (hlname.trans hname.symm) ne

/-- **Flattening keeps the last leaf of each name, and adds nothing.** The leaves are listed by
ascending path; of two leaves with one name the later is the one with the longer key where their
paths part. -/
theorem flatten_keeps_last (data : Dict Json) (canonical : (Json.ofDict data).Canonical) :
    (∀ l, l ∈ leaves data ↔
      l.path ≠ [] ∧ (Json.ofDict data).at? l.path = some l.value ∧ l.value.isLeaf = true) ∧
    ((leaves data).Pairwise fun a b => Before a.path b.path) ∧
    (∀ name, name ∈ (flatten data).keys ↔ ∃ l ∈ leaves data, nameOf l.path = name) ∧
    (∀ name, (flatten data).get? name =
      ((leaves data).filter fun l => nameOf l.path = name).getLast?.map Leaf.value) ∧
    (∀ a ∈ leaves data, ∀ b ∈ leaves data, nameOf a.path = nameOf b.path → a ≠ b →
      LongerKey a.path b.path ∨ LongerKey b.path a.path) ∧
    ∀ name v, (flatten data).get? name = some v ↔
      ∃ w ∈ leaves data, nameOf w.path = name ∧ w.value = v ∧
        ∀ l ∈ leaves data, nameOf l.path = name → l ≠ w → LongerKey l.path w.path := by
  refine ⟨fun l => mem_leaves_iff canonical, leaves_ascending canonical,
    fun name => mem_keys_flatten, get?_flatten data, ?_,
    fun name v => get?_flatten_eq_some_iff canonical⟩
  intro a ha b hb same ne
  rcases before_or canonical ha hb ne with before | before
  · exact .inl ((before_iff_longerKey canonical ha hb same ne).1 before)
  · exact .inr ((before_iff_longerKey canonical hb ha same.symm ne.symm).1 before)

/-- Members, items and keys with points and brackets that come to the same names. -/
def dottedText : String :=
  "\x7b\"list[0]\": 2, \"list\": [null, true], " ++
    "\"a.b\": \x7b\"c\": \"y\"\x7d, \"a\": \x7b\"b.c\": \"x\", \"b\": 1\x7d\x7d"

def dottedDocument : Dict Json where
  entries :=
    [("a", .obj [("b", .num (.int 1)), ("b.c", .str "x")]), ("a.b", .obj [("c", .str "y")]),
     ("list", .arr [.null, .bool true]), ("list[0]", .num (.int 2))]
  sorted := by
    unfold Entries.Ascending
    decide

theorem flatten_keeps_last_dottedDocument :
    Json.parse? dottedText = some (Json.ofDict dottedDocument) ∧
      (leaves dottedDocument).map (fun l => nameOf l.path) =
        ["a.b", "a.b.c", "a.b.c", "list[0]", "list[1]", "list[0]"] ∧
      (flatten dottedDocument).get? "a.b.c" = some (.str "y") ∧
      (flatten dottedDocument).get? "list[0]" = some (.num (.int 2)) := by
  have hparse : Json.parse? dottedText = some (Json.ofDict dottedDocument) := by decide +kernel
  obtain ⟨-, -, -, hlast, -, -⟩ :=
    flatten_keeps_last dottedDocument (Json.canonical_of_parse? hparse)
  refine ⟨hparse, by decide, ?_, ?_⟩
  · rw [hlast]
    decide
  · rw [hlast]
    decide

end SecretConfig.Properties
