import Mathlib.Logic.Equiv.Defs
import SecretConfig.Proofs.Aggregation.Precedence

set_option autoImplicit false

/-! # What merged layers hold

Merging sorts the layers by order and keeps layers of one order as they stand. Sorting the layers
together with their places shows the same (`Layer.map_placed`): by order, and by place where orders
are the same. So the value of a key is that of the layer that governs it, the greatest by order and
place of those that have the key (`Layer.get?_merge_iff`). What governs a key does not depend on
where layers of different orders stand, nor on layers without properties
(`Layer.merge_of_places`). -/

namespace SecretConfig.Layer

variable {ls ls' : List Layer} {l l' : Layer} {index index' : Nat} {key : String} {v : Json}

/-! ## Order and place -/

/-- The first layer is of a lower order, or of the same order and stands no later. -/
def AtMost (a b : Layer × Nat) : Prop :=
  a.1.order < b.1.order ∨ a.1.order = b.1.order ∧ a.2 ≤ b.2

theorem AtMost.place_eq {a b : Layer × Nat} (h : AtMost a b) (h' : AtMost b a) : a.2 = b.2 := by
  unfold AtMost at h h'
  rw [Int32.lt_iff_toInt_lt, ← Int32.toInt_inj] at h h'
  omega

/-- Layers with their places are sorted by order and place. -/
theorem atMost_iff {a b : Layer × Nat} :
    AtMost a b ↔ List.zipIdxLE (fun a b => decide (a.order.toInt ≤ b.order.toInt)) a b = true := by
  unfold AtMost List.zipIdxLE
  rw [Int32.lt_iff_toInt_lt, ← Int32.toInt_inj]
  by_cases hle : a.1.order.toInt ≤ b.1.order.toInt
  · by_cases hge : b.1.order.toInt ≤ a.1.order.toInt
    · have heq := Int.le_antisymm hle hge
      simp [heq]
    · simp only [hle, hge, decide_true, decide_false, if_true, Bool.false_eq_true, if_false,
        iff_true]
      omega
  · simp only [hle, decide_false, Bool.false_eq_true, if_false, iff_false]
    omega

/-- The layers with their places, by order and place. -/
def placed (ls : List Layer) : List (Layer × Nat) :=
  ls.zipIdx.mergeSort (List.zipIdxLE fun a b => decide (a.order.toInt ≤ b.order.toInt))

theorem map_placed (ls : List Layer) : (placed ls).map Prod.fst = sorted ls :=
  List.mergeSort_zipIdx

theorem mem_placed {p : Layer × Nat} : p ∈ placed ls ↔ ls[p.2]? = some p.1 := by
  rw [placed, List.mem_mergeSort, List.mem_zipIdx_iff_getElem?]

theorem placed_ascending (ls : List Layer) : (placed ls).Pairwise AtMost := by
  have hsorted := List.pairwise_mergeSort (List.zipIdxLE_trans order_trans)
    (List.zipIdxLE_total order_total) ls.zipIdx
  exact hsorted.imp atMost_iff.2

/-! ## The layer that governs a key -/

/-- The layer at the place has the key, and it is the greatest of those that have it. -/
structure Governs (ls : List Layer) (key : String) (index : Nat) (l : Layer) : Prop where
  stands : ls[index]? = some l
  holds : key ∈ l.properties.keys
  greatest : ∀ (index' : Nat) l', ls[index']? = some l' → key ∈ l'.properties.keys →
    AtMost (l', index') (l, index)

theorem Governs.unique (h : Governs ls key index l) (h' : Governs ls key index' l') : l = l' := by
  have hplace : index' = index :=
    (h.greatest index' l' h'.stands h'.holds).place_eq (h'.greatest index l h.stands h.holds)
  have hstands := h'.stands
  rw [hplace, h.stands] at hstands
  exact Option.some.inj hstands

theorem get?_merge_placed (ls : List Layer) (key : String) :
    (merge ls).get? key = (placed ls).reverse.findSome? fun p => p.1.properties.get? key := by
  rw [merge, get?_foldl_union, Dict.get?_empty, Option.or_none, ← map_placed,
    List.filterMap_map, List.getLast?_filterMap]
  rfl

/-- **The merged keys are those of the layers.** -/
theorem mem_keys_merge : key ∈ (merge ls).keys ↔ ∃ l ∈ ls, key ∈ l.properties.keys := by
  simp only [Dict.mem_keys_iff, get?_merge_placed, List.findSome?_isSome_iff, List.mem_reverse,
    mem_placed]
  constructor
  · rintro ⟨p, hp, h⟩
    exact ⟨p.1, List.mem_of_getElem? hp, h⟩
  · rintro ⟨l, hl, h⟩
    obtain ⟨index, hindex⟩ := List.getElem?_of_mem hl
    exact ⟨(l, index), hindex, h⟩

theorem governs_of_get?_merge (h : (merge ls).get? key = some v) :
    ∃ index l, Governs ls key index l ∧ l.properties.get? key = some v := by
  rw [get?_merge_placed, List.findSome?_eq_some_iff] at h
  obtain ⟨after, p, before, hplaced, hv, hnone⟩ := h
  have hmem (q : Layer × Nat) : q ∈ after ++ p :: before ↔ ls[q.2]? = some q.1 := by
    rw [← hplaced, List.mem_reverse, mem_placed]
  have hsorted : (after ++ p :: before).Pairwise fun a b => AtMost b a := by
    rw [← hplaced, List.pairwise_reverse]
    exact placed_ascending ls
  have hstands : ls[p.2]? = some p.1 := (hmem p).1 (List.mem_append_right _ List.mem_cons_self)
  have hkey : key ∈ p.1.properties.keys := Dict.mem_keys_iff.2 (Option.isSome_of_eq_some hv)
  refine ⟨p.2, p.1, ⟨hstands, hkey, fun index' l' hl' hholds => ?_⟩, hv⟩
  rcases List.mem_append.1 ((hmem (l', index')).2 hl') with hafter | hrest
  · -- what is greater does not have the key
    rw [Dict.mem_keys_iff, hnone _ hafter] at hholds
    exact nomatch hholds
  · rcases List.mem_cons.1 hrest with heq | hbefore
    · rw [heq]
      exact .inr ⟨rfl, Nat.le_refl _⟩
    · exact (List.pairwise_cons.1 (List.pairwise_append.1 hsorted).2.1).1 _ hbefore

/-- **The merged value of a key is that of the layer that governs it.** -/
theorem get?_merge_iff : (merge ls).get? key = some v ↔
    ∃ index l, Governs ls key index l ∧ l.properties.get? key = some v := by
  refine ⟨governs_of_get?_merge, ?_⟩
  rintro ⟨index, l, governs, hv⟩
  have hkey := mem_keys_merge.2 ⟨l, List.mem_of_getElem? governs.stands, governs.holds⟩
  obtain ⟨v', hv'⟩ := Option.isSome_iff_exists.1 (Dict.mem_keys_iff.1 hkey)
  obtain ⟨index', l', governs', hl'⟩ := governs_of_get?_merge hv'
  rw [hv', ← hl', ← governs.unique governs', hv]

/-! ## Layers in other places -/

/-- Layers that are moved are merged to the same, if layers of one order keep their order and all
that is new does not have the key. -/
theorem get?_merge_of_places (place : Nat → Nat)
    (stands : ∀ index l, ls[index]? = some l → ls'[place index]? = some l)
    (keeps : ∀ index index' l l', ls[index]? = some l → ls[index']? = some l' → index < index' →
      l.order = l'.order → place index < place index')
    (covers : ∀ index' l, ls'[index']? = some l → key ∈ l.properties.keys →
      ∃ index, ls[index]? = some l ∧ place index = index') :
    (merge ls').get? key = (merge ls).get? key := by
  cases hv : (merge ls).get? key with
  | some v =>
    obtain ⟨index, l, governs, hl⟩ := get?_merge_iff.1 hv
    refine get?_merge_iff.2 ⟨place index, l, ⟨stands _ _ governs.stands, governs.holds, ?_⟩, hl⟩
    intro index' l' hl' hholds
    obtain ⟨old, hold, rfl⟩ := covers index' l' hl' hholds
    rcases governs.greatest old l' hold hholds with hlt | ⟨heq, hle⟩
    · exact .inl hlt
    · refine .inr ⟨heq, ?_⟩
      rcases Nat.lt_or_eq_of_le hle with hlt | rfl
      · exact Nat.le_of_lt (keeps _ _ _ _ hold governs.stands hlt heq)
      · exact Nat.le_refl _
  | none =>
    refine Option.eq_none_iff_forall_ne_some.2 fun v hv' => ?_
    have hkey : key ∈ (merge ls').keys := Dict.mem_keys_iff.2 (Option.isSome_of_eq_some hv')
    obtain ⟨l, hl, hholds⟩ := mem_keys_merge.1 hkey
    obtain ⟨index', hindex'⟩ := List.getElem?_of_mem hl
    obtain ⟨index, hindex, -⟩ := covers index' l hindex' hholds
    have hmerged := mem_keys_merge.2 ⟨l, List.mem_of_getElem? hindex, hholds⟩
    rw [Dict.mem_keys_iff, hv] at hmerged
    exact nomatch hmerged

theorem merge_rearranged (places : Fin ls.length ≃ Fin ls'.length)
    (same : ∀ i, ls'[places i] = ls[i])
    (keeps : ∀ i j, i < j → ls[i].order = ls[j].order → places i < places j) :
    merge ls' = merge ls := by
  refine Dict.ext_get? fun key => ?_
  refine get?_merge_of_places
    (fun index => if h : index < ls.length then places ⟨index, h⟩ else index) ?_ ?_ ?_
  · intro index l hl
    obtain ⟨h, rfl⟩ := List.getElem?_eq_some_iff.1 hl
    rw [dif_pos h, List.getElem?_eq_some_iff]
    exact ⟨(places ⟨index, h⟩).isLt, same ⟨index, h⟩⟩
  · intro index index' l l' hl hl' hlt horder
    obtain ⟨h, rfl⟩ := List.getElem?_eq_some_iff.1 hl
    obtain ⟨h', rfl⟩ := List.getElem?_eq_some_iff.1 hl'
    rw [dif_pos h, dif_pos h']
    exact keeps ⟨index, h⟩ ⟨index', h'⟩ hlt horder
  · intro index' l hl _
    obtain ⟨h', rfl⟩ := List.getElem?_eq_some_iff.1 hl
    obtain ⟨i, hi⟩ := places.surjective ⟨index', h'⟩
    obtain rfl : (places i : Nat) = index' := congrArg Fin.val hi
    refine ⟨i, ?_, dif_pos i.isLt⟩
    rw [List.getElem?_eq_getElem i.isLt]
    exact congrArg some (same i).symm

/-- Where an element stands once another has been put in. -/
def shift (place index : Nat) : Nat := if index < place then index else index + 1

theorem shift_lt_shift (place : Nat) (lt : index < index') :
    shift place index < shift place index' := by
  unfold shift
  split <;> split <;> omega

theorem exists_shift_eq {place : Nat} (ne : index' ≠ place) : ∃ index, shift place index = index' := by
  unfold shift
  rcases Nat.lt_or_gt_of_ne ne with hlt | hgt
  · exact ⟨index', if_pos hlt⟩
  · refine ⟨index' - 1, ?_⟩
    rw [if_neg (by omega)]
    omega

theorem getElem?_shift (before after : List Layer) (index : Nat) :
    (before ++ l :: after)[shift before.length index]? = (before ++ after)[index]? := by
  unfold shift
  split
  · rename_i h
    rw [List.getElem?_append_left h, List.getElem?_append_left h]
  · rename_i h
    rw [List.getElem?_append_right (by omega), List.getElem?_append_right (by omega),
      Nat.succ_sub (Nat.le_of_not_lt h), List.getElem?_cons_succ]

/-- A layer without properties can be put anywhere. -/
theorem merge_vacant (vacant : l.isVacant = true) (before after : List Layer) :
    merge (before ++ l :: after) = merge (before ++ after) := by
  refine Dict.ext_get? fun key => ?_
  refine get?_merge_of_places (shift before.length) ?_ ?_ ?_
  · intro index l' hl'
    rwa [getElem?_shift]
  · intro index index' l' l'' _ _ hlt _
    exact shift_lt_shift _ hlt
  · intro index' l' hl' hholds
    have hne : index' ≠ before.length := by
      rintro rfl
      rw [List.getElem?_append_right (Nat.le_refl _), Nat.sub_self] at hl'
      obtain rfl := Option.some.inj hl'
      have hnil : l.properties.entries = [] := List.isEmpty_iff.1 vacant
      simp [Dict.keys, hnil] at hholds
    obtain ⟨index, rfl⟩ := exists_shift_eq hne
    exact ⟨index, by rwa [getElem?_shift] at hl', rfl⟩

/-- **Merging is by order, and by place among equals.** A merged key has the value of the layer that
governs it; layers of different orders can change places, and layers without properties can come and
go. -/
theorem merge_precedence (ls : List Layer) :
    (∀ key, key ∈ (merge ls).keys ↔ ∃ l ∈ ls, key ∈ l.properties.keys) ∧
    (∀ key v, (merge ls).get? key = some v ↔
      ∃ index l, Governs ls key index l ∧ l.properties.get? key = some v) ∧
    (∀ (ls' : List Layer) (places : Fin ls.length ≃ Fin ls'.length),
      (∀ i, ls'[places i] = ls[i]) →
      (∀ i j, i < j → ls[i].order = ls[j].order → places i < places j) →
      merge ls' = merge ls) ∧
    ∀ before after l, before ++ after = ls → l.isVacant = true →
      merge (before ++ l :: after) = merge ls := by
  refine ⟨fun key => mem_keys_merge, fun key v => get?_merge_iff,
    fun ls' places same keeps => merge_rearranged places same keeps, ?_⟩
  rintro before after l rfl vacant
  exact merge_vacant vacant before after

/-- A layer above two of one order. -/
def mixedLayers : List Layer :=
  [⟨"vault", 1, Dict.ofList [("url", .str "v")], none⟩,
    ⟨"base", 0, Dict.ofList [("url", .str "b"), ("user", .str "b")], none⟩,
    ⟨"team", 0, Dict.ofList [("user", .str "t")], none⟩]

def turnedLayers : List Layer :=
  [⟨"base", 0, Dict.ofList [("url", .str "b"), ("user", .str "b")], none⟩,
    ⟨"team", 0, Dict.ofList [("user", .str "t")], none⟩,
    ⟨"vault", 1, Dict.ofList [("url", .str "v")], none⟩]

/-- Where the mixed layers stand after the turn. -/
def turn : Fin 3 ≃ Fin 3 where
  toFun := fun i => i + 2
  invFun := fun i => i + 1
  left_inv := show ∀ i : Fin 3, i + 2 + 1 = i by decide
  right_inv := show ∀ i : Fin 3, i + 1 + 2 = i by decide

theorem merge_precedence_mixedLayers :
    merge turnedLayers = merge mixedLayers ∧
      merge (turnedLayers ++ [vacant "aws" 7]) = merge turnedLayers ∧
      (merge mixedLayers).get? "url" = some (.str "v") ∧
      (merge mixedLayers).get? "user" = some (.str "t") := by
  obtain ⟨-, -, hturn, -⟩ := merge_precedence mixedLayers
  obtain ⟨-, -, -, hvacant⟩ := merge_precedence turnedLayers
  have hmerge : merge turnedLayers = merge mixedLayers :=
    hturn turnedLayers turn (by decide) (by decide)
  have ascending : turnedLayers.Pairwise fun a b => a.order ≤ b.order := by decide
  refine ⟨hmerge, hvacant turnedLayers [] _ (List.append_nil _) rfl, ?_, ?_⟩
  · rw [← hmerge, get?_merge ascending]
    decide
  · rw [← hmerge, get?_merge ascending]
    decide

end SecretConfig.Layer
