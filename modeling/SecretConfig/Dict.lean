set_option autoImplicit false

/-! # Finite maps with text keys in ascending order

A `Dict α` lists its entries by strictly ascending key, so two dictionaries with the
same look-ups are equal. The same operations on bare entry lists serve types that
cannot carry the order proof in a field.

Main statements: `Dict.get?_insert` says what a write does to every look-up,
`Dict.get?_ofList` what a list of writes does, and `Dict.ext_get?` says that look-ups
determine a dictionary. -/

namespace SecretConfig

/-! ## Entry lists -/

namespace Entries

variable {α β : Type}

/-- Put a value under a key of an ascending list, replacing the value it had. -/
def insert (key : String) (value : α) : List (String × α) → List (String × α)
  | [] => [(key, value)]
  | (k, v) :: rest =>
    if key < k then (key, value) :: (k, v) :: rest
    else if key = k then (key, value) :: rest
    else (k, v) :: insert key value rest

/-- The value under a key. -/
def get? (key : String) : List (String × α) → Option α
  | [] => none
  | (k, v) :: rest => if k = key then some v else get? key rest

/-- Insert the pairs of a list from left to right: of two values for one key the later stays. -/
def ofPairs (pairs : List (String × α)) : List (String × α) :=
  pairs.foldl (fun acc p => insert p.1 p.2 acc) []

/-- The keys of the list ascend strictly. -/
def Ascending (entries : List (String × α)) : Prop :=
  entries.Pairwise (fun a b => a.1 < b.1)

theorem mem_insert {key : String} {value : α} {entries : List (String × α)} {e : String × α}
    (h : e ∈ insert key value entries) : e = (key, value) ∨ e ∈ entries := by
  induction entries with
  | nil => simpa [insert] using h
  | cons head rest ih =>
    obtain ⟨k, v⟩ := head
    rw [insert] at h
    split at h
    · simpa using h
    · split at h
      · rcases List.mem_cons.1 h with h | h
        · exact .inl h
        · exact .inr (List.mem_cons_of_mem _ h)
      · rcases List.mem_cons.1 h with h | h
        · exact .inr (h ▸ List.mem_cons_self)
        · exact (ih h).imp_right (List.mem_cons_of_mem _)

theorem Ascending.insert {entries : List (String × α)} (h : Ascending entries)
    (key : String) (value : α) : Ascending (Entries.insert key value entries) := by
  induction entries with
  | nil => simp [Entries.insert, Ascending]
  | cons head rest ih =>
    obtain ⟨k, v⟩ := head
    have hrest := (List.pairwise_cons.1 h).2
    have hhead := (List.pairwise_cons.1 h).1
    rw [Entries.insert]
    split
    · rename_i hlt
      refine List.pairwise_cons.2 ⟨fun e he => ?_, h⟩
      rcases List.mem_cons.1 he with he | he
      · exact he ▸ hlt
      · exact String.lt_trans hlt (hhead e he)
    · rename_i hlt
      split
      · rename_i heq
        subst heq
        exact List.pairwise_cons.2 ⟨hhead, hrest⟩
      · rename_i hne
        refine List.pairwise_cons.2 ⟨fun e he => ?_, ih hrest⟩
        rcases mem_insert he with he | he
        · subst he
          refine Decidable.byContradiction fun hk => ?_
          exact hne (String.le_antisymm (String.not_lt.1 hk) (String.not_lt.1 hlt))
        · exact hhead e he

theorem get?_insert (key : String) (value : α) (entries : List (String × α)) (k : String) :
    get? k (insert key value entries) = if k = key then some value else get? k entries := by
  induction entries with
  | nil => simp only [insert, get?, eq_comm]
  | cons head rest ih =>
    obtain ⟨k', v'⟩ := head
    rw [insert]
    split
    · simp only [get?, @eq_comm _ k key]
    · split
      · rename_i heq
        subst heq
        by_cases hk : k = key
        · simp [get?, hk]
        · simp [get?, hk, Ne.symm hk]
      · rename_i hne
        by_cases hk : k' = k
        · subst hk
          simp [get?, Ne.symm hne]
        · simp [get?, hk, ih]

theorem Ascending.ofPairs (pairs : List (String × α)) : Ascending (Entries.ofPairs pairs) := by
  suffices ∀ acc : List (String × α), Ascending acc →
      Ascending (pairs.foldl (fun acc p => Entries.insert p.1 p.2 acc) acc) from
    this [] List.Pairwise.nil
  induction pairs with
  | nil => exact fun _ h => h
  | cons p rest ih => exact fun acc h => ih _ (h.insert p.1 p.2)

/-- Each entry is one of the pairs that were put in. -/
theorem mem_ofPairs {pairs : List (String × α)} {e : String × α} (h : e ∈ ofPairs pairs) :
    e ∈ pairs := by
  suffices ∀ acc : List (String × α),
      e ∈ pairs.foldl (fun acc p => insert p.1 p.2 acc) acc → e ∈ acc ∨ e ∈ pairs from
    (this [] h).resolve_left List.not_mem_nil
  clear h
  induction pairs with
  | nil => exact fun acc h => .inl h
  | cons p rest ih =>
    intro acc h
    rcases ih _ h with h | h
    · rcases mem_insert h with rfl | h
      · exact .inr List.mem_cons_self
      · exact .inl h
    · exact .inr (List.mem_cons_of_mem _ h)

theorem get?_eq_none {entries : List (String × α)} {k : String}
    (h : ∀ e ∈ entries, k < e.1) : get? k entries = none := by
  induction entries with
  | nil => rfl
  | cons head rest ih =>
    obtain ⟨k', v'⟩ := head
    have hk : k' ≠ k := fun heq => by
      have := h (k', v') List.mem_cons_self
      exact String.lt_irrefl k (heq ▸ this)
    simp only [get?, hk, if_false]
    exact ih fun e he => h e (List.mem_cons_of_mem _ he)

theorem map_insert (f : α → β) (key : String) (value : α) (entries : List (String × α)) :
    (insert key value entries).map (fun e => (e.1, f e.2)) =
      insert key (f value) (entries.map fun e => (e.1, f e.2)) := by
  induction entries with
  | nil => rfl
  | cons head rest ih =>
    obtain ⟨k, v⟩ := head
    by_cases hlt : key < k
    · simp [insert, hlt]
    · by_cases heq : key = k
      · simp [insert, heq]
      · simp [insert, hlt, heq, ih]

/-- To change the values of an entry list is to change them in the pairs that it is made of. -/
theorem map_ofPairs (f : α → β) (pairs : List (String × α)) :
    (ofPairs pairs).map (fun e => (e.1, f e.2)) =
      ofPairs (pairs.map fun p => (p.1, f p.2)) := by
  suffices ∀ acc : List (String × α),
      (pairs.foldl (fun acc p => insert p.1 p.2 acc) acc).map (fun e => (e.1, f e.2)) =
        (pairs.map fun p => (p.1, f p.2)).foldl (fun acc p => insert p.1 p.2 acc)
          (acc.map fun e => (e.1, f e.2)) from this []
  induction pairs with
  | nil => exact fun _ => rfl
  | cons p rest ih =>
    intro acc
    rw [List.foldl_cons, ih, map_insert, List.map_cons, List.foldl_cons]

theorem get?_map_const (entries : List (String × α)) (b : β) (k : String) :
    get? k (entries.map fun e => (e.1, b)) = if k ∈ entries.map Prod.fst then some b else none := by
  induction entries with
  | nil => rfl
  | cons head rest ih =>
    obtain ⟨k', v⟩ := head
    by_cases hk : k' = k
    · simp [get?, hk]
    · have hmem : k ∈ ((k', v) :: rest).map Prod.fst ↔ k ∈ rest.map Prod.fst := by
        simp [Ne.symm hk]
      rw [List.map_cons, get?, if_neg hk, ih]
      simp only [hmem]

/-- In an ascending list a pair is found under its key. -/
theorem Ascending.get?_eq_some_iff {entries : List (String × α)} (h : Ascending entries)
    {k : String} {v : α} : get? k entries = some v ↔ (k, v) ∈ entries := by
  induction entries with
  | nil => simp [get?]
  | cons head rest ih =>
    obtain ⟨k', v'⟩ := head
    obtain ⟨hhead, hrest⟩ := List.pairwise_cons.1 h
    by_cases hk : k' = k
    · subst hk
      have hnot : (k', v) ∉ rest := fun hmem => String.lt_irrefl k' (hhead _ hmem)
      simp [get?, hnot, eq_comm]
    · simp [get?, hk, Ne.symm hk, ih hrest]

/-- Ascending lists with the same look-ups are the same list. -/
theorem Ascending.ext {l₁ l₂ : List (String × α)} (h₁ : Ascending l₁) (h₂ : Ascending l₂)
    (h : ∀ k, get? k l₁ = get? k l₂) : l₁ = l₂ := by
  induction l₁ generalizing l₂ with
  | nil =>
    cases l₂ with
    | nil => rfl
    | cons e _ => simpa [get?] using h e.1
  | cons e₁ r₁ ih =>
    cases l₂ with
    | nil => simpa [get?] using h e₁.1
    | cons e₂ r₂ =>
      obtain ⟨k₁, v₁⟩ := e₁
      obtain ⟨k₂, v₂⟩ := e₂
      have a₁ := List.pairwise_cons.1 h₁
      have a₂ := List.pairwise_cons.1 h₂
      have hk : k₁ = k₂ := by
        refine String.le_antisymm (String.not_lt.1 fun hlt => ?_) (String.not_lt.1 fun hlt => ?_)
        · have hnone : get? k₂ ((k₁, v₁) :: r₁) = none := by
            refine get?_eq_none fun e he => ?_
            rcases List.mem_cons.1 he with he | he
            · exact he ▸ hlt
            · exact String.lt_trans hlt (a₁.1 e he)
          have := h k₂
          rw [hnone] at this
          simp [get?] at this
        · have hnone : get? k₁ ((k₂, v₂) :: r₂) = none := by
            refine get?_eq_none fun e he => ?_
            rcases List.mem_cons.1 he with he | he
            · exact he ▸ hlt
            · exact String.lt_trans hlt (a₂.1 e he)
          have := h k₁
          rw [hnone] at this
          simp [get?] at this
      subst hk
      have hv : v₁ = v₂ := by simpa [get?] using h k₁
      subst hv
      have hr : r₁ = r₂ := by
        refine ih a₁.2 a₂.2 fun k => ?_
        by_cases hk : k₁ = k
        · subst hk
          rw [get?_eq_none a₁.1, get?_eq_none a₂.1]
        · simpa [get?, hk] using h k
      rw [hr]

/-- A fresh key adds one entry. -/
theorem insert_perm {key : String} {entries : List (String × α)} (value : α)
    (fresh : key ∉ entries.map Prod.fst) :
    (insert key value entries).Perm ((key, value) :: entries) := by
  induction entries with
  | nil => exact .refl _
  | cons head rest ih =>
    obtain ⟨k, v⟩ := head
    have hne : key ≠ k := fun h => fresh (h ▸ List.mem_cons_self)
    have hrest : key ∉ rest.map Prod.fst := fun h => fresh (List.mem_cons_of_mem _ h)
    rw [insert]
    split
    · exact .refl _
    · exact ((ih hrest).cons (k, v)).trans (.swap _ _ _)

/-- With one pair for each key, the entries are the pairs in another order. -/
theorem ofPairs_perm {pairs : List (String × α)} (nodup : (pairs.map Prod.fst).Nodup) :
    (ofPairs pairs).Perm pairs := by
  suffices ∀ acc : List (String × α), ((acc ++ pairs).map Prod.fst).Nodup →
      (pairs.foldl (fun acc p => insert p.1 p.2 acc) acc).Perm (acc ++ pairs) from this [] nodup
  clear nodup
  induction pairs with
  | nil =>
    intro acc _
    rw [List.append_nil]
    exact .refl _
  | cons p rest ih =>
    intro acc hnodup
    have hmoved : (acc ++ p :: rest).Perm ((p :: acc) ++ rest) := List.perm_middle
    have hcons := (hmoved.map Prod.fst).nodup_iff.1 hnodup
    have hfresh : p.1 ∉ acc.map Prod.fst := by
      intro hp
      rw [List.cons_append, List.map_cons, List.map_append] at hcons
      exact (List.nodup_cons.1 hcons).1 (List.mem_append_left _ hp)
    have hinsert := insert_perm p.2 hfresh
    have hnodup' : ((insert p.1 p.2 acc ++ rest).map Prod.fst).Nodup :=
      ((hinsert.append_right rest).map Prod.fst).nodup_iff.2 hcons
    exact (ih _ hnodup').trans ((hinsert.append_right rest).trans hmoved.symm)

theorem Ascending.nodup_keys {entries : List (String × α)} (h : Ascending entries) :
    (entries.map Prod.fst).Nodup := by
  refine List.pairwise_map.2 (h.imp fun {a b} hlt heq => ?_)
  rw [heq] at hlt
  exact String.lt_irrefl _ hlt

/-- An ascending list is the entry list of its pairs. -/
theorem Ascending.ofPairs_eq {entries : List (String × α)} (h : Ascending entries) :
    Entries.ofPairs entries = entries := by
  refine (ofPairs_perm h.nodup_keys).eq_of_pairwise ?_ (Ascending.ofPairs entries) h
  intro a b _ _ hab hba
  exact absurd hba (String.lt_asymm hab)

end Entries

/-- In an ordered list, the last element of a kind is the one that all others of the kind stand
before. -/
theorem getLast?_filter_eq_some_iff {α : Type} {R : α → α → Prop} {l : List α} {p : α → Bool}
    {w : α} (ordered : l.Pairwise R) (asymm : ∀ a b, R a b → ¬ R b a) :
    (l.filter p).getLast? = some w ↔
      w ∈ l ∧ p w = true ∧ ∀ a ∈ l, p a = true → a ≠ w → R a w := by
  have hordered := ordered.filter p
  have hlast {last : α} (h : (l.filter p).getLast? = some last) :
      ∀ a ∈ l, p a = true → a ≠ last → R a last := by
    intro a ha hp hne
    obtain ⟨front, hfront⟩ := List.getLast?_eq_some_iff.1 h
    have hmem : a ∈ l.filter p := List.mem_filter.2 ⟨ha, hp⟩
    rw [hfront] at hmem hordered
    have hbefore : a ∈ front :=
      (List.mem_append.1 hmem).resolve_right fun h => hne (List.mem_singleton.1 h)
    exact (List.pairwise_append.1 hordered).2.2 a hbefore last (List.mem_singleton_self last)
  constructor
  · intro h
    obtain ⟨hmem, hp⟩ := List.mem_filter.1 (List.mem_of_getLast? h)
    exact ⟨hmem, hp, hlast h⟩
  · rintro ⟨hmem, hp, hw⟩
    cases h : (l.filter p).getLast? with
    | none =>
      have hkept : w ∈ l.filter p := List.mem_filter.2 ⟨hmem, hp⟩
      rw [List.getLast?_eq_none_iff.1 h] at hkept
      exact nomatch hkept
    | some last =>
      obtain ⟨hmem', hp'⟩ := List.mem_filter.1 (List.mem_of_getLast? h)
      by_cases heq : last = w
      · rw [heq]
      · exact absurd (hlast h w hmem hp (Ne.symm heq)) (asymm _ _ (hw last hmem' hp' heq))

/-! ## Dictionaries -/

/-- A finite map from text to `α`, its entries listed by ascending key. -/
structure Dict (α : Type) where
  entries : List (String × α)
  sorted : Entries.Ascending entries

namespace Dict

variable {α β : Type}

instance [DecidableEq α] : DecidableEq (Dict α) := fun a b =>
  if h : a.entries = b.entries then
    isTrue (by cases a; cases b; cases h; rfl)
  else
    isFalse fun heq => h (congrArg Dict.entries heq)

instance [Repr α] : Repr (Dict α) := ⟨fun d p => reprPrec d.entries p⟩

/-- The map without entries. -/
def empty : Dict α := ⟨[], List.Pairwise.nil⟩

instance : Inhabited (Dict α) := ⟨empty⟩

/-- The value under a key. -/
def get? (d : Dict α) (key : String) : Option α := Entries.get? key d.entries

/-- Put a value under a key, replacing the value it had. -/
def insert (d : Dict α) (key : String) (value : α) : Dict α :=
  ⟨Entries.insert key value d.entries, d.sorted.insert key value⟩

/-- The dictionary of the pairs of a list; of two values for one key the later stays. -/
def ofList (pairs : List (String × α)) : Dict α :=
  ⟨Entries.ofPairs pairs, Entries.Ascending.ofPairs pairs⟩

/-- Drop a key. -/
def erase (d : Dict α) (key : String) : Dict α :=
  ⟨d.entries.filter (fun e => e.1 ≠ key), d.sorted.filter _⟩

/-- Change every value and keep the keys. -/
def map (f : α → β) (d : Dict α) : Dict β :=
  ⟨d.entries.map (fun e => (e.1, f e.2)),
    by simpa [Entries.Ascending, List.pairwise_map] using d.sorted⟩

/-- Write all entries of `other` into `d`, in ascending key order. -/
def union (d other : Dict α) : Dict α :=
  other.entries.foldl (fun acc e => acc.insert e.1 e.2) d

/-- The keys in ascending order. -/
def keys (d : Dict α) : List String := d.entries.map (·.1)

/-- The number of entries. -/
def size (d : Dict α) : Nat := d.entries.length

/-- No entry is there. -/
def isEmpty (d : Dict α) : Bool := d.entries.isEmpty

@[simp] theorem get?_empty (k : String) : (empty : Dict α).get? k = none := rfl

theorem get?_insert (d : Dict α) (key : String) (value : α) (k : String) :
    (d.insert key value).get? k = if k = key then some value else d.get? k :=
  Entries.get?_insert key value d.entries k

/-- Look-ups determine a dictionary. -/
theorem ext_get? {a b : Dict α} (h : ∀ k, a.get? k = b.get? k) : a = b := by
  have := Entries.Ascending.ext a.sorted b.sorted h
  cases a; cases b; cases this; rfl

theorem get?_eq_some_iff {d : Dict α} {k : String} {v : α} :
    d.get? k = some v ↔ (k, v) ∈ d.entries :=
  d.sorted.get?_eq_some_iff

theorem mem_keys_iff {d : Dict α} {k : String} : k ∈ d.keys ↔ (d.get? k).isSome = true := by
  simp [keys, Option.isSome_iff_exists, get?_eq_some_iff]

theorem nodup_keys (d : Dict α) : d.keys.Nodup := d.sorted.nodup_keys

theorem keys_map (f : α → β) (d : Dict α) : (d.map f).keys = d.keys := by
  simp [keys, map]

/-- Of the pairs with a key the last stays. -/
theorem get?_ofList (pairs : List (String × α)) (k : String) :
    (ofList pairs).get? k = (pairs.filter fun p => p.1 = k).getLast?.map Prod.snd := by
  suffices ∀ acc : List (String × α),
      Entries.get? k (pairs.foldl (fun acc p => Entries.insert p.1 p.2 acc) acc) =
        ((pairs.filter fun p => p.1 = k).getLast?.map Prod.snd).or (Entries.get? k acc) from
    (this []).trans Option.or_none
  induction pairs with
  | nil => exact fun acc => rfl
  | cons p rest ih =>
    intro acc
    rw [List.foldl_cons, ih, Entries.get?_insert]
    by_cases hp : p.1 = k
    · rw [List.filter_cons_of_pos (by simpa using hp), List.getLast?_cons]
      cases (rest.filter fun p => p.1 = k).getLast? <;> simp [hp]
    · rw [List.filter_cons_of_neg (by simpa using hp), if_neg (Ne.symm hp)]

theorem get?_ofList_map {γ : Type} (f : γ → String × α) (l : List γ) (k : String) :
    (ofList (l.map f)).get? k = (l.filter fun a => (f a).1 = k).getLast?.map fun a => (f a).2 := by
  rw [get?_ofList, List.filter_map, List.getLast?_map, Option.map_map]
  rfl

/-- In an ordered list of writes to a key, the one that all others stand before stays. -/
theorem get?_ofList_map_eq_some_iff {γ : Type} {R : γ → γ → Prop} {f : γ → String × α}
    {l : List γ} {k : String} {v : α} (ordered : l.Pairwise R) (asymm : ∀ a b, R a b → ¬ R b a) :
    (ofList (l.map f)).get? k = some v ↔
      ∃ a ∈ l, (f a).1 = k ∧ (f a).2 = v ∧ ∀ b ∈ l, (f b).1 = k → b ≠ a → R b a := by
  simp only [get?_ofList_map, Option.map_eq_some_iff,
    getLast?_filter_eq_some_iff ordered asymm, decide_eq_true_eq]
  constructor
  · rintro ⟨a, ⟨ha, hk, hlast⟩, hv⟩
    exact ⟨a, ha, hk, hv, hlast⟩
  · rintro ⟨a, ha, hk, hv, hlast⟩
    exact ⟨a, ⟨ha, hk, hlast⟩, hv⟩

theorem mem_keys_ofList {pairs : List (String × α)} {k : String} :
    k ∈ (ofList pairs).keys ↔ k ∈ pairs.map Prod.fst := by
  rw [mem_keys_iff, get?_ofList, Option.isSome_map, List.getLast?_isSome]
  simp

/-- With one pair for each key there are as many entries as pairs. -/
theorem size_ofList {pairs : List (String × α)} (nodup : (pairs.map Prod.fst).Nodup) :
    (ofList pairs).size = pairs.length := (Entries.ofPairs_perm nodup).length_eq

/-- The dictionary of a list of pairs is written pair by pair. -/
theorem ofList_eq_foldl (pairs : List (String × α)) :
    ofList pairs = pairs.foldl (fun acc p => acc.insert p.1 p.2) empty := by
  suffices ∀ acc : Dict α, (pairs.foldl (fun acc p => acc.insert p.1 p.2) acc).entries =
      pairs.foldl (fun acc p => Entries.insert p.1 p.2 acc) acc.entries from
    ext_get? fun k => congrArg (Entries.get? k) (this empty).symm
  induction pairs with
  | nil => exact fun _ => rfl
  | cons p rest ih => exact fun acc => ih _

theorem map_ofList (f : α → β) (pairs : List (String × α)) :
    (ofList pairs).map f = ofList (pairs.map fun p => (p.1, f p.2)) := by
  suffices (Entries.ofPairs pairs).map (fun e => (e.1, f e.2)) =
      Entries.ofPairs (pairs.map fun p => (p.1, f p.2)) by
    simp [map, ofList, this]
  exact Entries.map_ofPairs f pairs

/-- With one value under every key, only the keys are left to tell. -/
theorem get?_map_const (d : Dict α) (b : β) (k : String) :
    (d.map fun _ => b).get? k = if k ∈ d.keys then some b else none :=
  Entries.get?_map_const d.entries b k

/-- Dictionaries with the same keys are the same once every value is replaced by one value. -/
theorem map_const_congr {d d' : Dict α} (h : ∀ k, k ∈ d.keys ↔ k ∈ d'.keys) (b : β) :
    (d.map fun _ => b) = d'.map fun _ => b := by
  refine ext_get? fun k => ?_
  rw [get?_map_const, get?_map_const]
  simp only [h k]

end Dict

end SecretConfig
