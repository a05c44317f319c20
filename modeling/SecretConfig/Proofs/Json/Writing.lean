import Mathlib.Data.List.Basic
import SecretConfig.Json.Document
import SecretConfig.Json.Printer

set_option autoImplicit false

/-! # Reading what has been written

A value without reals that nests at most so many levels (`Json.Writable`) is written as a text that
reads back as the value (`Json.parse?_compact`). The parts of a text are read one by one, and each
reader stops where its part ends: a number at a comma or a closing bracket, a string at the quote
that closes it, items and members at their bracket. The fuel of the readers is the length of the
text that is left. -/

namespace SecretConfig.Json

/-! ## Digits -/

namespace Document

/-- The values of the decimal digits of a number, the first of which is no zero but for zero
itself. -/
def digitsOf (n : Nat) : List Nat := (Nat.toDigits 10 n).map fun c => c.toNat - '0'.toNat

theorem digitValue_digitChar {d : Nat} (h : d < 10) : d.digitChar.toNat - '0'.toNat = d := by
  have hall : ∀ d < 10, (Nat.digitChar d).toNat - '0'.toNat = d := by decide
  exact hall d h

theorem digitsOf_of_lt {n : Nat} (h : n < 10) : digitsOf n = [n] := by
  rw [digitsOf, Nat.toDigits_of_lt_base h, List.map_singleton, digitValue_digitChar h]

theorem digitsOf_of_le {n : Nat} (h : 10 ≤ n) : digitsOf n = digitsOf (n / 10) ++ [n % 10] := by
  have hlast : n % 10 < 10 := Nat.mod_lt _ (by decide)
  rw [digitsOf, Nat.toDigits_of_base_le (by decide) h, List.map_append, List.map_singleton,
    digitValue_digitChar hlast, digitsOf]

theorem digitsOf_ne_nil (n : Nat) : digitsOf n ≠ [] := by
  by_cases h : n < 10
  · rw [digitsOf_of_lt h]
    exact List.cons_ne_nil _ _
  · rw [digitsOf_of_le (by omega)]
    simp

theorem exists_toDigits (n : Nat) : ∃ c cs, Nat.toDigits 10 n = c :: cs ∧ c.isDigit = true := by
  cases hdigits : Nat.toDigits 10 n with
  | nil => exact absurd (congrArg (List.map _) hdigits) (digitsOf_ne_nil n)
  | cons c cs =>
    have hc : c.isDigit = true :=
      Nat.isDigit_of_mem_toDigits (by decide) (by decide) (hdigits ▸ List.mem_cons_self)
    exact ⟨c, cs, rfl, hc⟩

/-- The digits of a number write it. -/
theorem ofDigits_digitsOf (n : Nat) : ofDigits (digitsOf n) = n := by
  induction n using Nat.strongRecOn with
  | ind n ih =>
    by_cases h : n < 10
    · rw [digitsOf_of_lt h, ofDigits, List.foldl_cons, List.foldl_nil]
      omega
    · have hfront := ih (n / 10) (by omega)
      rw [ofDigits] at hfront
      rw [digitsOf_of_le (by omega), ofDigits, List.foldl_append, hfront, List.foldl_cons,
        List.foldl_nil]
      omega

/-- Only a single digit is a leading zero. -/
theorem lt_of_head?_digitsOf {n : Nat} (h : (digitsOf n).head? = some 0) : n < 10 := by
  induction n using Nat.strongRecOn with
  | ind n ih =>
    by_cases hn : n < 10
    · exact hn
    · rw [digitsOf_of_le (by omega), List.head?_append_of_ne_nil _ (digitsOf_ne_nil _)] at h
      have hfront : n / 10 < 10 := ih (n / 10) (by omega) h
      rw [digitsOf_of_lt hfront] at h
      have hzero : n / 10 = 0 := Option.some.inj h
      omega

/-- A digit makes the significand no smaller. -/
theorem le_foldl_digits (ds : List Nat) (s : Nat) : s ≤ ds.foldl (fun n d => n * 10 + d) s := by
  induction ds generalizing s with
  | nil => exact Nat.le_refl s
  | cons d rest ih =>
    have hrest := ih (s * 10 + d)
    rw [List.foldl_cons]
    omega

/-- Whole digits that fit are all taken. -/
theorem takeWhole_eq {ds : List Nat} {s : Nat}
    (h : ds.foldl (fun n d => n * 10 + d) s ≤ NumberText.maxSignificand) :
    NumberText.takeWhole ds s = (ds.foldl (fun n d => n * 10 + d) s, 0) := by
  induction ds generalizing s with
  | nil => rfl
  | cons d rest ih =>
    rw [List.foldl_cons] at h
    have hfits : s * 10 + d ≤ NumberText.maxSignificand :=
      Nat.le_trans (le_foldl_digits rest (s * 10 + d)) h
    rw [NumberText.takeWhole, if_pos hfits, ih h, List.foldl_cons]

/-! ## Numbers -/

/-- An integer as it is written. -/
def written (i : Int) : NumberText := ⟨decide (i < 0), digitsOf i.natAbs, [], none⟩

/-- The integer is one of 64 bits, with a sign or without. -/
def IsWord (i : Int) : Prop := Int64.minValue.toInt ≤ i ∧ i < UInt64.size

/-- An integer of 64 bits is the value of what is written for it. -/
theorem value?_written {i : Int} (word : IsWord i) : (written i).value? = some (.int i) := by
  have hlow : -9223372036854775808 ≤ i := word.1
  have hhigh : i < 18446744073709551616 := word.2
  have hmax : NumberText.maxSignificand = 18446744073709551615 := rfl
  have hpow : Nat.pow 2 63 = 9223372036854775808 := rfl
  have hdigits := ofDigits_digitsOf i.natAbs
  rw [ofDigits] at hdigits
  have hwhole : NumberText.takeWhole (digitsOf i.natAbs) 0 = (i.natAbs, 0) := by
    rw [takeWhole_eq (by omega), hdigits]
  unfold NumberText.value? written
  simp only [hwhole, List.isEmpty_nil, Option.isNone_none, and_self, if_true]
  by_cases hneg : i < 0
  · have hbound : i.natAbs ≠ 0 ∧ i.natAbs ≤ Nat.pow 2 63 := by omega
    have habs : -(i.natAbs : Int) = i := by omega
    simp only [hneg, decide_true, not_true_eq_false, if_false, if_pos hbound, habs]
  · have habs : (i.natAbs : Int) = i := by omega
    simp only [hneg, decide_false, Bool.false_eq_true, not_false_eq_true, if_true, habs]

/-- The rest of a text goes on with a comma or a closing bracket, if with anything. -/
def Closes (rest : List Char) : Prop :=
  ∀ c ∈ rest.head?, c = ',' ∨ c = ']' ∨ c = '\x7d'

theorem closes_nil : Closes [] := nofun

theorem closes_cons {c : Char} (rest : List Char) (h : c = ',' ∨ c = ']' ∨ c = '\x7d') :
    Closes (c :: rest) := by
  intro c' hc'
  obtain rfl := Option.some.inj hc'
  exact h

theorem takeDigits_toDigits (n : Nat) {rest : List Char} (closes : Closes rest) :
    takeDigits (Nat.toDigits 10 n ++ rest) = (digitsOf n, rest) := by
  have hdigit : ∀ c ∈ Nat.toDigits 10 n, c.isDigit = true := fun c hc =>
    Nat.isDigit_of_mem_toDigits (by decide) (by decide) hc
  have hstop : ∀ c ∈ rest.head?, c.isDigit = false := by
    intro c hc
    rcases closes c hc with rfl | rfl | rfl
    all_goals decide
  have hrest : rest.takeWhile Char.isDigit = [] ∧ rest.dropWhile Char.isDigit = rest := by
    cases rest with
    | nil => exact ⟨rfl, rfl⟩
    | cons c tail =>
      have hc := hstop c rfl
      exact ⟨by simp [hc], by simp [hc]⟩
  rw [takeDigits, List.takeWhile_append_of_pos hdigit, List.dropWhile_append_of_pos hdigit,
    hrest.1, hrest.2, List.append_nil, digitsOf]

theorem readExponentPart_of_closes {rest : List Char} (closes : Closes rest) :
    readExponentPart rest = some (none, rest) := by
  unfold readExponentPart
  split
  · exact absurd (closes 'e' rfl) (by decide)
  · exact absurd (closes 'E' rfl) (by decide)
  · rfl

/-- Written digits are read as one number. -/
theorem readNumber_toDigits (negative : Bool) (n : Nat) {rest : List Char}
    (closes : Closes rest) : readNumber negative (Nat.toDigits 10 n ++ rest) =
      some (⟨negative, digitsOf n, [], none⟩, rest) := by
  -- digits that begin with a zero would be refused
  have hzero : ¬ ((digitsOf n).length > 1 ∧ (digitsOf n).head? = some 0) := by
    rintro ⟨hlength, hhead⟩
    rw [digitsOf_of_lt (lt_of_head?_digitsOf hhead)] at hlength
    exact absurd hlength (by simp)
  unfold readNumber
  rw [takeDigits_toDigits n closes]
  split
  · rename_i heq
    exact absurd (Prod.mk.inj heq).1 (digitsOf_ne_nil n)
  · rename_i whole rest' _ heq
    obtain ⟨rfl, rfl⟩ := Prod.mk.inj heq
    rw [if_neg hzero]
    split
    · exact absurd (closes '.' rfl) (by decide)
    · rw [readExponentPart_of_closes closes]
      rfl

/-! ## Strings -/

theorem hexValue?_hexDigit {n : Nat} (h : n < 16) : hexValue? (hexDigit n) = some n := by
  have hall : ∀ n < 16, hexValue? (hexDigit n) = some n := by decide
  exact hall n h

/-- The escape of a control character gives its number. -/
theorem hexQuad?_control {n : Nat} (h : n < 0x20) (rest : List Char) :
    hexQuad? ('0' :: '0' :: hexDigit (n / 16) :: hexDigit (n % 16) :: rest) = some (n, rest) := by
  have hzero : hexValue? '0' = some 0 := by decide
  have hcode : ((0 * 16 + 0) * 16 + n / 16) * 16 + n % 16 = n := by omega
  simp only [hexQuad?, hzero, hexValue?_hexDigit (n := n / 16) (by omega),
    hexValue?_hexDigit (n := n % 16) (by omega), Option.bind_eq_bind, Option.bind_some, hcode]
  rfl

/-- A written character is read as itself. -/
theorem readString_escapeChar (c : Char) (fuel : Nat) (tail : List Char)
    (acc : Option (List Char)) : readString (fuel + 1) (escapeChar c ++ tail) acc =
      readString fuel tail (acc.map (c :: ·)) := by
  unfold escapeChar
  split
  -- seven characters have an escape of one letter
  · rfl
  · rfl
  · rfl
  · rfl
  · rfl
  · rfl
  · rfl
  · split
    · rename_i hcontrol
      have hquad := hexQuad?_control hcontrol tail
      have hlow : ¬ (0xDC00 ≤ c.toNat ∧ c.toNat ≤ 0xDFFF) := by omega
      have hhigh : ¬ (0xD800 ≤ c.toNat ∧ c.toNat ≤ 0xDBFF) := by omega
      simp only [List.cons_append, List.nil_append, readString, hquad, if_neg hlow, if_neg hhigh,
        Char.ofNat_toNat]
    · -- any other character stands for itself, and the reader sees that it is no quote or escape
      rename_i hquote hslash _ _ _ _ _ hplain
      have hescape : ¬ (c = '\\' ∨ c.toNat < 0x20) := not_or.2 ⟨hslash, hplain⟩
      rw [List.singleton_append, readString]
      · rw [if_neg hescape]
      · exact hquote
      · exact fun rest h _ => hslash h
      · exact fun e rest h _ => hslash h

/-- A written text is read up to its closing quote. -/
theorem readString_written (s : List Char) {fuel : Nat} (enough : s.length < fuel)
    (rest acc : List Char) : readString fuel (s.flatMap escapeChar ++ '"' :: rest) (some acc) =
      some (some (acc.reverse ++ s), rest) := by
  induction s generalizing fuel acc with
  | nil =>
    obtain ⟨fuel, rfl⟩ := Nat.exists_eq_succ_of_ne_zero (Nat.ne_of_gt enough)
    rw [List.append_nil]
    rfl
  | cons c s ih =>
    obtain ⟨fuel, rfl⟩ := Nat.exists_eq_succ_of_ne_zero (Nat.ne_of_gt (Nat.zero_lt_of_lt enough))
    have henough : s.length < fuel := Nat.lt_of_succ_lt_succ enough
    rw [List.flatMap_cons, List.append_assoc, readString_escapeChar, Option.map_some,
      ih henough, List.reverse_cons, List.append_assoc, List.singleton_append]

/-- No character is lost when a text is written. -/
theorem length_le_flatMap_escapeChar (s : List Char) :
    s.length ≤ (s.flatMap escapeChar).length := by
  have hpos (c : Char) : 1 ≤ (escapeChar c).length := by
    unfold escapeChar
    repeat' split
    all_goals simp
  induction s with
  | nil => exact Nat.le_refl 0
  | cons c s ih =>
    have hc := hpos c
    rw [List.flatMap_cons, List.length_append, List.length_cons]
    omega

theorem toList_quote (s : String) :
    (quote s).toList = '"' :: (s.toList.flatMap escapeChar ++ ['"']) := by
  rw [quote, String.toList_ofList, List.cons_append]

/-- Behind its opening quote, a written text is read up to the quote that closes it. -/
theorem readString_quoted (s : String) (rest : List Char) :
    readString ((s.toList.flatMap escapeChar ++ '"' :: rest).length + 1)
        (s.toList.flatMap escapeChar ++ '"' :: rest) (some []) = some (some s.toList, rest) := by
  have hlength := length_le_flatMap_escapeChar s.toList
  have henough : s.toList.length < (s.toList.flatMap escapeChar ++ '"' :: rest).length + 1 := by
    rw [List.length_append]
    omega
  exact readString_written s.toList henough rest []

end Document

/-! ## Values -/

/-- The value nests at most so many levels of arrays and objects, the keys of its objects ascend,
and its numbers are integers of 64 bits. -/
inductive Writable : Nat → Json → Prop where
  | null (n : Nat) : Writable n null
  | bool (n : Nat) (b : Bool) : Writable n (bool b)
  | int (n : Nat) {i : Int} (word : Document.IsWord i) : Writable n (num (.int i))
  | str (n : Nat) (s : String) : Writable n (str s)
  | arr {n : Nat} {items : List Json} (h : ∀ v ∈ items, Writable n v) : Writable (n + 1) (arr items)
  | obj {n : Nat} {fields : List (String × Json)} (sorted : Entries.Ascending fields)
      (h : ∀ e ∈ fields, Writable n e.2) : Writable (n + 1) (obj fields)

/-- An object is written as well as its members. -/
theorem Writable.object {n : Nat} {fields : List (String × Json)}
    (h : ∀ e ∈ fields, Writable n e.2) : Writable (n + 1) (object fields) :=
  .obj (Entries.Ascending.ofPairs fields) fun e he => h e (Entries.mem_ofPairs he)

namespace Document

theorem compactItems_eq (items : List Json) : compactItems items = items.map compact := by
  induction items with
  | nil => rfl
  | cons v rest ih => rw [compactItems, ih, List.map_cons]

theorem compactFields_eq (fields : List (String × Json)) :
    compactFields fields = fields.map fun e => quote e.1 ++ ":" ++ compact e.2 := by
  induction fields with
  | nil => rfl
  | cons e rest ih => rw [compactFields, ih, List.map_cons]

/-- The characters of an integer. -/
theorem toList_toString (i : Int) : (toString i).toList =
    if i < 0 then '-' :: Nat.toDigits 10 i.natAbs else Nat.toDigits 10 i.natAbs := by
  rw [Int.toString_eq_repr]
  cases i with
  | ofNat n =>
    have hnonneg : ¬ Int.ofNat n < 0 := Int.not_lt.2 (Int.natCast_nonneg n)
    rw [if_neg hnonneg]
    exact Nat.toList_repr
  | negSucc n =>
    rw [if_pos (Int.negSucc_lt_zero n)]
    show ("-" ++ (n + 1).repr).toList = _
    rw [String.toList_append, Nat.toList_repr]
    rfl

theorem isSpace_of_isDigit {c : Char} (hc : c.isDigit = true) : isSpace c = false := by
  by_cases hspace : isSpace c = true
  · simp only [isSpace, Bool.or_eq_true, decide_eq_true_eq] at hspace
    rcases hspace with ((rfl | rfl) | rfl) | rfl
    all_goals exact absurd hc (by decide)
  · exact Bool.not_eq_true _ ▸ hspace

/-- The reader of a value begins at once, as a text begins with no blank, and does not take it for
the end of an array. -/
theorem exists_head {n : Nat} {v : Json} (writable : Writable n v) :
    ∃ c cs, v.compact.toList = c :: cs ∧ isSpace c = false ∧ c ≠ ']' := by
  cases writable with
  | null => exact ⟨'n', "ull".toList, by decide, by decide, by decide⟩
  | bool n b =>
    cases b with
    | false => exact ⟨'f', "alse".toList, by decide, by decide, by decide⟩
    | true => exact ⟨'t', "rue".toList, by decide, by decide, by decide⟩
  | @int n i word =>
    rw [compact, Number.text, toList_toString]
    split
    · exact ⟨'-', _, rfl, by decide, by decide⟩
    · obtain ⟨c, cs, hdigits, hc⟩ := exists_toDigits i.natAbs
      refine ⟨c, cs, hdigits, isSpace_of_isDigit hc, ?_⟩
      rintro rfl
      exact absurd hc (by decide)
  | str n s =>
    rw [compact, toList_quote]
    exact ⟨'"', _, rfl, by decide, by decide⟩
  | arr h =>
    rw [compact, String.toList_append, String.toList_append]
    exact ⟨'[', _, rfl, by decide, by decide⟩
  | obj sorted h =>
    rw [compact, String.toList_append, String.toList_append]
    exact ⟨'\x7b', _, rfl, by decide, by decide⟩

theorem skipSpace_cons {c : Char} (cs : List Char) (h : isSpace c = false) :
    skipSpace (c :: cs) = c :: cs := by
  rw [skipSpace, List.dropWhile_cons_of_neg (by simp [h])]

/-- In front of anything that closes it, the text of a value is read as a tree of that value. -/
def ReadsBack (n : Nat) (v : Json) : Prop :=
  ∀ (rest : List Char) (fuel : Nat), Closes rest → v.compact.toList.length ≤ fuel →
    ∃ d, readValue fuel (v.compact.toList ++ rest) = some (d, rest) ∧ d.value? = some v ∧
      d.depth ≤ n

/-- The characters of items, with commas between them. -/
def itemChars (items : List Json) : List Char :=
  [','].intercalate (items.map fun v => v.compact.toList)

/-- The characters of a member. -/
def memberChars (e : String × Json) : List Char :=
  '"' :: (e.1.toList.flatMap escapeChar ++ '"' :: ':' :: e.2.compact.toList)

/-- The characters of members, with commas between them. -/
def fieldChars (fields : List (String × Json)) : List Char :=
  [','].intercalate (fields.map memberChars)

theorem toList_compact_arr (items : List Json) :
    (compact (.arr items)).toList = '[' :: (itemChars items ++ [']']) := by
  rw [compact, compactItems_eq, String.toList_append, String.toList_append,
    String.toList_intercalate, List.map_map]
  rfl

theorem toList_compact_obj (fields : List (String × Json)) :
    (compact (.obj fields)).toList = '\x7b' :: (fieldChars fields ++ ['\x7d']) := by
  have hmember : (String.toList ∘ fun e : String × Json => quote e.1 ++ ":" ++ compact e.2) =
      memberChars := by
    funext e
    rw [Function.comp_apply, String.toList_append, String.toList_append, toList_quote, memberChars]
    simp
  rw [compact, compactFields_eq, String.toList_append, String.toList_append,
    String.toList_intercalate, List.map_map, hmember]
  rfl

theorem intercalate_comma (text next : List Char) (later : List (List Char)) :
    [','].intercalate (text :: next :: later) =
      text ++ ',' :: [','].intercalate (next :: later) := by
  rw [List.intercalate_cons_cons, List.append_assoc, List.singleton_append]

/-- Items are read up to the bracket that closes them. -/
theorem readItems_written {n : Nat} {items : List Json} (some_item : items ≠ [])
    (back : ∀ v ∈ items, ReadsBack n v) (rest : List Char) {fuel : Nat}
    (enough : (itemChars items).length < fuel) (acc : List Document) :
    ∃ ds, readItems fuel (itemChars items ++ ']' :: rest) acc = some (acc.reverse ++ ds, rest) ∧
      values? ds = some items ∧ depthItems ds ≤ n := by
  induction items generalizing fuel acc with
  | nil => exact absurd rfl some_item
  | cons v later ih =>
    obtain ⟨fuel, rfl⟩ := Nat.exists_eq_succ_of_ne_zero (Nat.ne_of_gt (Nat.zero_lt_of_lt enough))
    have hv : ReadsBack n v := back v List.mem_cons_self
    cases later with
    | nil =>
      have hchars : itemChars [v] = v.compact.toList := List.intercalate_singleton
      rw [hchars] at enough ⊢
      obtain ⟨d, hd, hvalue, hdepth⟩ := hv (']' :: rest) fuel
        (closes_cons rest (.inr (.inl rfl))) (Nat.le_of_lt_succ enough)
      refine ⟨[d], ?_, ?_, ?_⟩
      · rw [readItems, hd]
        simp only [skipSpace_cons rest (show isSpace ']' = false by decide), List.reverse_cons]
      · rw [values?, hvalue, values?]
      · rw [depthItems, depthItems]
        omega
    | cons w later =>
      have hchars : itemChars (v :: w :: later) =
          v.compact.toList ++ ',' :: itemChars (w :: later) := intercalate_comma _ _ _
      rw [hchars, List.length_append, List.length_cons] at enough
      rw [hchars, List.append_assoc, List.cons_append]
      have hfuel : v.compact.toList.length ≤ fuel ∧ (itemChars (w :: later)).length < fuel := by
        omega
      obtain ⟨d, hd, hvalue, hdepth⟩ := hv (',' :: (itemChars (w :: later) ++ ']' :: rest)) fuel
        (closes_cons _ (.inl rfl)) hfuel.1
      obtain ⟨ds, hds, hvalues, hdepths⟩ := ih (List.cons_ne_nil _ _)
        (fun u hu => back u (List.mem_cons_of_mem v hu)) hfuel.2 (d :: acc)
      refine ⟨d :: ds, ?_, ?_, ?_⟩
      · rw [readItems, hd]
        simp only [skipSpace_cons _ (show isSpace ',' = false by decide), hds, List.reverse_cons,
          List.append_assoc, List.singleton_append]
      · rw [values?, hvalue, hvalues]
      · rw [depthItems]
        omega

/-- What the reader of members does in front of a member whose value it can read. -/
theorem readFields_member {e : String × Json} {fuel : Nat} {tail after : List Char} {d : Document}
    (hd : readValue fuel (e.2.compact.toList ++ tail) = some (d, after))
    (acc : List (Option String × Document)) :
    (∀ rest, after = ',' :: rest →
      readFields (fuel + 1) (memberChars e ++ tail) acc =
        readFields fuel rest ((some e.1, d) :: acc)) ∧
    (∀ rest, after = '\x7d' :: rest → readFields (fuel + 1) (memberChars e ++ tail) acc =
      some (((some e.1, d) :: acc).reverse, rest)) := by
  constructor
  · rintro rest rfl
    rw [memberChars, List.cons_append, readFields,
      skipSpace_cons _ (show isSpace '"' = false by decide)]
    simp only [List.append_assoc, List.cons_append, readString_quoted,
      skipSpace_cons _ (show isSpace ':' = false by decide), hd, Option.map_some,
      String.ofList_toList, skipSpace_cons rest (show isSpace ',' = false by decide)]
  · rintro rest rfl
    rw [memberChars, List.cons_append, readFields,
      skipSpace_cons _ (show isSpace '"' = false by decide)]
    simp only [List.append_assoc, List.cons_append, readString_quoted,
      skipSpace_cons _ (show isSpace ':' = false by decide), hd, Option.map_some,
      String.ofList_toList, skipSpace_cons rest (show isSpace '\x7d' = false by decide)]

theorem length_memberChars (e : String × Json) :
    e.2.compact.toList.length < (memberChars e).length := by
  rw [memberChars, List.length_cons, List.length_append, List.length_cons, List.length_cons]
  omega

/-- Members are read up to the brace that closes them. -/
theorem readFields_written {n : Nat} {fields : List (String × Json)} (some_field : fields ≠ [])
    (back : ∀ e ∈ fields, ReadsBack n e.2) (rest : List Char) {fuel : Nat}
    (enough : (fieldChars fields).length < fuel) (acc : List (Option String × Document)) :
    ∃ ds, readFields fuel (fieldChars fields ++ '\x7d' :: rest) acc =
        some (acc.reverse ++ ds, rest) ∧
      members? ds = some fields ∧ depthFields ds ≤ n := by
  induction fields generalizing fuel acc with
  | nil => exact absurd rfl some_field
  | cons e later ih =>
    obtain ⟨fuel, rfl⟩ := Nat.exists_eq_succ_of_ne_zero (Nat.ne_of_gt (Nat.zero_lt_of_lt enough))
    have he : ReadsBack n e.2 := back e List.mem_cons_self
    have hlength := length_memberChars e
    cases later with
    | nil =>
      have hchars : fieldChars [e] = memberChars e := List.intercalate_singleton
      rw [hchars] at enough ⊢
      obtain ⟨d, hd, hvalue, hdepth⟩ := he ('\x7d' :: rest) fuel
        (closes_cons rest (.inr (.inr rfl))) (by omega)
      refine ⟨[(some e.1, d)], ?_, ?_, ?_⟩
      · rw [(readFields_member hd acc).2 rest rfl, List.reverse_cons]
      · simp only [members?, hvalue]
      · rw [depthFields, depthFields]
        omega
    | cons e' later =>
      have hchars : fieldChars (e :: e' :: later) =
          memberChars e ++ ',' :: fieldChars (e' :: later) := intercalate_comma _ _ _
      rw [hchars, List.length_append, List.length_cons] at enough
      rw [hchars, List.append_assoc, List.cons_append]
      have hfuel : e.2.compact.toList.length ≤ fuel ∧ (fieldChars (e' :: later)).length < fuel := by
        omega
      obtain ⟨d, hd, hvalue, hdepth⟩ := he (',' :: (fieldChars (e' :: later) ++ '\x7d' :: rest))
        fuel (closes_cons _ (.inl rfl)) hfuel.1
      obtain ⟨ds, hds, hmembers, hdepths⟩ := ih (List.cons_ne_nil _ _)
        (fun u hu => back u (List.mem_cons_of_mem e hu)) hfuel.2
        ((some e.1, d) :: acc)
      refine ⟨(some e.1, d) :: ds, ?_, ?_, ?_⟩
      · rw [(readFields_member hd acc).1 _ rfl, hds, List.reverse_cons, List.append_assoc,
          List.singleton_append]
      · simp only [members?, hvalue, hmembers]
      · rw [depthFields]
        omega

/-! ## Values of each form -/

/-- A text that begins with a digit is read as a number. -/
theorem readValue_of_isDigit {c : Char} (hc : c.isDigit = true) (fuel : Nat) (cs : List Char) :
    readValue (fuel + 1) (c :: cs) =
      (readNumber false (c :: cs)).map fun (n, rest) => (num n, rest) := by
  rw [readValue, skipSpace_cons cs (isSpace_of_isDigit hc)]
  split
  all_goals first
    | rfl
    | (rename_i heq
       obtain ⟨rfl, -⟩ := List.cons.inj heq
       exact absurd hc (by decide))

theorem readValue_minus (fuel : Nat) (cs : List Char) :
    readValue (fuel + 1) ('-' :: cs) =
      (readNumber true cs).map fun (n, rest) => (num n, rest) := rfl

theorem readValue_quote (fuel : Nat) (cs : List Char) :
    readValue (fuel + 1) ('"' :: cs) =
      (readString (cs.length + 1) cs (some [])).map fun (s, rest) =>
        (str (s.map String.ofList), rest) := rfl

/-- Behind an opening brace, the quote of a key begins a member. -/
theorem readValue_members (fuel : Nat) (cs : List Char) :
    readValue (fuel + 1) ('\x7b' :: '"' :: cs) =
      (readFields fuel ('"' :: cs) []).map fun (fields, rest) => (obj fields, rest) := rfl

/-- Behind an opening bracket, anything but blanks and the closing bracket begins an item. -/
theorem readValue_items {c : Char} (cs : List Char) (fuel : Nat) (plain : isSpace c = false)
    (item : c ≠ ']') : readValue (fuel + 1) ('[' :: c :: cs) =
      (readItems fuel (c :: cs) []).map fun (items, rest) => (arr items, rest) := by
  rw [readValue, skipSpace_cons _ (show isSpace '[' = false by decide)]
  simp only [skipSpace_cons cs plain]
  split
  · rename_i heq
    exact absurd (List.cons.inj heq).1 item
  · rfl

/-- Some fuel is left behind the first character of a text that the fuel is enough for. -/
theorem readsBack_of_cons {n : Nat} {v : Json} {c : Char} {cs : List Char}
    (text : v.compact.toList = c :: cs)
    (h : ∀ (rest : List Char) (fuel : Nat), Closes rest → cs.length ≤ fuel →
      ∃ d, readValue (fuel + 1) (c :: (cs ++ rest)) = some (d, rest) ∧ d.value? = some v ∧
        d.depth ≤ n) : ReadsBack n v := by
  intro rest fuel closes enough
  rw [text, List.length_cons] at enough
  obtain ⟨fuel, rfl⟩ := Nat.exists_eq_succ_of_ne_zero (Nat.ne_of_gt (Nat.zero_lt_of_lt enough))
  rw [text, List.cons_append]
  exact h rest fuel closes (Nat.le_of_succ_le_succ enough)

theorem readsBack_int (n : Nat) {i : Int} (word : IsWord i) : ReadsBack n (.num (.int i)) := by
  have htext : (compact (.num (.int i))).toList = (toString i).toList := rfl
  rw [toList_toString] at htext
  have hvalue : (num (written i)).value? = some (.num (.int i)) := by
    rw [value?, value?_written word, Option.map_some]
  by_cases hneg : i < 0
  · have hwritten : written i = ⟨true, digitsOf i.natAbs, [], none⟩ := by
      rw [written, decide_eq_true hneg]
    rw [if_pos hneg] at htext
    refine readsBack_of_cons htext fun rest fuel closes _ => ⟨num (written i), ?_, hvalue, ?_⟩
    · rw [readValue_minus, readNumber_toDigits true i.natAbs closes, hwritten, Option.map_some]
    · exact Nat.zero_le n
  · have hwritten : written i = ⟨false, digitsOf i.natAbs, [], none⟩ := by
      rw [written, decide_eq_false hneg]
    rw [if_neg hneg] at htext
    obtain ⟨c, cs, hdigits, hc⟩ := exists_toDigits i.natAbs
    rw [hdigits] at htext
    refine readsBack_of_cons htext fun rest fuel closes _ => ⟨num (written i), ?_, hvalue, ?_⟩
    · rw [readValue_of_isDigit hc, ← List.cons_append, ← hdigits,
        readNumber_toDigits false i.natAbs closes, hwritten, Option.map_some]
    · exact Nat.zero_le n

theorem readsBack_str (n : Nat) (s : String) : ReadsBack n (.str s) := by
  refine readsBack_of_cons (toList_quote s) fun rest fuel _ _ => ⟨str (some s), ?_, rfl, ?_⟩
  · rw [List.append_assoc, List.singleton_append]
    simp only [readValue_quote, readString_quoted, Option.map_some, String.ofList_toList]
  · exact Nat.zero_le n

theorem readsBack_arr {n : Nat} {items : List Json} (writable : ∀ v ∈ items, Writable n v)
    (back : ∀ v ∈ items, ReadsBack n v) : ReadsBack (n + 1) (.arr items) := by
  refine readsBack_of_cons (toList_compact_arr items) fun rest fuel _ enough => ?_
  cases items with
  | nil =>
    refine ⟨arr [], rfl, rfl, ?_⟩
    exact Nat.le_add_left 1 n
  | cons v later =>
    have henough : (itemChars (v :: later)).length < fuel := by
      rw [List.length_append, List.length_singleton] at enough
      omega
    obtain ⟨ds, hds, hvalues, hdepths⟩ :=
      readItems_written (List.cons_ne_nil v later) back rest henough []
    -- the reader looks for the closing bracket first, and no item begins with one
    obtain ⟨c, cs, hhead, hplain, hitem⟩ := exists_head (writable v List.mem_cons_self)
    have hchars : ∃ tail, itemChars (v :: later) = c :: tail := by
      rw [itemChars, List.map_cons, hhead]
      cases later.map fun v => v.compact.toList with
      | nil => exact ⟨cs, List.intercalate_singleton⟩
      | cons next texts =>
        rw [intercalate_comma, List.cons_append]
        exact ⟨_, rfl⟩
    obtain ⟨tail, htail⟩ := hchars
    refine ⟨arr ds, ?_, ?_, ?_⟩
    · rw [htail, List.cons_append] at hds
      rw [htail, List.append_assoc, List.singleton_append, List.cons_append,
        readValue_items _ fuel hplain hitem, hds]
      rfl
    · rw [value?, hvalues, Option.map_some]
    · rw [depth]
      omega

theorem readsBack_obj {n : Nat} {fields : List (String × Json)}
    (sorted : Entries.Ascending fields) (back : ∀ e ∈ fields, ReadsBack n e.2) :
    ReadsBack (n + 1) (.obj fields) := by
  refine readsBack_of_cons (toList_compact_obj fields) fun rest fuel _ enough => ?_
  cases fields with
  | nil =>
    refine ⟨obj [], rfl, rfl, ?_⟩
    exact Nat.le_add_left 1 n
  | cons e later =>
    have henough : (fieldChars (e :: later)).length < fuel := by
      rw [List.length_append, List.length_singleton] at enough
      omega
    obtain ⟨ds, hds, hmembers, hdepths⟩ :=
      readFields_written (List.cons_ne_nil e later) back rest henough []
    have hchars : ∃ tail, fieldChars (e :: later) = '"' :: tail := by
      rw [fieldChars, List.map_cons, memberChars]
      cases later.map memberChars with
      | nil => exact ⟨_, List.intercalate_singleton⟩
      | cons next texts =>
        rw [intercalate_comma, List.cons_append]
        exact ⟨_, rfl⟩
    obtain ⟨tail, htail⟩ := hchars
    refine ⟨obj ds, ?_, ?_, ?_⟩
    · rw [htail, List.cons_append] at hds
      rw [htail, List.append_assoc, List.singleton_append, List.cons_append, readValue_members, hds]
      rfl
    · rw [value?, hmembers, Option.map_some, Json.object, sorted.ofPairs_eq]
    · rw [depth]
      omega

/-- Every value without reals that does not nest too deep reads back. -/
theorem readsBack_of_writable {n : Nat} {v : Json} (writable : Writable n v) : ReadsBack n v := by
  induction writable with
  | null n =>
    exact readsBack_of_cons (c := 'n') rfl fun rest fuel _ _ => ⟨null, rfl, rfl, Nat.zero_le n⟩
  | bool n b =>
    cases b with
    | false =>
      exact readsBack_of_cons (c := 'f') rfl fun rest fuel _ _ =>
        ⟨bool false, rfl, rfl, Nat.zero_le n⟩
    | true =>
      exact readsBack_of_cons (c := 't') rfl fun rest fuel _ _ =>
        ⟨bool true, rfl, rfl, Nat.zero_le n⟩
  | int n word => exact readsBack_int n word
  | str n s => exact readsBack_str n s
  | arr writable ih => exact readsBack_arr writable ih
  | obj sorted _ ih => exact readsBack_obj sorted ih

end Document

/-! ## Whole texts -/

/-- A written value is read back from its text. -/
theorem parse?_compact {n limit : Nat} {v : Json} (writable : Writable n v) (shallow : n ≤ limit) :
    parse? v.compact limit = some v := by
  have henough : v.compact.toList.length ≤ 2 * v.compact.toList.length + 2 := by omega
  obtain ⟨d, hd, hvalue, hdepth⟩ :=
    Document.readsBack_of_writable writable [] _ Document.closes_nil henough
  rw [List.append_nil] at hd
  have hread : Document.read? v.compact = some d := by
    simp only [Document.read?, hd]
    rfl
  have hlimit : d.depth ≤ limit := by omega
  rw [parse?, hread]
  simp only [if_pos hlimit, hvalue]

end SecretConfig.Json
