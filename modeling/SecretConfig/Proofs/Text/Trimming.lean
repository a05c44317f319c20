import Mathlib.Data.List.TakeWhile
import SecretConfig.Text.Blank

set_option autoImplicit false

/-! # What trimming leaves

Stripping a class of characters from both ends of a text leaves nothing if the text has no others.
Otherwise it leaves some other character, so that what is left is not of the class as a whole. -/

namespace SecretConfig.Text

variable {p : Char → Bool} {cs : List Char} {s : String}

theorem stripChars_eq_nil_iff : stripChars p cs = [] ↔ ∀ c ∈ cs, p c = true := by
  rw [stripChars, List.reverse_eq_nil_iff, List.dropWhile_eq_nil_iff]
  constructor
  · intro h
    by_cases hnil : cs.dropWhile p = []
    · exact List.dropWhile_eq_nil_iff.1 hnil
    · -- the first character that is kept is none of the class
      have hfirst := List.head_dropWhile_not p hnil
      have hclass := h _ (List.mem_reverse.2 (List.head_mem hnil))
      exact nomatch hfirst.symm.trans hclass
  · intro h c hc
    exact h c ((List.dropWhile_sublist p).mem (List.mem_reverse.1 hc))

/-- Unless nothing is left, some character of another class is. -/
theorem exists_not_of_stripChars (h : stripChars p cs ≠ []) :
    ∃ c ∈ stripChars p cs, p c = false := by
  have hkept : (cs.dropWhile p).reverse.dropWhile p ≠ [] := by
    intro hnil
    rw [stripChars, hnil] at h
    exact h rfl
  refine ⟨_, ?_, List.head_dropWhile_not p hkept⟩
  rw [stripChars, List.mem_reverse]
  exact List.head_mem hkept

/-- What is cut off at both ends are characters of the class. -/
theorem exists_eq_append_stripChars (p : Char → Bool) (cs : List Char) :
    ∃ front back, cs = front ++ stripChars p cs ++ back ∧
      (∀ c ∈ front, p c = true) ∧ ∀ c ∈ back, p c = true := by
  have hback : cs.dropWhile p =
      stripChars p cs ++ ((cs.dropWhile p).reverse.takeWhile p).reverse := by
    rw [stripChars, ← List.reverse_append, List.takeWhile_append_dropWhile, List.reverse_reverse]
  refine ⟨cs.takeWhile p, ((cs.dropWhile p).reverse.takeWhile p).reverse, ?_, ?_, ?_⟩
  · rw [List.append_assoc, ← hback, List.takeWhile_append_dropWhile]
  · intro c hc
    exact List.mem_takeWhile_imp hc
  · intro c hc
    exact List.mem_takeWhile_imp (List.mem_reverse.1 hc)

/-- What is left does not end in a character of the class. -/
theorem getLast?_stripChars {c : Char} (h : (stripChars p cs).getLast? = some c) : p c = false := by
  rw [stripChars, List.getLast?_reverse] at h
  have hstop := List.head?_dropWhile_not p (cs.dropWhile p).reverse
  simpa [h] using hstop

/-- What is left does not begin with a character of the class. -/
theorem head?_stripChars {c : Char} (h : (stripChars p cs).head? = some c) : p c = false := by
  have hstop := List.head?_dropWhile_not p cs
  obtain ⟨rest, hrest⟩ := List.head?_eq_some_iff.1 h
  -- what is left stands at the front of what the first pass leaves
  have hfront : stripChars p cs <+: cs.dropWhile p := by
    rw [stripChars, ← List.reverse_suffix, List.reverse_reverse]
    exact List.dropWhile_suffix p
  obtain ⟨back, hback⟩ := hfront
  rw [← hback, hrest] at hstop
  simpa using hstop

/-- Nothing but what surrounds a list is cut off if the list neither begins nor ends with a
character of the class. -/
theorem stripChars_append {front middle back : List Char} (hfront : ∀ c ∈ front, p c = true)
    (hback : ∀ c ∈ back, p c = true) (hhead : ∀ c ∈ middle.head?, p c = false)
    (hlast : ∀ c ∈ middle.getLast?, p c = false) :
    stripChars p (front ++ middle ++ back) = middle := by
  have hkeep {l : List Char} (h : ∀ c ∈ l.head?, p c = false) : l.dropWhile p = l := by
    cases l with
    | nil => rfl
    | cons c rest => exact List.dropWhile_cons_of_neg (by simp [h c rfl])
  cases middle with
  | nil =>
      rw [stripChars_eq_nil_iff]
      intro c hc
      rw [List.append_nil, List.mem_append] at hc
      exact hc.elim (hfront c) (hback c)
  | cons first rest =>
      have hleft : (first :: rest ++ back).dropWhile p = first :: rest ++ back := hkeep hhead
      have hright : (first :: rest).reverse.dropWhile p = (first :: rest).reverse :=
        hkeep (by simpa only [List.head?_reverse] using hlast)
      calc stripChars p (front ++ first :: rest ++ back)
          = (((first :: rest ++ back).dropWhile p).reverse.dropWhile p).reverse := by
            rw [stripChars, List.append_assoc, List.dropWhile_append_of_pos hfront]
        _ = ((back.reverse ++ (first :: rest).reverse).dropWhile p).reverse := by
            rw [hleft, List.reverse_append]
        _ = ((first :: rest).reverse.dropWhile p).reverse := by
            rw [List.dropWhile_append_of_pos fun c hc => hback c (List.mem_reverse.1 hc)]
        _ = first :: rest := by
            rw [hright, List.reverse_reverse]

theorem isEmpty_strip (p : Char → Bool) (s : String) : (strip p s).isEmpty = s.toList.all p := by
  rw [Bool.eq_iff_iff, String.isEmpty_iff, strip, String.ofList_eq_empty_iff,
    stripChars_eq_nil_iff, List.all_eq_true]

/-- Nothing is left of a text when it is trimmed if it is blank. -/
theorem isEmpty_trim (s : String) : (trim s).isEmpty = isAllBlank s := isEmpty_strip isBlank s

/-- What trimming leaves is not trimmed any further. -/
theorem trim_trim (s : String) : trim (trim s) = trim s := by
  have hkept : stripChars isBlank (stripChars isBlank s.toList) = stripChars isBlank s.toList := by
    have happend := @stripChars_append isBlank [] (stripChars isBlank s.toList) [] nofun nofun
      (fun c hc => head?_stripChars hc) fun c hc => getLast?_stripChars hc
    simpa using happend
  rw [trim, strip, trim, strip, String.toList_ofList, hkept]

theorem nonBlank?_eq_some_iff {t : String} :
    nonBlank? s = some t ↔ isAllBlank s = false ∧ t = trim s := by
  rw [nonBlank?, isEmpty_trim]
  cases isAllBlank s with
  | true => simp
  | false => simp [eq_comm]

theorem nonBlank?_eq_none_iff : nonBlank? s = none ↔ isAllBlank s = true := by
  rw [nonBlank?, isEmpty_trim]
  cases isAllBlank s with
  | true => simp
  | false => simp

theorem exists_nonBlank? (h : isAllBlank s = false) : ∃ t, nonBlank? s = some t := by
  refine ⟨trim s, ?_⟩
  rw [nonBlank?, isEmpty_trim, h]
  rfl

/-- What is left of a text when it is trimmed is not blank, whatever follows it. -/
theorem isAllBlank_trim_append (h : (trim s).isEmpty = false) (t : String) :
    isAllBlank (trim s ++ t) = false := by
  have hleft : stripChars isBlank s.toList ≠ [] := by
    intro hnil
    have hempty : trim s = "" := String.ofList_eq_empty_iff.2 hnil
    rw [hempty] at h
    exact nomatch h
  obtain ⟨c, hc, hnot⟩ := exists_not_of_stripChars hleft
  rw [isAllBlank, List.all_eq_false]
  refine ⟨c, ?_, by simp [hnot]⟩
  rw [String.toList_append, trim, strip, String.toList_ofList]
  exact List.mem_append_left _ hc

end SecretConfig.Text
