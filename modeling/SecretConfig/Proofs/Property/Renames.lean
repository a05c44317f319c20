import SecretConfig.Property.Renaming

set_option autoImplicit false

/-! # What renamed properties hold

Properties are renamed in ascending order of their names, and a later one takes the place of an
earlier one that has come to the same name. So under a new name stands the value of the greatest of
the old names that come to it (`Renaming.get?_apply_eq_some_iff`). A property is displaced only by a
rival, one with a greater name that comes to the same name. -/

namespace SecretConfig.Renaming

variable {r : Renaming} {ps : Properties} {key other name target : String} {v : Json}

theorem targets_ofList (pairs : List (String × String)) :
    (ofList pairs).targets = Dict.ofList pairs := by
  rw [Dict.ofList_eq_foldl]
  suffices ∀ r : Renaming, (pairs.foldl (fun r p => r.withMapping p.1 p.2) r).targets =
      pairs.foldl (fun acc p => acc.insert p.1 p.2) r.targets from this identity
  induction pairs with
  | nil => exact fun _ => rfl
  | cons p rest ih => exact fun r => ih _

theorem rename_of_target? (h : r.target? key = some target) : r.rename key = target := by
  rw [rename, h, Option.getD_some]

/-- The names after the renaming are those that properties come to. -/
theorem mem_keys_apply : name ∈ (r.apply ps).keys ↔ ∃ key ∈ ps.keys, r.rename key = name := by
  rw [apply, Dict.mem_keys_ofList, List.map_map, List.mem_map]
  constructor
  · rintro ⟨e, he, hname⟩
    exact ⟨e.1, List.mem_map.2 ⟨e, he, rfl⟩, hname⟩
  · rintro ⟨key, hkey, hname⟩
    obtain ⟨e, he, rfl⟩ := List.mem_map.1 hkey
    exact ⟨e, he, hname⟩

/-- **Of the properties that come to a name, the one with the greatest old name stays.** -/
theorem get?_apply_eq_some_iff : (r.apply ps).get? name = some v ↔
    ∃ key, ps.get? key = some v ∧ r.rename key = name ∧
      ∀ other ∈ ps.keys, r.rename other = name → other ≤ key := by
  rw [apply, Dict.get?_ofList_map_eq_some_iff ps.sorted fun _ _ => String.lt_asymm]
  constructor
  · rintro ⟨e, he, hname, rfl, hlast⟩
    refine ⟨e.1, Dict.get?_eq_some_iff.2 he, hname, fun other hother meets => ?_⟩
    obtain ⟨e', he', rfl⟩ := List.mem_map.1 hother
    by_cases heq : e' = e
    · subst heq
      exact String.le_refl _
    · exact String.not_lt.1 (String.lt_asymm (hlast e' he' meets heq))
  · rintro ⟨key, hv, hname, greatest⟩
    refine ⟨(key, v), Dict.get?_eq_some_iff.1 hv, hname, rfl, fun e he meets ne => ?_⟩
    have hle := greatest e.1 (List.mem_map.2 ⟨e, he, rfl⟩) meets
    refine String.not_le.1 fun hge => ne ?_
    -- a name has one property
    have hkey := String.le_antisymm hle hge
    have hfound := Dict.get?_eq_some_iff.2 he
    rw [hkey, hv] at hfound
    exact Prod.ext hkey (Option.some.inj hfound).symm

/-! ## Rivals -/

/-- Another property comes to the same name, from a greater one. -/
structure Rivals (r : Renaming) (ps : Properties) (key other : String) : Prop where
  greater : key < other
  held : other ∈ ps.keys
  meets : r.rename other = r.rename key

instance (r : Renaming) (ps : Properties) (key other : String) :
    Decidable (r.Rivals ps key other) :=
  decidable_of_iff (key < other ∧ other ∈ ps.keys ∧ r.rename other = r.rename key)
    ⟨fun h => ⟨h.1, h.2.1, h.2.2⟩, fun h => ⟨h.greater, h.held, h.meets⟩⟩

/-- **What becomes of a property.** It stands under its new name, or the greatest of its rivals
does. -/
theorem get?_apply_rename (found : ps.get? key = some v) :
    ((∀ other, ¬ r.Rivals ps key other) ∧ (r.apply ps).get? (r.rename key) = some v) ∨
      ∃ other, r.Rivals ps key other ∧ (∀ other', r.Rivals ps key other' → other' ≤ other) ∧
        (r.apply ps).get? (r.rename key) = ps.get? other := by
  have held : key ∈ ps.keys := Dict.mem_keys_iff.2 (Option.isSome_of_eq_some found)
  obtain ⟨w, hw⟩ := Option.isSome_iff_exists.1
    (Dict.mem_keys_iff.1 (mem_keys_apply (r := r).2 ⟨key, held, rfl⟩))
  obtain ⟨winner, hwinner, meets, greatest⟩ := get?_apply_eq_some_iff.1 hw
  by_cases heq : winner = key
  · subst heq
    refine .inl ⟨fun other rivals => ?_, hw.trans (hwinner.symm.trans found)⟩
    exact String.not_lt.2 (greatest other rivals.held rivals.meets) rivals.greater
  · refine .inr ⟨winner, ⟨?_, ?_, meets⟩, ?_, hw.trans hwinner.symm⟩
    · exact String.not_le.1 fun hle => heq (String.le_antisymm hle (greatest key held rfl))
    · exact Dict.mem_keys_iff.2 (Option.isSome_of_eq_some hwinner)
    · exact fun other rivals => greatest other rivals.held rivals.meets

end SecretConfig.Renaming
