import Mathlib.Data.List.Nodup
import SecretConfig.Proofs.Property.Renames

set_option autoImplicit false

/-! # Renaming all properties at once

Mappings are added one after the other, and a later one for the same name takes the place of an
earlier one. What they come to is one function on names, `Renaming.nameAfter`, and the renaming
applies it to every property exactly once (`Renaming.renames_at_once`): the value of a property
stands under its new name even if that is a name with a mapping of its own, so names can be shifted
along a chain or swapped. Nothing is lost unless two properties come to one name. -/

namespace SecretConfig

namespace Renaming

variable {pairs : List (String × String)} {ps : Properties} {key : String} {v : Json}

/-- The name that a property comes to by some mappings: the target of the last of them for its
name, or the name itself where there is none. -/
def nameAfter (pairs : List (String × String)) (key : String) : String :=
  ((pairs.filter fun p => p.1 = key).getLast?.map Prod.snd).getD key

theorem rename_ofList (pairs : List (String × String)) (key : String) :
    (ofList pairs).rename key = nameAfter pairs key := by
  have htarget : (ofList pairs).target? key =
      (pairs.filter fun p => p.1 = key).getLast?.map Prod.snd := by
    rw [target?, targets_ofList, Dict.get?_ofList]
  rw [rename, htarget, nameAfter]

/-- No two of the properties come to one name. -/
def Apart (pairs : List (String × String)) (ps : Properties) : Prop :=
  ∀ key ∈ ps.keys, ∀ other ∈ ps.keys, nameAfter pairs other = nameAfter pairs key → other = key

instance (pairs : List (String × String)) (ps : Properties) : Decidable (Apart pairs ps) :=
  inferInstanceAs (Decidable (∀ key ∈ ps.keys, ∀ other ∈ ps.keys, _ → _))

/-- **Properties that are kept apart are only called differently.** -/
theorem Apart.entries_perm (apart : Apart pairs ps) :
    ((ofList pairs).apply ps).entries.Perm
      (ps.entries.map fun e => (nameAfter pairs e.1, e.2)) := by
  have hrenamed : (ps.entries.map fun e => ((ofList pairs).rename e.1, e.2)) =
      ps.entries.map fun e => (nameAfter pairs e.1, e.2) := by
    simp only [rename_ofList]
  have hnames : ((ps.entries.map fun e => (nameAfter pairs e.1, e.2)).map Prod.fst) =
      ps.keys.map (nameAfter pairs) := by
    rw [List.map_map, Dict.keys, List.map_map]
    rfl
  -- the new names are different, as the old ones are and no two of them meet
  have hnodup : (ps.keys.map (nameAfter pairs)).Nodup := by
    refine List.Nodup.map_on ?_ ps.nodup_keys
    intro key hkey other hother hsame
    exact apart other hother key hkey hsame
  rw [apply, hrenamed]
  exact Entries.ofPairs_perm (hnames ▸ hnodup)

/-- A property that no greater one meets stands under its new name. -/
theorem get?_apply_nameAfter (found : ps.get? key = some v)
    (greatest : ∀ other ∈ ps.keys, nameAfter pairs other = nameAfter pairs key → other ≤ key) :
    ((ofList pairs).apply ps).get? (nameAfter pairs key) = some v := by
  rw [get?_apply_eq_some_iff]
  refine ⟨key, found, rename_ofList pairs key, ?_⟩
  intro other hother hmeets
  rw [rename_ofList] at hmeets
  exact greatest other hother hmeets

/-- **Renaming is one simultaneous step.** The names after it are those that properties come to.
Under each stands the value of the greatest old name that comes to it, and so each property that
meets no greater one has moved exactly once, wherever its new name would be moved itself. If no two
meet, the properties after it are the properties before it under their new names, as many as there
were and with the same values. -/
theorem renames_at_once (pairs : List (String × String)) (ps : Properties) :
    (∀ name, name ∈ ((ofList pairs).apply ps).keys ↔
      ∃ key ∈ ps.keys, nameAfter pairs key = name) ∧
    (∀ name v, ((ofList pairs).apply ps).get? name = some v ↔
      ∃ key, ps.get? key = some v ∧ nameAfter pairs key = name ∧
        ∀ other ∈ ps.keys, nameAfter pairs other = name → other ≤ key) ∧
    (∀ key v, ps.get? key = some v →
      (∀ other ∈ ps.keys, nameAfter pairs other = nameAfter pairs key → other ≤ key) →
      ((ofList pairs).apply ps).get? (nameAfter pairs key) = some v) ∧
    (Apart pairs ps →
      ((ofList pairs).apply ps).entries.Perm
        (ps.entries.map fun e => (nameAfter pairs e.1, e.2)) ∧
      ((ofList pairs).apply ps).size = ps.size ∧
      (((ofList pairs).apply ps).entries.map Prod.snd).Perm (ps.entries.map Prod.snd)) := by
  refine ⟨?_, ?_, fun key v => get?_apply_nameAfter, ?_⟩
  · intro name
    rw [mem_keys_apply]
    simp only [rename_ofList]
  · intro name v
    rw [get?_apply_eq_some_iff]
    simp only [rename_ofList]
  · intro apart
    have hperm := apart.entries_perm
    have hsize : ((ofList pairs).apply ps).size = ps.size := by
      have hlength := hperm.length_eq
      rw [List.length_map] at hlength
      exact hlength
    have hvalues := hperm.map Prod.snd
    rw [List.map_map] at hvalues
    exact ⟨hperm, hsize, hvalues⟩

/-- Mappings that swap two names and shift two others along a chain. The first is overwritten. -/
def crossedPairs : List (String × String) :=
  [("a", "z"), ("a", "b"), ("b", "a"), ("c", "d"), ("d", "e")]

/-- A property under each of the mapped names. -/
def crossedProperties : Properties :=
  Dict.ofList [("a", .str "1"), ("b", .str "2"), ("c", .str "3"), ("d", .str "4")]

/-- Swapped and shifted properties have moved once. -/
theorem renames_at_once_crossed :
    Apart crossedPairs crossedProperties ∧
      ((ofList crossedPairs).apply crossedProperties).get? "a" = some (.str "2") ∧
      ((ofList crossedPairs).apply crossedProperties).get? "b" = some (.str "1") ∧
      ((ofList crossedPairs).apply crossedProperties).get? "d" = some (.str "3") ∧
      ((ofList crossedPairs).apply crossedProperties).get? "e" = some (.str "4") ∧
      ((ofList crossedPairs).apply crossedProperties).size = 4 := by
  have hapart : Apart crossedPairs crossedProperties := by decide
  obtain ⟨-, -, hmoved, hkept⟩ := renames_at_once crossedPairs crossedProperties
  exact ⟨hapart, hmoved "b" (.str "2") (by decide) (by decide),
    hmoved "a" (.str "1") (by decide) (by decide), hmoved "c" (.str "3") (by decide) (by decide),
    hmoved "d" (.str "4") (by decide) (by decide), (hkept hapart).2.1⟩

end Renaming

end SecretConfig
