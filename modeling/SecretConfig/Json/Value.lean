import SecretConfig.Dict
import SecretConfig.Number.Binary64

set_option autoImplicit false

/-! # JSON values

A number is an integer of `-2^63 … 2^64 - 1` or a finite binary64. An object lists its
members; `Json.Canonical` says that at every depth the keys ascend strictly, which all
values built by `Json.object` and by the reader have. -/

namespace SecretConfig

/-- A JSON number. -/
inductive Number where
  | int (value : Int)
  | real (value : Binary64)
deriving DecidableEq, Repr, Inhabited

/-- A JSON value. -/
inductive Json where
  | null
  | bool (value : Bool)
  | num (value : Number)
  | str (value : String)
  | arr (items : List Json)
  | obj (fields : List (String × Json))
deriving Repr, Inhabited

namespace Json

/-! ## Equality is decidable -/

mutual

/-- Decide whether two values are equal. -/
def decEq : (a b : Json) → Decidable (a = b)
  | null, null => isTrue rfl
  | bool x, bool y => if h : x = y then isTrue (h ▸ rfl) else isFalse (fun e => h (Json.bool.inj e))
  | num x, num y => if h : x = y then isTrue (h ▸ rfl) else isFalse (fun e => h (Json.num.inj e))
  | str x, str y => if h : x = y then isTrue (h ▸ rfl) else isFalse (fun e => h (Json.str.inj e))
  | arr x, arr y =>
    match decEqItems x y with
    | isTrue h => isTrue (h ▸ rfl)
    | isFalse h => isFalse (fun e => h (Json.arr.inj e))
  | obj x, obj y =>
    match decEqFields x y with
    | isTrue h => isTrue (h ▸ rfl)
    | isFalse h => isFalse (fun e => h (Json.obj.inj e))
  | null, bool _ | null, num _ | null, str _ | null, arr _ | null, obj _ => isFalse nofun
  | bool _, null | bool _, num _ | bool _, str _ | bool _, arr _ | bool _, obj _ => isFalse nofun
  | num _, null | num _, bool _ | num _, str _ | num _, arr _ | num _, obj _ => isFalse nofun
  | str _, null | str _, bool _ | str _, num _ | str _, arr _ | str _, obj _ => isFalse nofun
  | arr _, null | arr _, bool _ | arr _, num _ | arr _, str _ | arr _, obj _ => isFalse nofun
  | obj _, null | obj _, bool _ | obj _, num _ | obj _, str _ | obj _, arr _ => isFalse nofun

/-- Decide whether two item lists are equal. -/
def decEqItems : (a b : List Json) → Decidable (a = b)
  | [], [] => isTrue rfl
  | [], _ :: _ | _ :: _, [] => isFalse nofun
  | x :: xs, y :: ys =>
    match decEq x y with
    | isFalse h => isFalse (fun e => h (List.cons.inj e).1)
    | isTrue h =>
      match decEqItems xs ys with
      | isTrue h' => isTrue (by rw [h, h'])
      | isFalse h' => isFalse (fun e => h' (List.cons.inj e).2)

/-- Decide whether two member lists are equal. -/
def decEqFields : (a b : List (String × Json)) → Decidable (a = b)
  | [], [] => isTrue rfl
  | [], _ :: _ | _ :: _, [] => isFalse nofun
  | (k, x) :: xs, (l, y) :: ys =>
    if hk : k = l then
      match decEq x y with
      | isFalse h => isFalse (fun e => h (Prod.mk.inj (List.cons.inj e).1).2)
      | isTrue h =>
        match decEqFields xs ys with
        | isTrue h' => isTrue (by rw [hk, h, h'])
        | isFalse h' => isFalse (fun e => h' (List.cons.inj e).2)
    else isFalse (fun e => hk (Prod.mk.inj (List.cons.inj e).1).1)

end

instance : DecidableEq Json := decEq

/-! ## Building and looking up -/

/-- The object with the given members; of two members with one key the later stays. -/
def object (fields : List (String × Json)) : Json := obj (Entries.ofPairs fields)

/-- The object of a dictionary. -/
def ofDict (d : Dict Json) : Json := obj d.entries

/-- The members of an object as a dictionary; any other value has none. -/
def toDict : Json → Dict Json
  | obj fields => Dict.ofList fields
  | _ => Dict.empty

/-- A natural number. -/
def nat (n : Nat) : Json := num (.int n)

/-- An integer. -/
def int (i : Int) : Json := num (.int i)

/-- An array of texts. -/
def strings (items : List String) : Json := arr (items.map str)

/-- A value that may be absent; absence is `null`. -/
def ofOption {α : Type} (f : α → Json) : Option α → Json
  | none => null
  | some a => f a

/-- The member of an object under a key. -/
def get? (key : String) : Json → Option Json
  | obj fields => Entries.get? key fields
  | _ => none

/-- At every depth the keys of an object ascend strictly. -/
inductive Canonical : Json → Prop where
  | null : Canonical null
  | bool (b : Bool) : Canonical (bool b)
  | num (n : Number) : Canonical (num n)
  | str (s : String) : Canonical (str s)
  | arr (items : List Json) (h : ∀ v ∈ items, Canonical v) : Canonical (arr items)
  | obj (fields : List (String × Json)) (sorted : Entries.Ascending fields)
      (h : ∀ e ∈ fields, Canonical e.2) : Canonical (obj fields)

theorem Canonical.object {fields : List (String × Json)} (h : ∀ e ∈ fields, e.2.Canonical) :
    (Json.object fields).Canonical :=
  .obj _ (Entries.Ascending.ofPairs fields) fun e he => h e (Entries.mem_ofPairs he)

end Json

end SecretConfig
