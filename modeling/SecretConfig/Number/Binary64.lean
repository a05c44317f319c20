set_option autoImplicit false

/-! # Finite binary64 numbers

A `Binary64` is a sign and `mantissa * 2 ^ exponent`, kept with the largest mantissa
below `2 ^ 53` that an exponent of at least `-1074` allows. Rounding is exact `Nat`
arithmetic: to the nearest neighbour, a half to the even one.

`ofParts?` reads `significand * 10 ^ exponent` in at most three roundings (significand,
power of ten, product or quotient), and `shortest` finds the fewest decimal digits that
lie in the rounding interval of the number. -/

namespace SecretConfig

/-- A finite binary64 number, `± mantissa * 2 ^ exponent`. -/
structure Binary64 where
  negative : Bool
  mantissa : Nat
  exponent : Int
deriving DecidableEq, Repr, Inhabited

namespace Binary64

/-- The least exponent, that of the subnormal numbers. -/
def minExponent : Int := -1074

/-- The largest exponent of a finite number. -/
def maxExponent : Int := 971

/-- Zero of either sign. -/
def zero (negative : Bool) : Binary64 := ⟨negative, 0, minExponent⟩

/-- The integer nearest to `num / den`, a half going to the even neighbour. -/
def divNearest (num den : Nat) : Nat :=
  let q := num / den
  let r := num % den
  if 2 * r < den ∨ (2 * r = den ∧ q % 2 = 0) then q else q + 1

/-- `num / den / 2 ^ e` as a ratio of naturals. -/
def scaleRatio (num den : Nat) (e : Int) : Nat × Nat :=
  if 0 ≤ e then (num, den * Nat.pow 2 e.toNat) else (num * Nat.pow 2 (-e).toNat, den)

/-- The number nearest to `num / den`; `none` beyond the finite range. -/
def ofRatio? (negative : Bool) (num den : Nat) : Option Binary64 :=
  if num = 0 then some (zero negative)
  else
    let low : Int := (num.log2 : Int) - (den.log2 : Int) - 53
    let (n₀, d₀) := scaleRatio num den low
    let e := max (if n₀ / d₀ ≥ Nat.pow 2 53 then low + 1 else low) minExponent
    let (n, d) := scaleRatio num den e
    let m := divNearest n d
    let (m, e) := if m = Nat.pow 2 53 then (Nat.pow 2 52, e + 1) else (m, e)
    if e > maxExponent then none else some ⟨negative, m, e⟩

/-- The number as a ratio of naturals, without its sign. -/
def toRatio (x : Binary64) : Nat × Nat :=
  if 0 ≤ x.exponent then (x.mantissa * Nat.pow 2 x.exponent.toNat, 1)
  else (x.mantissa, Nat.pow 2 (-x.exponent).toNat)

/-- The rounded product. -/
def mul? (x y : Binary64) : Option Binary64 :=
  ofRatio? (x.negative != y.negative) (x.toRatio.1 * y.toRatio.1) (x.toRatio.2 * y.toRatio.2)

/-- The rounded quotient; only ever used with a divisor that is not zero. -/
def div? (x y : Binary64) : Option Binary64 :=
  ofRatio? (x.negative != y.negative) (x.toRatio.1 * y.toRatio.2) (x.toRatio.2 * y.toRatio.1)

/-- The power of ten nearest to `10 ^ n`, for `n ≤ 308`. -/
def powTen (n : Nat) : Binary64 := (ofRatio? false (Nat.pow 10 n) 1).getD (zero false)

/-- Divide by `10 ^ n`, in steps of `10 ^ 308`; a result of zero stays. -/
def divPowTen (fuel : Nat) (x : Binary64) (n : Nat) : Binary64 :=
  match fuel with
  | 0 => x
  | fuel + 1 =>
    if n ≤ 308 then (x.div? (powTen n)).getD x
    else if x.mantissa = 0 then x
    else divPowTen fuel ((x.div? (powTen 308)).getD x) (n - 308)

/-- The number `significand * 10 ^ exponent`, read as the rounded significand times or over
the rounded power of ten; `none` when that leaves the finite range. -/
def ofParts? (negative : Bool) (significand : Nat) (exponent : Int) : Option Binary64 :=
  match ofRatio? negative significand 1 with
  | none => none
  | some x =>
    if 0 ≤ exponent then
      if exponent ≤ 308 then x.mul? (powTen exponent.toNat)
      else if significand = 0 then some x
      else none
    else some (divPowTen 8 x (-exponent).toNat)

/-! ## Shortest decimal digits -/

/-- Twice the bounds of the interval of reals that round to the number, over the denominator
of `toRatio` times two: `(low, high, den)`. -/
def interval (x : Binary64) : Nat × Nat × Nat :=
  let (n, d) := x.toRatio
  let unit := if 0 ≤ x.exponent then Nat.pow 2 x.exponent.toNat else 1
  let atPower := x.mantissa = Nat.pow 2 52 ∧ x.exponent > minExponent
  if atPower then (4 * n - unit, 4 * n + 2 * unit, 4 * d)
  else (2 * n - unit, 2 * n + unit, 2 * d)

/-- `a / b` lies in the rounding interval, whose ends count when the mantissa is even. -/
def readsBack (x : Binary64) (a b : Nat) : Bool :=
  let (low, high, den) := x.interval
  if x.mantissa % 2 = 0 then low * b ≤ a * den && a * den ≤ high * b
  else low * b < a * den && a * den < high * b

/-- A ratio `digits * 10 ^ e` as naturals. -/
def decimalRatio (digits : Nat) (e : Int) : Nat × Nat :=
  if 0 ≤ e then (digits * Nat.pow 10 e.toNat, 1) else (digits, Nat.pow 10 (-e).toNat)

/-- The neighbour of the number on the grid of multiples of `10 ^ e` that reads back; of two
the nearer. -/
def onGrid (x : Binary64) (e : Int) : Option Nat :=
  let (n, d) := x.toRatio
  let (gn, gd) := decimalRatio 1 e
  let below := (n * gd) / (d * gn)
  let back := fun k => let (a, b) := decimalRatio k e; k ≠ 0 && x.readsBack a b
  let nearest := divNearest (n * gd) (d * gn)
  if back nearest then some nearest
  else if back below then some below
  else if back (below + 1) then some (below + 1)
  else none

/-- The first exponent, going down, on whose grid a neighbour reads back. -/
def firstGrid (x : Binary64) : Nat → Int → Nat × Int
  | 0, e => ((x.onGrid e).getD 0, e)
  | fuel + 1, e =>
    match x.onGrid e with
    | some k => (k, e)
    | none => firstGrid x fuel (e - 1)

/-- An upper bound for the decimal exponent of the leading digit. -/
def leadingExponent (x : Binary64) : Int :=
  let (n, d) := x.toRatio
  ((n.log2 : Int) - (d.log2 : Int) + 1) * 30103 / 100000 + 1

/-- Drop the zeros at the end of a digit count, raising the exponent for each. -/
def dropZeros : Nat → Nat → Int → Nat × Int
  | 0, k, e => (k, e)
  | fuel + 1, k, e => if k % 10 = 0 ∧ k ≠ 0 then dropZeros fuel (k / 10) (e + 1) else (k, e)

/-- The fewest decimal digits that read back, and the exponent of the last of them. -/
def shortest (x : Binary64) : Nat × Int :=
  if x.mantissa = 0 then (0, 0)
  else
    let (k, e) := x.firstGrid 24 x.leadingExponent
    dropZeros 24 k e

/-- The text of a number: all digits in positional notation while the leading digit stands
for at least `10 ^ -5` and less than `10 ^ 16`, otherwise with an exponent, of which `plus`
says whether it has a sign also when it is positive; an integer keeps the digit `0` after its
point. -/
def textWith (plus : Bool) (x : Binary64) : String :=
  let sign := if x.negative then "-" else ""
  if x.mantissa = 0 then sign ++ "0.0"
  else
    let (k, e) := x.shortest
    let digits := (toString k).toList
    let lead : Int := e + digits.length - 1
    let body : List Char :=
      if -5 ≤ lead ∧ lead ≤ 15 then
        if 0 ≤ e then digits ++ List.replicate e.toNat '0' ++ ['.', '0']
        else if 0 ≤ lead then
          digits.take (lead.toNat + 1) ++ '.' :: digits.drop (lead.toNat + 1)
        else '0' :: '.' :: List.replicate ((-lead).toNat - 1) '0' ++ digits
      else
        let mantissa := match digits with
          | [] => []
          | [d] => [d]
          | d :: rest => d :: '.' :: rest
        let mark := if lead < 0 then ['-'] else if plus then ['+'] else []
        mantissa ++ 'e' :: mark ++ (toString lead.natAbs).toList
    sign ++ String.ofList body

/-- The text of a number with a sign in every exponent. -/
def text (x : Binary64) : String := textWith true x

end Binary64

end SecretConfig
