import BoundaryLog.Decimal.Binary64

/-! # The shortest decimal that reads back

Of all decimals that round to a given binary64 number, the one with the fewest digits, and of
several such the nearest.  The search goes from coarse decimal grids to fine ones and tests the
two neighbours of the number on each grid, in whole numbers throughout. -/
set_option autoImplicit false
namespace BoundaryLog.Decimal

/-- The decimals that round to one magnitude: a fraction with its two ends over one denominator,
the ends included when `closed`. -/
structure Band where
  low : Nat
  mid : Nat
  high : Nat
  den : Nat
  closed : Bool

/-- The band of a magnitude: half a unit up, and half of the gap to the next smaller one down. -/
def Binary64.band (x : Binary64) : Band :=
  let m := x.significand
  let up := Nat.pow 2 (x.exponent - 2).toNat
  { low := (4 * m - if x.closeBelow then 1 else 2) * up
    mid := 4 * m * up
    high := (4 * m + 2) * up
    den := Nat.pow 2 (2 - x.exponent).toNat
    closed := m % 2 == 0 }

namespace Band

/-- The exponent of the leading decimal digit of the middle. -/
def leading (b : Band) : Int :=
  if b.den ≤ b.mid then (Nat.toDigits 10 (b.mid / b.den)).length - 1
  else -(Nat.toDigits 10 ((b.den - 1) / b.mid)).length

/-- Whether `coefficient · 10 ^ e` lies in the band. -/
def holds (b : Band) (e : Int) (coefficient : Nat) : Bool :=
  let value := coefficient * Nat.pow 10 e.toNat * b.den
  let low := b.low * Nat.pow 10 (-e).toNat
  let high := b.high * Nat.pow 10 (-e).toNat
  if b.closed then low ≤ value && value ≤ high else low < value && value < high

/-- The member of the grid of multiples of `10 ^ e` that is in the band and nearest to its
middle; of two equally near ones the even. -/
def nearest? (b : Band) (e : Int) : Option Nat :=
  let step := Nat.pow 10 e.toNat * b.den
  let mid := b.mid * Nat.pow 10 (-e).toNat
  let below := mid / step
  let fromBelow := mid - below * step
  let fromAbove := (below + 1) * step - mid
  match b.holds e below, b.holds e (below + 1) with
  | false, false => none
  | true, false => some below
  | false, true => some (below + 1)
  | true, true =>
      if fromBelow < fromAbove || fromBelow == fromAbove && below % 2 == 0 then some below
      else some (below + 1)

end Band

/-- Decimal digits with the place of the point: `0.d₁d₂… · 10 ^ point`. -/
structure Digits where
  digits : List Char
  point : Int

/-- `coefficient · 10 ^ e`, without zeros at the end. -/
def Digits.ofScaled (coefficient : Nat) (e : Int) : Digits :=
  let ds := Nat.toDigits 10 coefficient
  { digits := (ds.reverse.dropWhile (· == '0')).reverse
    point := ds.length + e }

/-- The shortest decimal of a magnitude.  Seventeen digits always suffice. -/
def Binary64.shortest (x : Binary64) : Digits :=
  if x.significand = 0 then ⟨['0'], 1⟩
  else
    let band := x.band
    let found := (List.range 17).findSome? fun k : Nat =>
      let e := band.leading - (k : Int)
      (band.nearest? e).map fun c => Digits.ofScaled c e
    found.getD (Digits.ofScaled (band.mid / band.den) 0)

end BoundaryLog.Decimal
