/-! The shortest decimal that reads back as a given binary float. -/
namespace SqlTree.Decimal

/-- The value `digits * 10 ^ exponent`. -/
structure Scientific where
  digits : Nat
  exponent : Int
  deriving DecidableEq

/-- The numbers that round to one float: from `low` to `high` around `value`, all counted in
units of `1 / unit`. -/
structure Rounding where
  low : Nat
  value : Nat
  high : Nat
  unit : Nat
  /-- Whether the two ends round to this float too. -/
  closed : Bool

namespace Rounding

/-- The interval of `mantissa * 2 ^ exponent`. Each end lies halfway to the next float, and below a
power of two the next float is half as far away. Ends go to the even mantissa. -/
def ofBinary (mantissa : Nat) (exponent : Int) : Rounding :=
  let scale := Nat.pow 2 (exponent - 2).toNat
  let narrow := mantissa = Nat.pow 2 52 ∧ exponent ≠ -1074
  { low := (4 * mantissa - if narrow then 1 else 2) * scale
    value := 4 * mantissa * scale
    high := (4 * mantissa + 2) * scale
    unit := Nat.pow 2 (2 - exponent).toNat
    closed := mantissa % 2 = 0 }

/-- The same interval counted in multiples of `10 ^ exponent`. -/
def onGrid (r : Rounding) (exponent : Int) : Rounding :=
  let scale := Nat.pow 10 (-exponent).toNat
  { r with
    low := r.low * scale
    value := r.value * scale
    high := r.high * scale
    unit := r.unit * Nat.pow 10 exponent.toNat }

def contains (r : Rounding) (n : Nat) : Bool :=
  if r.closed then r.low ≤ n * r.unit ∧ n * r.unit ≤ r.high
  else r.low < n * r.unit ∧ n * r.unit < r.high

/-- The whole number of the interval that is nearest to the value; a tie goes up. -/
def nearest? (r : Rounding) : Option Nat :=
  let n := r.value / r.unit
  if r.contains n ∧ (¬ r.contains (n + 1) ∨ 2 * r.value < (2 * n + 1) * r.unit) then some n
  else if r.contains (n + 1) then some (n + 1)
  else none

end Rounding

/-- The exponents of ten to try, from the coarsest grid to the one on which every float lies. -/
def gridExponents : List Int :=
  (List.range 1384).map fun (n : Nat) => (309 - n : Int)

/-- The first grid that holds a number of the interval gives the fewest digits. -/
def shortest (mantissa : Nat) (exponent : Int) : Scientific :=
  let r := Rounding.ofBinary mantissa exponent
  let found := gridExponents.findSome? fun g => (r.onGrid g).nearest?.map (Scientific.mk · g)
  found.getD ⟨0, 0⟩

end SqlTree.Decimal
