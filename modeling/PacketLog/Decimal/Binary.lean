/-! # Binary floating-point numbers

Positive numbers of the form m · 2^q with a mantissa of 53 bits. `Binary.round` finds the one
nearest to a decimal number, and `Binary.shortest` the decimal number with the fewest digits that
leads back to it, the nearest of several. All arithmetic is on whole numbers.
-/

namespace PacketLog

/-- A ratio of natural numbers. -/
structure Ratio where
  num : Nat
  den : Nat
  deriving Repr

namespace Ratio

/-- The ratio n · b^e. -/
def scaled (n base : Nat) (e : Int) : Ratio :=
  if 0 ≤ e then ⟨n * base.pow e.toNat, 1⟩ else ⟨n, base.pow e.natAbs⟩

/-- Whether one ratio is less than another. -/
def lt (a b : Ratio) : Bool := a.num * b.den < b.num * a.den

/-- The greatest whole number that does not exceed a ratio. -/
def floor (a : Ratio) : Nat := a.num / a.den

/-- The quotient of two ratios. -/
def div (a b : Ratio) : Ratio := ⟨a.num * b.den, a.den * b.num⟩

/-- The whole number nearest to a ratio; a tie goes to the even one. -/
def roundEven (a : Ratio) : Nat :=
  let quotient := a.num / a.den
  let twice := 2 * (a.num % a.den)
  if twice > a.den ∨ (twice = a.den ∧ quotient % 2 = 1) then quotient + 1 else quotient

end Ratio

/-- The number mantissa · 2^exponent. -/
structure Binary where
  mantissa : Nat
  exponent : Int
  deriving DecidableEq, Repr

namespace Binary

/-- The exponent of the smallest numbers. -/
def least : Int := -1074

/-- The exponent of the greatest numbers. -/
def greatest : Int := 971

/-- The mantissas are less than this. -/
def mantissaLimit : Nat := 1 <<< 53

/-- The greatest exponent of two whose power does not exceed a positive ratio. -/
def log2 (a : Ratio) : Int :=
  let guess : Int := (Nat.log2 a.num : Int) - Nat.log2 a.den
  if a.lt (.scaled 1 2 guess) then guess - 1 else guess

/-- The number nearest to a ratio, unless all numbers are too small. -/
def ofRatio (a : Ratio) : Option Binary :=
  if a.num = 0 then some ⟨0, least⟩
  else
    let exponent := max (log2 a - 52) least
    let mantissa := (a.div (.scaled 1 2 exponent)).roundEven
    let (mantissa, exponent) :=
      if mantissa = mantissaLimit then (mantissa / 2, exponent + 1) else (mantissa, exponent)
    if greatest < exponent then none else some ⟨mantissa, exponent⟩

/-- The number nearest to n · 10^e, unless all numbers are too small. -/
def round (n : Nat) (e : Int) : Option Binary :=
  let size : Int := (Nat.toDigits 10 n).length + e
  if n = 0 ∨ size < -330 then some ⟨0, least⟩
  else if 330 < size then none
  else ofRatio (.scaled n 10 e)

/-- A quarter of the distance to the next greater number. -/
def quarter (b : Binary) : Ratio := .scaled 1 2 (b.exponent - 2)

/-- Whether a ratio rounds to the number. A tie does if the mantissa is even. -/
def isNearestTo (b : Binary) (a : Ratio) : Bool :=
  let isPower := b.mantissa * 2 = mantissaLimit ∧ least < b.exponent
  let scale (n : Nat) : Ratio := ⟨n * b.quarter.num, b.quarter.den⟩
  let low := scale (4 * b.mantissa - if isPower then 1 else 2)
  let high := scale (4 * b.mantissa + 2)
  if b.mantissa % 2 = 0 then !a.lt low && !high.lt a else low.lt a && a.lt high

/-- The nearest point to the number on the grid of the multiples of 10^place, among those that round
to it. -/
def onGrid? (b : Binary) (place : Int) : Option Nat :=
  let value : Ratio := .scaled b.mantissa 2 b.exponent
  let below := (value.div (.scaled 1 10 place)).floor
  let hits (n : Nat) : Bool := n != 0 && b.isNearestTo (.scaled n 10 place)
  if hits below && hits (below + 1) then
    some (if (Ratio.scaled (2 * below + 1) 10 place).lt ⟨2 * value.num, value.den⟩ then below + 1
      else below)
  else if hits below then some below
  else if hits (below + 1) then some (below + 1)
  else none

/-- The places of the grids that can be needed, the coarsest first. -/
def places : List Int := (List.range 633).map fun (i : Nat) => 308 - (i : Int)

/-- The decimal number n · 10^e with the fewest digits that rounds to the number, the nearest of
several. -/
def shortest (b : Binary) : Nat × Int :=
  (places.findSome? fun place => (b.onGrid? place).map (·, place)).getD (0, 0)

end Binary

end PacketLog
