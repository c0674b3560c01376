/-!
# Shortest decimals

The shortest decimal that stands for a binary number: among the decimals that are closer to it than
to any neighbour, those with the fewest digits, and of these the nearest one. Everything is decided
in whole numbers.
-/

namespace Manifest

/-- A number `digits · 10 ^ exponent`. -/
structure Decimal where
  digits : Nat
  exponent : Int
  deriving DecidableEq, Repr

namespace Decimal

/-- A positive number `mantissa · 2 ^ exponent` of a binary format. -/
structure Binary where
  mantissa : Nat
  exponent : Int
  /-- Whether the next smaller number of the format is half as far away as the next larger one. -/
  narrowBelow : Bool
  deriving DecidableEq, Repr

namespace Binary

/-- The magnitude that the 63 low bits of a number of 64 bits stand for. -/
def ofBits (bits : UInt64) : Binary :=
  let field : Nat := (bits.toNat / Nat.pow 2 52) % Nat.pow 2 11
  let fraction : Nat := bits.toNat % Nat.pow 2 52
  if field = 0 then ⟨fraction, -1074, false⟩
  else ⟨Nat.pow 2 52 + fraction, (field : Int) - 1075, fraction == 0 && decide (1 < field)⟩

/-- The number in quarters of the distance to the next larger one, over a common denominator: the
number, half the distance downwards, half the distance upwards, and the denominator. -/
def scaled (number : Binary) : Nat × Nat × Nat × Nat :=
  let shift := number.exponent - 2
  let unit := Nat.pow 2 shift.toNat
  (4 * number.mantissa * unit, (if number.narrowBelow then 1 else 2) * unit, 2 * unit,
    Nat.pow 2 (-shift).toNat)

/-- The power of ten of the first digit of a positive number. -/
def leadingPower (number : Binary) : Int :=
  let (value, _, _, denominator) := number.scaled
  if denominator ≤ value then (Nat.toDigits 10 (value / denominator)).length - 1
  else -((Nat.toDigits 10 ((denominator - 1) / value)).length : Int)

/-- The nearest multiple of a power of ten, of two equally near ones the even one, if it is closer
to the number than to its neighbours. A number halfway between two of the format belongs to the one
with the even mantissa. -/
def onGrid? (number : Binary) (power : Int) : Option Decimal :=
  let (value, below, above, denominator) := number.scaled
  let fine := Nat.pow 10 (-power).toNat
  let step := denominator * Nat.pow 10 power.toNat
  let floor := value * fine / step
  let closed := number.mantissa % 2 == 0
  let belongs (candidate : Nat) : Bool :=
    let low := (value - below) * fine
    let high := (value + above) * fine
    if closed then low ≤ candidate * step && candidate * step ≤ high
    else low < candidate * step && candidate * step < high
  let missing := value * fine - floor * step
  let excess := (floor + 1) * step - value * fine
  let (near, far) :=
    if missing < excess ∨ (missing = excess ∧ floor % 2 = 0) then (floor, floor + 1)
    else (floor + 1, floor)
  if belongs near then some ⟨near, power⟩
  else if belongs far then some ⟨far, power⟩
  else none

end Binary

/-- Moves zeros at the end of the digits into the exponent; at most `bound` of them. -/
def dropZeros (number : Decimal) : Nat → Decimal
  | 0 => number
  | bound + 1 =>
      if number.digits % 10 = 0 then dropZeros ⟨number.digits / 10, number.exponent + 1⟩ bound
      else number

/-- The shortest decimal that stands for a positive binary number; seventeen digits suffice. -/
def shortest (number : Binary) : Decimal :=
  let leading := number.leadingPower
  match (List.range 17).findSome? fun (extra : Nat) => number.onGrid? (leading - extra) with
  | some found => found.dropZeros 17
  | none => ⟨number.mantissa, number.exponent⟩

end Decimal

end Manifest
