import Manifest.Decimal.Shortest
import Manifest.Json.Token

/-!
# The numbers that numerals stand for

A numeral without fraction and exponent is a whole number as long as 64 bits hold it. Any other one
is a floating number; its value is the significand, as far as 64 bits hold it, times or divided by a
power of ten, with one rounding in each step. A numeral beyond the largest floating number stands
for nothing.
-/

namespace Manifest.Json

/-- The number that a numeral stands for. -/
inductive Number where
  | natural (number : UInt64)
  | negative (number : Int64)
  | floating (number : Float)

/-- Reads digits behind a significand as long as 64 bits hold the result. Gives the significand and
the digits that are left. -/
def extendSignificand (significand : Nat) : List Char → Nat × List Char
  | [] => (significand, [])
  | digit :: rest =>
      let extended := significand * 10 + (digit.toNat - '0'.toNat)
      if extended < UInt64.size then extendSignificand extended rest else (significand, digit :: rest)

/-- The largest power of ten that one factor can be. -/
def largestPower : Nat := 308

def powerOfTen (power : Nat) : Float := Float.ofScientific 1 false power

/-- A magnitude times a power of ten, if it is finite. Very small powers take several steps. -/
def scaleByPower (magnitude : Float) (power : Int) : Option Float :=
  if power.natAbs ≤ largestPower then
    if 0 ≤ power then
      let scaled := magnitude * powerOfTen power.toNat
      if scaled.isInf then none else some scaled
    else some (magnitude / powerOfTen power.natAbs)
  else if magnitude == 0 then some magnitude
  else if 0 ≤ power then none
  else scaleByPower (magnitude / powerOfTen largestPower) (power + largestPower)
termination_by power.natAbs
decreasing_by simp_all [largestPower]; omega

def withSign (negative : Bool) (magnitude : Float) : Float :=
  if negative then -magnitude else magnitude

namespace Numeral

/-- Whether a numeral is written with a fraction or an exponent. -/
def isFloating (numeral : Numeral) : Bool :=
  !(numeral.fraction.isEmpty && numeral.exponent.isEmpty)

def exponentValue (numeral : Numeral) : Nat :=
  numeral.exponent.foldl (fun value digit => value * 10 + (digit.toNat - '0'.toNat)) 0

/-- The number that a numeral stands for, unless it is too large. -/
def number? (numeral : Numeral) : Option Number :=
  let (whole, wholeLeft) := extendSignificand 0 numeral.whole
  let (significand, fractionLeft) := extendSignificand whole numeral.fraction
  let power : Int := wholeLeft.length - (numeral.fraction.length - fractionLeft.length : Nat)
  if numeral.isFloating || !wholeLeft.isEmpty then
    if Nat.pow 2 31 ≤ numeral.exponentValue then
      if significand ≠ 0 ∧ numeral.exponentNegative = false then none
      else some (.floating (withSign numeral.negative 0))
    else
      let exponent : Int :=
        if numeral.exponentNegative then -numeral.exponentValue else numeral.exponentValue
      (scaleByPower significand.toUInt64.toFloat (power + exponent)).map fun magnitude =>
        .floating (withSign numeral.negative magnitude)
  else if numeral.negative then
    if 0 < significand ∧ significand ≤ Nat.pow 2 63 then some (.negative (Int64.ofInt (-significand)))
    else some (.floating (-significand.toUInt64.toFloat))
  else some (.natural significand.toUInt64)

end Numeral

def exponentText (exponent : Int) : List Char :=
  'e' :: (if exponent < 0 then '-' else '+') :: (toString exponent.natAbs).toList

/-- The text of a finite floating number: its shortest digits, positional as long as the point is
not more than 16 places from the front or 4 zeros behind it, and otherwise with one digit before the
point and an exponent, which always has a sign. A whole number keeps one zero behind the point in
positional form. -/
def floatText (number : Float) : String :=
  let bits := number.toBits
  let sign := if bits.toNat < Nat.pow 2 63 then "" else "-"
  let magnitude := Decimal.Binary.ofBits bits
  if magnitude.mantissa = 0 then sign ++ "0.0"
  else
    let decimal := Decimal.shortest magnitude
    let digits := Nat.toDigits 10 decimal.digits
    let point := digits.length + decimal.exponent
    let body : List Char :=
      if 0 ≤ decimal.exponent ∧ point ≤ 16 then
        digits ++ List.replicate decimal.exponent.toNat '0' ++ ['.', '0']
      else if 0 < point ∧ point ≤ 16 then
        digits.take point.toNat ++ '.' :: digits.drop point.toNat
      else if -5 < point ∧ point ≤ 0 then
        '0' :: '.' :: List.replicate (-point).toNat '0' ++ digits
      else
        let exponent := exponentText (point - 1)
        match digits with
        | [digit] => digit :: exponent
        | digit :: rest => digit :: '.' :: rest ++ exponent
        | [] => exponent
    sign ++ String.ofList body

end Manifest.Json
