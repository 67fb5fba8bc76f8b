/-!
Double precision numbers as bit patterns, and the nearest of them to a decimal.
-/
namespace BroadcastQuery

/-- A number of the binary format with 64 bits: sign, 11 bits of exponent, 52 of fraction. -/
structure Binary64 where
  bits : UInt64
deriving DecidableEq, Repr

namespace Binary64

def zero : Binary64 := ⟨0⟩

/-- The least number that takes more than 53 bits. -/
def fractionLimit : Nat := 0x20000000000000

/-- The distance between the bits of a double and those of twice the double. -/
def exponentUnit : Nat := 0x10000000000000

def infinity : Nat := 0x7FF0000000000000

def signBit : Nat := 0x8000000000000000

/-- A quotient rounded to the nearest whole number, a half to the even one. -/
def roundDiv (numerator denominator : Nat) : Nat :=
  let quotient := numerator / denominator
  let twice := 2 * (numerator % denominator)
  if twice < denominator then quotient
  else if denominator < twice then quotient + 1
  else quotient + quotient % 2

/-- A positive quotient divided by a power of two, as a numerator and a denominator. -/
def scaled (numerator denominator : Nat) (power : Int) : Nat × Nat :=
  if power < 0 then (numerator <<< power.natAbs, denominator)
  else (numerator, denominator <<< power.natAbs)

/-- The bits of the nearest double to a positive quotient; from those of infinity on they stand
for no finite double. The unit of the last place is chosen so that the fraction has 53 bits, or
is the smallest unit there is. -/
def magnitude (numerator denominator : Nat) : Nat :=
  let size : Int := Int.ofNat numerator.log2 - Int.ofNat denominator.log2
  let low : Int := max (size - 53) (-1074)
  let wide := scaled numerator denominator low
  let unit := if wide.1 / wide.2 < fractionLimit then low else low + 1
  let (n, d) := scaled numerator denominator unit
  let fraction := roundDiv n d
  if fraction < exponentUnit then fraction
  else (unit + 1075).toNat * exponentUnit + (fraction - exponentUnit)

/-- The nearest double to `digits` times a power of ten, unless that is beyond the largest. -/
def ofDecimal? (negative : Bool) (digits : Nat) (exponent : Int) : Option Binary64 :=
  let length : Int := Int.ofNat (Nat.toDigits 10 digits).length
  let sign := if negative then signBit else 0
  if digits = 0 || length + exponent < -400 then some ⟨.ofNat sign⟩
  else if 400 < length + exponent then none
  else
    let found :=
      if exponent < 0 then magnitude digits (Nat.pow 10 exponent.natAbs)
      else magnitude (digits * Nat.pow 10 exponent.natAbs) 1
    if found < infinity then some ⟨.ofNat (sign + found)⟩ else none

end Binary64
end BroadcastQuery
