/-!
# The nearest floating-point number

A binary floating-point number of 64 bits is `m · 2 ^ q` with `m < 2 ^ 53` and
`-1074 ≤ q ≤ 971`. This module rounds a ratio of natural numbers to the nearest such number, a
ratio half-way between two of them to the one with an even `m`, and a ratio too large for all of
them to infinity. It works on exact integers throughout.
-/

namespace Showdown.Decimal

/-- The value of the highest digit of a mantissa of full length, `2 ^ 52`. -/
def hiddenBit : Nat := 0x10000000000000

/-- The bit of a number that is set if the number is negative, `2 ^ 63`. -/
def signBit : Nat := 0x8000000000000000

/-- The quotient of two natural numbers rounded to the nearest, a half to the even neighbour. -/
def roundedQuotient (num den : Nat) : Nat :=
  let quotient := num / den
  let rest := num % den
  if 2 * rest < den || (2 * rest == den && quotient % 2 == 0) then quotient else quotient + 1

/-- The quotient of `num` and `den * 2 ^ q`, as a pair. -/
def scaled (num den : Nat) (q : Int) : Nat × Nat :=
  if 0 ≤ q then (num, den <<< q.toNat) else (num <<< (-q).toNat, den)

/-- The exponent `q` at which the ratio `num / den` has 53 binary digits before the point, but at
least the least exponent. -/
def binaryExponent (num den : Nat) : Int :=
  let q : Int := num.log2 - den.log2 - 52
  let (n, d) := scaled num den q
  max (if n / d < hiddenBit then q - 1 else q) (-1074)

/-- The bits of positive infinity. -/
def infinityBits : Nat := 0x7FF0000000000000

/-- The bits of the number nearest to `num / den`, with `den` positive. Counting up the bits of
positive numbers counts through the numbers in ascending order, so a mantissa that rounds up to
`2 ^ 53` carries into the exponent. -/
def nearestBits (num den : Nat) : Nat :=
  if num = 0 then 0
  else
    let q := binaryExponent num den
    let (n, d) := scaled num den q
    min infinityBits ((q + 1074).toNat * hiddenBit + roundedQuotient n d)

/-- The number nearest to `num / den`, or to its negative. -/
def nearest (negative : Bool) (num den : Nat) : Float :=
  let bits := nearestBits num den
  Float.ofBits (.ofNat (if negative then bits + signBit else bits))

/-- The number nearest to an integer. -/
def ofInt (i : Int) : Float :=
  nearest (i < 0) i.natAbs 1

/-- The number nearest to `m · 10 ^ e`, or to its negative. Far outside of the range of numbers
the power of ten is not computed: such a value is infinite or zero. -/
def ofScientific (negative : Bool) (m : Nat) (e : Int) : Float :=
  if m = 0 || e + m.log2 + 1 < -400 then nearest negative 0 1
  else if 400 < e then nearest negative (1 <<< 1024) 1
  else if 0 ≤ e then nearest negative (m * Nat.pow 10 e.toNat) 1
  else nearest negative m (Nat.pow 10 (-e).toNat)

end Showdown.Decimal
