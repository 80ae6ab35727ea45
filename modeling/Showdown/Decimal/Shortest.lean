import Showdown.Decimal.Nearest

/-!
# The shortest decimal

A floating-point number is written with the fewest digits that are read back as the same number,
and of those with the digits nearest to it, half-way with the greater ones.

The numbers that round to `m · 2 ^ q` lie between the two points half-way to its neighbours; the
two points belong to them if `m` is even. The grids of multiples of a power of ten are tried from
the coarsest on. If a grid has a point in that interval, one of the two points around the number
itself is such a point.
-/

namespace Showdown.Decimal

/-- A positive decimal, `digits · 10 ^ exponent`. -/
structure Positive where
  /-- The digits as one number. -/
  digits : Nat
  /-- The power of ten of the last digit. -/
  exponent : Int

/-- The mantissa and the exponent of a number with the given bits, sign aside. -/
def decode (bits : Nat) : Nat × Int :=
  let fraction := bits % hiddenBit
  let e : Nat := bits / hiddenBit % 2048
  if e = 0 then (fraction, -1074) else (fraction + hiddenBit, (e : Int) - 1075)

/-- A point `d` on the grid of step `n / d`-ths: the number is `num / den` steps, and the interval
reaches from `low / den` to `high / den`, ends included if `closed`. Of the two points around the
number the one in the interval is taken, of both the nearer, and half-way the one above. -/
def gridPoint? (num low high den : Nat) (closed : Bool) : Option Nat :=
  let inside (d : Nat) : Bool :=
    if closed then low ≤ d * den && d * den ≤ high else low < d * den && d * den < high
  let below := num / den
  let above := below + 1
  let nearer := if 2 * (num % den) < den then below else above
  match inside below, inside above with
  | true, true => some nearer
  | true, false => some below
  | false, true => some above
  | false, false => none

/-- The first grid with a point in the interval, from the power `e` of ten downwards. -/
def firstGrid (num low high den : Nat) (closed : Bool) (e : Int) : Nat → Positive
  | 0 => ⟨0, 0⟩
  | fuel + 1 =>
    let up := Nat.pow 10 (-e).toNat
    match gridPoint? (num * up) (low * up) (high * up) (den * Nat.pow 10 e.toNat) closed with
    | some d => ⟨d, e⟩
    | none => firstGrid num low high den closed (e - 1) fuel

/-- The shortest decimal of `m · 2 ^ q`, with `m` positive. The neighbour below is half as far away
as the one above where `m` is the least mantissa of its exponent. -/
def shortest (m : Nat) (q : Int) : Positive :=
  let narrow := m = hiddenBit && -1074 < q
  let up := Nat.pow 2 (q - 2).toNat
  let den := Nat.pow 2 (2 - q).toNat
  let low := 4 * m - if narrow then 1 else 2
  let start := ((m.log2 : Int) + q) * 30103 / 100000 + 2
  firstGrid (4 * m * up) (low * up) ((4 * m + 2) * up) den (m % 2 == 0) start 32

/-! ### Layouts -/

/-- The digits of a decimal. -/
def Positive.digitText (d : Positive) : List Char :=
  Nat.toDigits 10 d.digits

/-- The power of ten of the first digit. -/
def Positive.magnitude (d : Positive) : Int :=
  d.exponent + d.digitText.length - 1

/-- A decimal without a power of ten; a point stands in it only if digits follow. -/
def Positive.positional (d : Positive) : List Char :=
  let ds := d.digitText
  if 0 ≤ d.exponent then ds ++ List.replicate d.exponent.toNat '0'
  else
    let places := (-d.exponent).toNat
    if places < ds.length then
      ds.take (ds.length - places) ++ '.' :: ds.drop (ds.length - places)
    else '0' :: '.' :: List.replicate (places - ds.length) '0' ++ ds

/-- A decimal with one digit before the point and a power of ten. -/
def Positive.exponential (d : Positive) : List Char :=
  match d.digitText with
  | [] => []
  | c :: cs =>
    c :: (if cs.isEmpty then [] else '.' :: cs) ++ 'e' :: (toString d.magnitude).toList

/-- A number in writing, given how a positive decimal and how zero is laid out. -/
def render (positive : Float → Positive → List Char) (zero : List Char) (x : Float) : String :=
  let bits := x.toBits.toNat
  if x.isNaN then "NaN"
  else
    let sign := if signBit ≤ bits then ['-'] else []
    let (m, q) := decode (bits % signBit)
    let body :=
      if x.isInf then ['i', 'n', 'f']
      else if m = 0 then zero
      else positive x.abs (shortest m q)
    String.ofList (sign ++ body)

/-- A number as messages show it: never with a power of ten, and with a point only before
digits. -/
def plainText (x : Float) : String :=
  render (fun _ d => d.positional) ['0'] x

/-- A number as logs show it: always with a point or a power of ten, the latter below `1e-4` and
from `1e16` on. -/
def pointedText (x : Float) : String :=
  render (fun a d =>
    if a < 1e-4 || 1e16 ≤ a then d.exponential
    else if 0 ≤ d.exponent then d.positional ++ ['.', '0']
    else d.positional) ['0', '.', '0'] x

end Showdown.Decimal
