import Showdown.CivilTime
import Showdown.Decimal.Reader
import Showdown.Toml

/-!
# Values without quotes in TOML

Truth values, numbers, dates and times are written without quotes. In a number an underscore may
stand between two digits. A whole number has no leading zeros unless it is written to the base 2,
8 or 16, and it lies between `-2 ^ 127` and `2 ^ 128 - 1`. A finite number must not be too large
for a floating-point number.
-/

namespace Showdown.Toml

/-! ### Numbers -/

/-- Digits without the underscores between them. -/
def ungrouped? (isDigit : Char → Bool) (s : List Char) : Option (List Char) :=
  let groups := s.splitOnP (· == '_')
  if groups.all fun g => !g.isEmpty && g.all isDigit then some groups.flatten else none

/-- Decimal digits without a leading zero, unless zero is all there is. -/
def wholeDigits? (s : List Char) : Option (List Char) :=
  match ungrouped? Char.isDigit s with
  | some ['0'] => some ['0']
  | some ('0' :: _) => none
  | ds => ds

/-- The value of a digit to a base of at most 16. -/
def digitValue (c : Char) : Nat :=
  if c.isDigit then c.toNat - '0'.toNat else c.toLower.toNat - 'a'.toNat + 10

/-- A number to another base, after its mark. -/
def based? (base : Nat) (s : List Char) : Option Int := do
  let isDigit (c : Char) : Bool :=
    c.isDigit && digitValue c < base ||
      base == 16 && (('a' ≤ c && c ≤ 'f') || ('A' ≤ c && c ≤ 'F'))
  let ds ← ungrouped? isDigit s
  return (ds.foldl (fun n c => base * n + digitValue c) 0 : Nat)

/-- A whole number of any size. -/
def unbounded? : List Char → Option Int
  | '0' :: 'x' :: s => based? 16 s
  | '0' :: 'o' :: s => based? 8 s
  | '0' :: 'b' :: s => based? 2 s
  | s => do
    let (negative, s) := Decimal.splitSign s
    let n : Int := Decimal.ofDigits (← wholeDigits? s)
    return if negative then -n else n

/-- The least whole number that is read, `-2 ^ 127`. -/
def leastInteger : Int := -Int.ofNat (1 <<< 127)

/-- The greatest whole number that is read, `2 ^ 128 - 1`. -/
def greatestInteger : Int := Int.ofNat (1 <<< 128) - 1

/-- A whole number. -/
def integer? (s : List Char) : Option Int :=
  (unbounded? s).filter fun i => leastInteger ≤ i && i ≤ greatestInteger

/-- The exponent of a number, after its mark. -/
def power? (s : List Char) : Option Int := do
  let (negative, s) := Decimal.splitSign s
  let n : Int := Decimal.ofDigits (← ungrouped? Char.isDigit s)
  return if negative then -n else n

/-- A finite number with a fraction or an exponent, after its sign. -/
def finite? (negative : Bool) (s : List Char) : Option Float := do
  let (whole, s) := s.span fun c => c.isDigit || c == '_'
  let whole ← wholeDigits? whole
  let (fraction, s) ← match s with
    | '.' :: s =>
      let (fraction, s) := s.span fun c => c.isDigit || c == '_'
      (ungrouped? Char.isDigit fraction).map fun ds => (ds, s)
    | s => some ([], s)
  let e ← match s with
    | [] => if fraction.isEmpty then none else some 0
    | c :: s => if c == 'e' || c == 'E' then power? s else none
  let x := Decimal.ofScientific negative (Decimal.ofDigits (whole ++ fraction))
    (e - fraction.length)
  if x.isFinite then some x else none

/-- A number with a fraction or an exponent, an infinity, or no number. -/
def float? (s : List Char) : Option Float :=
  let (negative, s) := Decimal.splitSign s
  if s = ['i', 'n', 'f'] || s = ['n', 'a', 'n'] then Decimal.named? negative s
  else finite? negative s

/-! ### Dates and times -/

/-- The number that `width` digits at the start of a text write. -/
def fixed? (width : Nat) (s : List Char) : Option (Nat × List Char) :=
  let ds := s.take width
  if ds.length = width && ds.all Char.isDigit then some (Decimal.ofDigits ds, s.drop width)
  else none

/-- The text after an expected character. -/
def after? (c : Char) : List Char → Option (List Char)
  | d :: s => if c == d then some s else none
  | [] => none

/-- The text after a date. -/
def date? (s : List Char) : Option (List Char) := do
  let (year, s) ← fixed? 4 s
  let (month, s) ← fixed? 2 (← after? '-' s)
  let (day, s) ← fixed? 2 (← after? '-' s)
  if 1 ≤ day && day ≤ CivilTime.daysInMonth year month then some s else none

/-- The text after a fraction of a second, if there is one. -/
def fraction? : List Char → Option (List Char)
  | '.' :: s =>
    match s.span Char.isDigit with
    | ([], _) => none
    | (_, rest) => some rest
  | s => some s

/-- The text after a time; its seconds may be left out. -/
def time? (s : List Char) : Option (List Char) := do
  let (hour, s) ← fixed? 2 s
  let (minute, s) ← fixed? 2 (← after? ':' s)
  if 24 ≤ hour || 60 ≤ minute then none
  match s with
  | ':' :: s =>
    let (second, s) ← fixed? 2 s
    if 60 < second then none else fraction? s
  | s => some s

/-- The end of a date with a time: nothing, or the offset of a zone. -/
def isZone : List Char → Bool
  | [] | ['Z'] | ['z'] => true
  | sign :: s =>
    (sign == '+' || sign == '-') &&
      match fixed? 2 s with
      | some (hour, ':' :: s) =>
        match fixed? 2 s with
        | some (minute, []) => hour < 24 && minute < 60
        | _ => false
      | _ => false

/-- The text is a date, a time, or both. -/
def isDateTime (s : List Char) : Bool :=
  match date? s with
  | some [] => true
  | some (c :: s) =>
    (c == 'T' || c == 't' || c == ' ') &&
      match time? s with
      | some rest => isZone rest
      | none => false
  | none => time? s == some []

/-! ### All of them -/

/-- A value written without quotes. -/
def scalar? (s : List Char) : Option Toml :=
  if s = ['t', 'r', 'u', 'e'] then some (boolean true)
  else if s = ['f', 'a', 'l', 's', 'e'] then some (boolean false)
  else if isDateTime s then some (dateTime (String.ofList s))
  else (integer? s).map integer <|> (float? s).map float

end Showdown.Toml
