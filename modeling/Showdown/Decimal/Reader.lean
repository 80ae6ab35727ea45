import Showdown.Decimal.Nearest

/-!
# Reading numbers

Settings and feeds write numbers in decimal. A whole number is one or more digits, with a plus
sign allowed before them. A real number is a sign, which may be left out, and then digits with a
point and a power of ten, or one of the names of infinity and of the value that is no number. The
point may stand before or after all the digits. Digits are those of ASCII.
-/

namespace Showdown.Decimal

/-- The number that digits write. -/
def ofDigits (ds : List Char) : Nat :=
  ds.foldl (fun n c => 10 * n + (c.toNat - '0'.toNat)) 0

/-- One or more digits and nothing else. -/
def digits? (s : List Char) : Option Nat :=
  if !s.isEmpty && s.all Char.isDigit then some (ofDigits s) else none

/-- A whole number in writing. -/
def natural? : List Char → Option Nat
  | '+' :: s => digits? s
  | s => digits? s

/-- A whole number below `bound` in writing. -/
def naturalBelow? (bound : Nat) (s : String) : Option Nat :=
  (natural? s.toList).filter (· < bound)

/-- A sign at the start of a text, plus if there is none, and what follows it. -/
def splitSign : List Char → Bool × List Char
  | '-' :: s => (true, s)
  | '+' :: s => (false, s)
  | s => (false, s)

/-- The exponent of a real number in writing: nothing, or `e` and a whole number with a sign. -/
def exponent? : List Char → Option Int
  | [] => some 0
  | c :: s =>
    if c.toLower == 'e' then
      let (negative, ds) := splitSign s
      (digits? ds).map fun n => if negative then -(n : Int) else n
    else none

/-- A finite real number in writing, after its sign. -/
def finite? (negative : Bool) (s : List Char) : Option Float := do
  let (whole, s) := s.span Char.isDigit
  let (fraction, s) := match s with
    | '.' :: s => s.span Char.isDigit
    | s => ([], s)
  let e ← exponent? s
  if whole.isEmpty && fraction.isEmpty then none
  else some (ofScientific negative (ofDigits (whole ++ fraction)) (e - fraction.length))

/-- The values that no digits write, after their sign and in lower case. -/
def named? (negative : Bool) (s : List Char) : Option Float :=
  if s = ['i', 'n', 'f'] || s = ['i', 'n', 'f', 'i', 'n', 'i', 't', 'y'] then
    some (nearest negative (1 <<< 1024) 1)
  else if s = ['n', 'a', 'n'] then some (0.0 / 0.0)
  else none

/-- A real number in writing. -/
def real? (s : String) : Option Float :=
  let (negative, s) := splitSign s.toList
  named? negative (s.map Char.toLower) <|> finite? negative s

end Showdown.Decimal
