import Showdown.Text.Blank
import Showdown.UtcTime

/-!
# Instants in writing

An instant is written as `2024-03-01T12:00:00Z`, with a fraction of three, six or nine digits,
whichever is the shortest that is exact, and without one if it is zero. A year outside of 0 to
9999 has a sign.

It is read more freely: the fields may lack leading zeros, blanks may stand around them, the date
and the time may be parted by a blank, a year may have a sign and then any number of digits, and
the time may be that of another zone, given by its offset from universal time.
-/

namespace Showdown.UtcTime

/-! ### Writing -/

/-- A number with at least `width` digits. -/
def padded (width n : Nat) : List Char :=
  (Nat.toDigits 10 n).leftpad width '0'

/-- A year in writing. -/
def yearText (y : Int) : List Char :=
  if 0 ≤ y && y ≤ 9999 then padded 4 y.natAbs
  else (if y < 0 then '-' else '+') :: padded 4 y.natAbs

/-- The fraction of a second in writing. -/
def fractionText (n : Nat) : List Char :=
  if n == 0 then []
  else if n % 1000000 == 0 then '.' :: padded 3 (n / 1000000)
  else if n % 1000 == 0 then '.' :: padded 6 (n / 1000)
  else '.' :: padded 9 n

/-- A date and a time in writing, without a zone. -/
def civilText (t : CivilTime) : List Char :=
  yearText t.year ++ ['-'] ++ padded 2 t.month ++ ['-'] ++ padded 2 t.day ++
    ['T'] ++ padded 2 t.hour ++ [':'] ++ padded 2 t.minute ++ [':'] ++ padded 2 t.second ++
    fractionText t.nanosecond

/-- An instant in writing. -/
def text (t : UtcTime) : String :=
  String.ofList (civilText t.civil ++ ['Z'])

/-! ### Reading -/

/-- The value of a digit. -/
def digitValue (c : Char) : Nat :=
  c.toNat - '0'.toNat

/-- The number that digits write. -/
def ofDigits (ds : List Char) : Nat :=
  ds.foldl (fun n c => 10 * n + digitValue c) 0

/-- The text without one expected character at its start. -/
def expect (c : Char) : List Char → Option (List Char)
  | d :: s => if c == d then some s else none
  | [] => none

/-- The digits at the start of a text and what follows them. -/
def spanDigits (s : List Char) : List Char × List Char :=
  s.span Char.isDigit

/-- A number of one or more digits, but of no more than `width`, after blanks. -/
def number? (width : Nat) (s : List Char) : Option (Nat × List Char) :=
  let s := Text.trimStart s
  let ds := (spanDigits s).1.take width
  if ds.isEmpty then none else some (ofDigits ds, s.drop ds.length)

/-- A year: up to four digits, or a sign and any number of digits. -/
def year? (s : List Char) : Option (Int × List Char) :=
  match Text.trimStart s with
  | '-' :: s =>
    match spanDigits s with
    | ([], _) => none
    | (ds, rest) => some (-(ofDigits ds : Int), rest)
  | '+' :: s =>
    match spanDigits s with
    | ([], _) => none
    | (ds, rest) => some ((ofDigits ds : Int), rest)
  | s => (number? 4 s).map fun r => ((r.1 : Int), r.2)

/-- A number of up to two digits after a separator, with blanks before either. -/
def field? (separator : Char) (s : List Char) : Option (Nat × List Char) := do
  number? 2 (← expect separator (Text.trimStart s))

/-- The nanoseconds of a fraction of a second, if there is one. Digits after the ninth are
dropped. -/
def fraction? : List Char → Option (Nat × List Char)
  | '.' :: s =>
    match spanDigits s with
    | ([], _) => none
    | (ds, rest) => some (ofDigits ((ds ++ List.replicate 9 '0').take 9), rest)
  | s => some (0, s)

/-- A number of exactly two digits. -/
def twoDigits? : List Char → Option (Nat × List Char)
  | a :: b :: s => if a.isDigit && b.isDigit then some (ofDigits [a, b], s) else none
  | _ => none

/-- The offset of a zone from universal time in minutes: a sign, two digits of hours and two of
minutes, with any number of colons and blanks between these. -/
def signedOffset? : List Char → Option (Int × List Char)
  | sign :: s => do
    let (hours, s) ← twoDigits? s
    let (minutes, s) ← twoDigits? (s.dropWhile fun c => c == ':' || Text.isBlank c)
    let ahead : Int := hours * 60 + minutes
    if 60 ≤ minutes || 24 ≤ hours then none
    else if sign == '+' then some (ahead, s)
    else if sign == '-' || sign == '−' then some (-ahead, s)
    else none
  | [] => none

/-- The offset of a zone, or one of the two names of universal time, `Z` and `UTC`, in either
case. -/
def offset? (s : List Char) : Option (Int × List Char) :=
  if ((s.take 3).map Char.toUpper) = ['U', 'T', 'C'] then some (0, s.drop 3)
  else match s with
    | 'Z' :: s | 'z' :: s => some (0, s)
    | s => signedOffset? s

/-- Reads a date and a time without a zone from the start of a text. -/
def civil? (s : List Char) : Option (CivilTime × List Char) := do
  let (year, s) ← year? s
  let (month, s) ← field? '-' s
  let (day, s) ← field? '-' s
  let s ← expect 'T' s <|> expect 't' s <|> expect ' ' s
  let (hour, s) ← number? 2 s
  let (minute, s) ← field? ':' s
  let (second, s) ← field? ':' s
  let (nanosecond, s) ← fraction? s
  return (⟨year, month, day, hour, minute, second, nanosecond⟩, s)

/-- Reads an instant. -/
def read? (s : String) : Option UtcTime := do
  let (civil, s) ← civil? s.toList
  let (offset, s) ← offset? (Text.trimStart s)
  if (Text.trimStart s).isEmpty then ofLocal? civil offset else none

end Showdown.UtcTime
