import Showdown.Decimal.Reader
import Showdown.Json

/-!
# Reading JSON text

A JSON text is read into a value. Blanks between tokens are the four of the format. A number
without fraction and exponent that fits into 64 bits is an integer; any other number, `-0`
included, is read as the nearest floating-point number. If an object repeats a name, the last
member of that name counts.
-/

namespace Showdown.Json.Reader

/-- The text without the blanks of the format at its start. -/
def skipBlanks (s : List Char) : List Char :=
  s.dropWhile fun c => c == ' ' || c == '\n' || c == '\r' || c == '\t'

/-! ### Strings -/

/-- The value of a hexadecimal digit. -/
def hexValue? (c : Char) : Option Nat :=
  let n := c.toNat
  if c.isDigit then some (n - '0'.toNat)
  else if 'a' ≤ c && c ≤ 'f' then some (n - 'a'.toNat + 10)
  else if 'A' ≤ c && c ≤ 'F' then some (n - 'A'.toNat + 10)
  else none

/-- The number that hexadecimal digits write. -/
def ofHex? (ds : List Char) : Option Nat :=
  ds.foldlM (fun n c => (hexValue? c).map (16 * n + ·)) 0

/-- The character of a code point that is no surrogate. -/
def char? (n : Nat) : Option Char :=
  if n.isValidChar then some (Char.ofNat n) else none

/-- The character of an escape of one letter. -/
def simpleEscape? : Char → Option Char
  | '"' => some '"'
  | '\\' => some '\\'
  | '/' => some '/'
  | 'b' => some '\x08'
  | 'f' => some '\x0c'
  | 'n' => some '\n'
  | 'r' => some '\r'
  | 't' => some '\t'
  | _ => none

/-- The character of a pair of surrogates. -/
def ofSurrogates? (high low : Nat) : Option Char :=
  if 0xD800 ≤ high && high < 0xDC00 && 0xDC00 ≤ low && low < 0xE000 then
    char? (0x10000 + (high - 0xD800) * 0x400 + (low - 0xDC00))
  else none

/-- The rest of a string after its opening quote; `done` is what was read of it, backwards. -/
def stringRest? (done : List Char) : List Char → Option (String × List Char)
  | '"' :: s => some (String.ofList done.reverse, s)
  | '\\' :: 'u' :: a :: b :: c :: d :: '\\' :: 'u' :: e :: f :: g :: h :: s =>
    match ofHex? [a, b, c, d], ofHex? [e, f, g, h] with
    | some m, some n =>
      match ofSurrogates? m n, char? m, char? n with
      | some x, _, _ => stringRest? (x :: done) s
      | none, some x, some y => stringRest? (y :: x :: done) s
      | none, some x, none => stringRest? (x :: done) ('\\' :: 'u' :: e :: f :: g :: h :: s)
      | _, _, _ => none
    | _, _ => none
  | '\\' :: 'u' :: a :: b :: c :: d :: s =>
    match (ofHex? [a, b, c, d]).bind char? with
    | some x => stringRest? (x :: done) s
    | none => none
  | '\\' :: c :: s =>
    match simpleEscape? c with
    | some x => stringRest? (x :: done) s
    | none => none
  | c :: s => if c.toNat < 0x20 then none else stringRest? (c :: done) s
  | [] => none

/-! ### Numbers -/

/-- The digits before the point: a zero by itself, or digits that begin with another one. -/
def wholeDigits? (s : List Char) : Option (List Char × List Char) :=
  match s.span Char.isDigit with
  | (['0'], rest) => some (['0'], rest)
  | ('0' :: _, _) => none
  | ([], _) => none
  | r => some r

/-- The fraction of a number, if there is one. -/
def fraction? : List Char → Option (List Char × List Char)
  | '.' :: s =>
    match s.span Char.isDigit with
    | ([], _) => none
    | r => some r
  | s => some ([], s)

/-- The exponent of a number, if there is one. -/
def exponent? : List Char → Option (Option Int × List Char)
  | [] => some (none, [])
  | c :: s =>
    if c == 'e' || c == 'E' then
      let (negative, s) := Decimal.splitSign s
      match s.span Char.isDigit with
      | ([], _) => none
      | (ds, rest) =>
        let n : Int := Decimal.ofDigits ds
        some (some (if negative then -n else n), rest)
    else some (none, c :: s)

/-- The value of a number in writing. -/
def numberValue (negative : Bool) (whole fraction : List Char) (e : Option Int) : Json :=
  let real := Decimal.ofScientific negative (Decimal.ofDigits (whole ++ fraction))
    (e.getD 0 - fraction.length)
  let n := Decimal.ofDigits whole
  if !fraction.isEmpty || e.isSome then number real
  else if negative then
    (if n = 0 || -n < Int64.minValue.toInt then number real else integer (-n))
  else if n < UInt64.size then integer n else number real

/-- Reads a number. -/
def number? (s : List Char) : Option (Json × List Char) := do
  let (negative, s) := match s with
    | '-' :: s => (true, s)
    | s => (false, s)
  let (whole, s) ← wholeDigits? s
  let (fraction, s) ← fraction? s
  let (e, s) ← exponent? s
  return (numberValue negative whole fraction e, s)

/-! ### Values -/

/-- The members with one more, which replaces one of the same name. -/
def addMember (ms : List (String × Json)) (name : String) (j : Json) : List (String × Json) :=
  ms.filter (fun m => m.1 != name) ++ [(name, j)]

mutual

/-- Reads a value; `fuel` bounds the depth and the number of values. -/
def value? : Nat → List Char → Option (Json × List Char)
  | 0, _ => none
  | fuel + 1, s =>
    match skipBlanks s with
    | '"' :: s => (stringRest? [] s).map fun r => (string r.1, r.2)
    | '[' :: s =>
      match skipBlanks s with
      | ']' :: s => some (array [], s)
      | s => elements? fuel [] s
    | '\x7b' :: s =>
      match skipBlanks s with
      | '\x7d' :: s => some (object [], s)
      | s => objectRest? fuel [] s
    | 'n' :: 'u' :: 'l' :: 'l' :: s => some (null, s)
    | 't' :: 'r' :: 'u' :: 'e' :: s => some (bool true, s)
    | 'f' :: 'a' :: 'l' :: 's' :: 'e' :: s => some (bool false, s)
    | s => number? s

/-- Reads the values of an array up to its end; `done` are those before, backwards. -/
def elements? : Nat → List Json → List Char → Option (Json × List Char)
  | 0, _, _ => none
  | fuel + 1, done, s =>
    match value? fuel s with
    | none => none
    | some (j, s) =>
      match skipBlanks s with
      | ',' :: s => elements? fuel (j :: done) s
      | ']' :: s => some (array (j :: done).reverse, s)
      | _ => none

/-- Reads the members of an object up to its end; `done` are those before. -/
def objectRest? : Nat → List (String × Json) → List Char → Option (Json × List Char)
  | 0, _, _ => none
  | fuel + 1, done, s =>
    match skipBlanks s with
    | '"' :: s =>
      match stringRest? [] s with
      | none => none
      | some (name, s) =>
        match skipBlanks s with
        | ':' :: s =>
          match value? fuel s with
          | none => none
          | some (j, s) =>
            let done := addMember done name j
            match skipBlanks s with
            | ',' :: s => objectRest? fuel done s
            | '\x7d' :: s => some (object done, s)
            | _ => none
        | _ => none
    | _ => none

end

end Reader

/-- Reads a JSON text. -/
def read? (s : String) : Option Json :=
  let cs := s.toList
  match Reader.value? (cs.length + 1) cs with
  | some (j, rest) => if (Reader.skipBlanks rest).isEmpty then some j else none
  | none => none

end Showdown.Json
