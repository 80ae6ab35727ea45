/-!
# Texts in TOML

A text stands between double quotes, and then has escapes, or between single quotes, and then has
none. Between three quotes it may run over several lines; a line break right after the opening
quotes does not belong to it, and up to two quotes may stand before the closing ones. In a text
with escapes a backslash at the end of a line removes the line break and all blanks and line
breaks after it.

Line breaks are single characters here.
-/

namespace Showdown.Toml

/-- A character that may stand in a line: no control but the tabulator. -/
def isTextual (c : Char) : Bool :=
  c == '\t' || (0x20 ≤ c.toNat && c.toNat != 0x7F)

/-- A blank within a line. -/
def isSpace (c : Char) : Bool :=
  c == ' ' || c == '\t'

/-- A digit of a number to the base 16. -/
def hexDigit? (c : Char) : Option Nat :=
  let n := c.toNat
  if c.isDigit then some (n - '0'.toNat)
  else if 'a' ≤ c && c ≤ 'f' then some (n - 'a'.toNat + 10)
  else if 'A' ≤ c && c ≤ 'F' then some (n - 'A'.toNat + 10)
  else none

/-- The character whose code point the first `width` characters give. -/
def codePoint? (width : Nat) (s : List Char) : Option (Char × List Char) := do
  let ds := s.take width
  if ds.length < width then none
  let n ← ds.foldlM (fun n c => (hexDigit? c).map (16 * n + ·)) 0
  if n.isValidChar then some (Char.ofNat n, s.drop width) else none

/-- The character that an escape stands for, after its backslash. -/
def escape? : List Char → Option (Char × List Char)
  | 'b' :: s => some ('\x08', s)
  | 't' :: s => some ('\t', s)
  | 'n' :: s => some ('\n', s)
  | 'f' :: s => some ('\x0c', s)
  | 'r' :: s => some ('\r', s)
  | 'e' :: s => some ('\x1b', s)
  | '"' :: s => some ('"', s)
  | '\\' :: s => some ('\\', s)
  | 'x' :: s => codePoint? 2 s
  | 'u' :: s => codePoint? 4 s
  | 'U' :: s => codePoint? 8 s
  | _ => none

/-- The rest of a text of one line with escapes; `done` is what was read of it, backwards, and
`fuel` bounds its length. -/
def basic? (done : List Char) : Nat → List Char → Option (String × List Char)
  | 0, _ => none
  | fuel + 1, s =>
    match s with
    | [] => none
    | '"' :: s => some (String.ofList done.reverse, s)
    | '\\' :: s => do
      let (c, s) ← escape? s
      basic? (c :: done) fuel s
    | c :: s => if isTextual c then basic? (c :: done) fuel s else none

/-- The rest of a text of one line without escapes. -/
def literal? (s : List Char) : Option (String × List Char) :=
  match s.span fun c => c != '\'' && isTextual c with
  | (text, '\'' :: rest) => some (String.ofList text, rest)
  | _ => none

/-- The number of quotes at the start of a text, but no more than five. -/
def quoteCount (quote : Char) (s : List Char) : Nat :=
  ((s.take 5).takeWhile (· == quote)).length

/-- The text after a backslash at the end of a line: past the line break and the blanks and line
breaks that follow. -/
def lineJoin? (s : List Char) : Option (List Char) :=
  match s.dropWhile isSpace with
  | '\n' :: s => some (s.dropWhile fun c => isSpace c || c == '\n')
  | _ => none

/-- The rest of a text of several lines, with or without escapes. -/
def multiLine? (quote : Char) (escapes : Bool) (done : List Char) :
    Nat → List Char → Option (String × List Char)
  | 0, _ => none
  | fuel + 1, s =>
    let quotes := quoteCount quote s
    if 3 ≤ quotes then
      some (String.ofList (List.replicate (quotes - 3) quote ++ done).reverse, s.drop quotes)
    else
      match s with
      | [] => none
      | c :: s =>
        if c == '\\' && escapes then
          match lineJoin? s with
          | some s => multiLine? quote escapes done fuel s
          | none => do
            let (c, s) ← escape? s
            multiLine? quote escapes (c :: done) fuel s
        else if c == '\n' || isTextual c then multiLine? quote escapes (c :: done) fuel s
        else none

/-- A text of several lines after its opening quotes. -/
def multiLineStart? (quote : Char) (escapes : Bool) (s : List Char) : Option (String × List Char) :=
  let s := match s with
    | '\n' :: s => s
    | s => s
  multiLine? quote escapes [] (s.length + 1) s

/-- Reads a text of one line. -/
def text? : List Char → Option (String × List Char)
  | '"' :: s => basic? [] (s.length + 1) s
  | '\'' :: s => literal? s
  | _ => none

end Showdown.Toml
