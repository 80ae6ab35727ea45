import Showdown.Toml.Scalar
import Showdown.Toml.Text

/-!
# Reading TOML

A document is read line by line: blank lines and comments, headers, and keys with their values.
Arrays and tables between braces may run over several lines, with comments, and may have a comma
after their last item. They may stand in each other, but not more than eighty deep. A key may have
as many parts.
-/

namespace Showdown.Toml

/-- The number of arrays and tables between braces that may stand in each other, and of the parts
that a key may have. -/
def deepest : Nat := 80

/-! ### Between the values -/

/-- The text without the blanks at its start. -/
def skipSpace (s : List Char) : List Char :=
  s.dropWhile isSpace

/-- The text without the blanks, line breaks and comments at its start, none if a comment holds a
control character. -/
def skipLines? (inComment : Bool) : List Char → Option (List Char)
  | [] => some []
  | c :: s =>
    if c == '\n' then skipLines? false s
    else if inComment then if isTextual c then skipLines? true s else none
    else if isSpace c then skipLines? false s
    else if c == '#' then skipLines? true s
    else some (c :: s)

/-- The text after the end of a line, at which nothing but a comment may stand. -/
def lineEnd? (s : List Char) : Option (List Char) :=
  match skipSpace s with
  | [] => some []
  | '\n' :: s => some s
  | '#' :: s =>
    let (comment, rest) := s.span (· != '\n')
    if comment.all isTextual then some rest else none
  | _ => none

/-! ### Keys -/

/-- A character of a key without quotes. -/
def isBare (c : Char) : Bool :=
  c.isAlphanum || c == '_' || c == '-'

/-- Reads a key without dots. -/
def simpleKey? (s : List Char) : Option (String × List Char) :=
  match s.span isBare with
  | ([], rest) => text? rest
  | (key, rest) => some (String.ofList key, rest)

/-- Reads the further parts of a key with dots, fewer than a limit. -/
def keyRest? : Nat → List Char → Option (List String × List Char)
  | 0, _ => none
  | limit + 1, s =>
    match skipSpace s with
    | '.' :: s => do
      let (key, s) ← simpleKey? (skipSpace s)
      let (keys, s) ← keyRest? limit s
      return (key :: keys, s)
    | s => some ([], s)

/-- Reads a key, with dots or without, and the blanks after it. -/
def key? (s : List Char) : Option (List String × List Char) := do
  let (key, s) ← simpleKey? (skipSpace s)
  let (keys, s) ← keyRest? deepest s
  return (key :: keys, s)

/-! ### Values -/

/-- A character that may belong to a value without quotes. -/
def isLoose (c : Char) : Bool :=
  isTextual c && !isSpace c && !(",[]{}#=\"'".toList.contains c)

/-- The text of a value without quotes, and what follows it. A date may be parted from its time by
one blank. -/
def loose (s : List Char) : List Char × List Char :=
  let (first, rest) := s.span isLoose
  match rest with
  | ' ' :: c :: rest' =>
    if c.isDigit && date? first == some [] then
      let (second, rest) := (c :: rest').span isLoose
      (first ++ ' ' :: second, rest)
    else (first, rest)
  | _ => (first, rest)

mutual

/-- Reads a value; `depth` of the arrays and tables around it are still allowed, and `fuel` bounds
the number of values. -/
def value? : Nat → Nat → List Char → Option (Toml × List Char)
  | 0, _, _ => none
  | fuel + 1, depth, s =>
    match s with
    | '"' :: '"' :: '"' :: s => (multiLineStart? '"' true s).map fun r => (string r.1, r.2)
    | '\'' :: '\'' :: '\'' :: s => (multiLineStart? '\'' false s).map fun r => (string r.1, r.2)
    | '[' :: s =>
      match depth with
      | 0 => none
      | depth + 1 => items? fuel depth [] s
    | '\x7b' :: s =>
      match depth with
      | 0 => none
      | depth + 1 => members? fuel depth [] s
    | s =>
      match text? s with
      | some (t, s) => some (string t, s)
      | none =>
        let (text, s) := loose s
        (scalar? text).map fun v => (v, s)

/-- Reads the items of an array up to its end; `done` are those before, backwards. -/
def items? : Nat → Nat → List Toml → List Char → Option (Toml × List Char)
  | 0, _, _, _ => none
  | fuel + 1, depth, done, s =>
    match skipLines? false s with
    | none => none
    | some (']' :: s) => some (array done.reverse, s)
    | some s =>
      match value? fuel depth s with
      | none => none
      | some (v, s) =>
        match skipLines? false s with
        | some (',' :: s) => items? fuel depth (v :: done) s
        | some (']' :: s) => some (array (v :: done).reverse, s)
        | _ => none

/-- Reads the entries of a table between braces up to its end; `done` are those before. -/
def members? : Nat → Nat → Entries → List Char → Option (Toml × List Char)
  | 0, _, _, _ => none
  | fuel + 1, depth, done, s =>
    match skipLines? false s with
    | none => none
    | some ('\x7d' :: s) => some (table .inline done, s)
    | some s => do
      let (keys, s) ← key? s
      let '=' :: s ← skipLines? false s | none
      let (v, s) ← value? fuel depth (← skipLines? false s)
      let done ← done.insert? true .inline v keys
      match ← skipLines? false s with
      | ',' :: s => members? fuel depth done s
      | '\x7d' :: s => return (table .inline done, s)
      | _ => none

end

/-! ### Documents -/

/-- Reads the end of a header after its opening brackets: the table it opens, as the keys to it,
and what follows the line. -/
def header? (close : List Char) (s : List Char) : Option (List String × List Char) := do
  let (keys, s) ← key? s
  if s.take close.length = close then
    return (keys, ← lineEnd? (s.drop close.length))
  else none

/-- Reads the rest of a document; `path` leads to the table that the last header has opened, and
`done` is what was read before. -/
def lines? : Nat → List String → Entries → List Char → Option Entries
  | 0, _, _, _ => none
  | fuel + 1, path, done, s =>
    match skipLines? false s with
    | none => none
    | some [] => some done
    | some ('[' :: '[' :: s) => do
      let (keys, s) ← header? [']', ']'] s
      let done ← done.within? (Entries.openElement? (keys.getLastD "")) keys.dropLast
      lines? fuel keys done s
    | some ('[' :: s) => do
      let (keys, s) ← header? [']'] s
      let done ← done.within? (Entries.open? (keys.getLastD "")) keys.dropLast
      lines? fuel keys done s
    | some s =>
      match key? s with
      | some (keys, '=' :: s) => do
        let (v, s) ← value? (s.length + 1) deepest (skipSpace s)
        let done ← done.within? (Entries.insert? true .header v keys) path
        lines? fuel path done (← lineEnd? s)
      | _ => none

/-- The text with each line break as one character. -/
def unifiedLines : List Char → List Char
  | '\r' :: '\n' :: s => '\n' :: unifiedLines s
  | c :: s => c :: unifiedLines s
  | [] => []

/-- The text without a mark of its byte order at its start. -/
def withoutMark : List Char → List Char
  | '\uFEFF' :: s => s
  | s => s

/-- Reads a document. -/
def read? (s : String) : Option Entries :=
  let cs := unifiedLines (withoutMark s.toList)
  lines? (cs.length + 1) [] [] cs

end Showdown.Toml
