/-!
# TOML documents

Settings are kept in files of this format. A document is a table of values under keys, and tables
may be written in several ways: by a header, by a key with dots, between braces, or by the headers
of the tables in them. How a table was written decides what may still be added to it:

* a table between braces is closed, and so is everything in it;
* a header may name a table once, and it may name one that only headers of inner tables have
  mentioned before;
* a key with dots may lead through tables that no header names and through the last table of an
  array of tables, and it adds to the table it starts from or to a table that keys with dots have
  made.

A table of an array of tables is open as long as it is the last one.
-/

namespace Showdown

/-- How a table was written. -/
inductive TableKind where
  /-- Between braces. -/
  | inline
  /-- By a header of a table within it. -/
  | implicit
  /-- By a header. -/
  | header
  /-- By a key with dots. -/
  | dotted
  deriving DecidableEq

/-- A value of a document. -/
inductive Toml where
  /-- A truth value. -/
  | boolean (b : Bool)
  /-- An integer. -/
  | integer (i : Int)
  /-- A number with a fraction or an exponent, an infinity or no number. -/
  | float (x : Float)
  /-- A text. -/
  | string (s : String)
  /-- A date, a time, or both, as written. -/
  | dateTime (s : String)
  /-- A list of values. -/
  | array (xs : List Toml)
  /-- Values under keys. -/
  | table (kind : TableKind) (entries : List (String × Toml))
  /-- Tables that headers in double brackets have listed. -/
  | tables (ts : List (List (String × Toml)))

namespace Toml

/-- What a table holds. -/
abbrev Entries := List (String × Toml)

/-- The value under a key. -/
def Entries.get? (es : Entries) (key : String) : Option Toml :=
  List.lookup key es

/-- The entries with another value under a key that is there. -/
def Entries.replace (es : Entries) (key : String) (value : Toml) : Entries :=
  es.map fun e => if e.1 == key then (key, value) else e

/-- The entries with a value under a key that is not there. -/
def Entries.add? (es : Entries) (key : String) (value : Toml) : Option Entries :=
  if (es.get? key).isSome then none else some (es ++ [(key, value)])

/-- A key with dots may lead through a table of this kind. -/
def TableKind.isPassable (kind : TableKind) : Bool :=
  kind == .implicit || kind == .dotted

/-- Adds a value under a key with dots to a table of a given kind, `start` for the table the key
starts from. -/
def Entries.insert? (start : Bool) (kind : TableKind) (value : Toml) :
    List String → Entries → Option Entries
  | [], _ => none
  | [key], es => if start || kind == .dotted then es.add? key value else none
  | key :: keys, es =>
    match es.get? key with
    | none => (insert? false .dotted value keys []).map fun t => es ++ [(key, table .dotted t)]
    | some (table kind t) =>
      if TableKind.isPassable kind then
        (insert? false kind value keys t).map fun t => es.replace key (table kind t)
      else none
    | some (tables ts) =>
      match ts.reverse with
      | [] => none
      | last :: before =>
        (insert? false .header value keys last).map fun t =>
          es.replace key (tables (t :: before).reverse)
    | some _ => none

/-- Changes the table at the end of the keys of a header. -/
def Entries.within? (change : Entries → Option Entries) : List String → Entries → Option Entries
  | [], es => change es
  | key :: keys, es =>
    match es.get? key with
    | none => (within? change keys []).map fun t => es ++ [(key, table .implicit t)]
    | some (table .inline _) => none
    | some (table kind t) => (within? change keys t).map fun t => es.replace key (table kind t)
    | some (tables ts) =>
      match ts.reverse with
      | [] => none
      | last :: before =>
        (within? change keys last).map fun t => es.replace key (tables (t :: before).reverse)
    | some _ => none

/-- Opens the table that a header names, for its last key. -/
def Entries.open? (key : String) (es : Entries) : Option Entries :=
  match es.get? key with
  | none => some (es ++ [(key, table .header [])])
  | some (table .implicit t) => some (es.replace key (table .header t))
  | some _ => none

/-- Opens one more table of the array that a header names, for its last key. -/
def Entries.openElement? (key : String) (es : Entries) : Option Entries :=
  match es.get? key with
  | none => some (es ++ [(key, tables [[]])])
  | some (tables ts) => some (es.replace key (tables (ts ++ [[]])))
  | some _ => none

end Toml

end Showdown
