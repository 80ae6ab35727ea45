import Showdown.Decimal.Nearest

/-!
# JSON values

The form in which records, results and events are exchanged. An object is a list of members; its
members may stand in any order, and a reader asks for them by name. An integer and a number with
a fraction or an exponent are told apart, since a count must be written as an integer.

## Reading values

A reader is a function from values to an optional result. A record is read from an object, in
which members that are not asked for are ignored, or from an array that holds the values of its
members in order. A choice between named alternatives without content is read from the name, or
from an object with the name as its only member and `null` as its value. A choice between
alternatives with content is tagged: one member of the object, or the first value of the array,
names the alternative.

What stands beside a tag is set aside until the tag is known, and choices in it are read more
leniently: the value of an only member may also be an empty object, and a tag may also be the
place of the alternative among all of them, counted from zero.
-/

namespace Showdown

/-- A JSON value. -/
inductive Json where
  /-- The value `null`. -/
  | null
  /-- A truth value. -/
  | bool (b : Bool)
  /-- A number written without fraction and exponent. -/
  | integer (i : Int)
  /-- Any other number. -/
  | number (x : Float)
  /-- A text. -/
  | string (s : String)
  /-- A list of values. -/
  | array (xs : List Json)
  /-- A list of named values. -/
  | object (members : List (String × Json))

namespace Json

/-! ### Leaves -/

/-- Reads a text. -/
def text? : Json → Option String
  | string s => some s
  | _ => none

/-- Reads a truth value. -/
def bool? : Json → Option Bool
  | bool b => some b
  | _ => none

/-- Reads a natural number. -/
def nat? : Json → Option Nat
  | integer i => if 0 ≤ i then some i.toNat else none
  | _ => none

/-- Reads a natural number below a bound. -/
def natBelow? (bound : Nat) (j : Json) : Option Nat :=
  j.nat?.filter (· < bound)

/-- Reads a number of 8 bits. -/
def uint8? (j : Json) : Option UInt8 :=
  (j.natBelow? UInt8.size).map UInt8.ofNat

/-- Reads a number of 16 bits. -/
def uint16? (j : Json) : Option UInt16 :=
  (j.natBelow? UInt16.size).map UInt16.ofNat

/-- Reads a number of 32 bits. -/
def uint32? (j : Json) : Option UInt32 :=
  (j.natBelow? UInt32.size).map UInt32.ofNat

/-- Reads a number of 64 bits. -/
def uint64? (j : Json) : Option UInt64 :=
  (j.natBelow? UInt64.size).map UInt64.ofNat

/-- Reads a signed number of 64 bits. -/
def int64? : Json → Option Int64
  | integer i =>
    if Int64.minValue.toInt ≤ i && i ≤ Int64.maxValue.toInt then some (Int64.ofInt i) else none
  | _ => none

/-- Reads a real number; an integer counts as the number nearest to it. -/
def real? : Json → Option Float
  | number x => some x
  | integer i => some (Decimal.ofInt i)
  | _ => none

/-- Reads a list of values. -/
def list? {α : Type} (read : Json → Option α) : Json → Option (List α)
  | array xs => xs.mapM read
  | _ => none

/-- Reads a value that may be absent. -/
def nullable? {α : Type} (read : Json → Option α) : Json → Option (Option α)
  | null => some none
  | j => (read j).map some

/-! ### Records -/

/-- The members of a record, by name. -/
abbrev Members := List (String × Json)

/-- The members of a record: those of an object, or the values of an array under the given names.
An array may lack the values of the last `optional` members. -/
def members? (names : List String) (optional : Nat) : Json → Option Members
  | object ms => some ms
  | array xs =>
    if names.length - optional ≤ xs.length && xs.length ≤ names.length then some (names.zip xs)
    else none
  | _ => none

/-- The value of a member. -/
def Members.get? (ms : Members) (name : String) : Option Json :=
  (ms.find? fun m => m.1 == name).map Prod.snd

/-- Reads a member that must be there. -/
def Members.required? {α : Type} (ms : Members) (name : String) (read : Json → Option α) :
    Option α :=
  (ms.get? name).bind read

/-- Reads a member that may be missing or `null`. -/
def Members.optional? {α : Type} (ms : Members) (name : String) (read : Json → Option α) :
    Option (Option α) :=
  match ms.get? name with
  | none => some none
  | some j => j.nullable? read

/-- Reads a member that may be missing, and then has a value of its own. -/
def Members.defaulted? {α : Type} (ms : Members) (name : String) (absent : α)
    (read : Json → Option α) : Option α :=
  match ms.get? name with
  | none => some absent
  | some j => read j

/-! ### Choices -/

/-- How a choice is read. -/
inductive Strictness where
  /-- As a choice that stands in no tagged record. -/
  | strict
  /-- As a choice in the content of a tagged record. -/
  | lenient
  deriving DecidableEq

/-- The name of an alternative without content. -/
def name? : Strictness → Json → Option String
  | _, string s => some s
  | _, object [(s, null)] => some s
  | .lenient, object [(s, object [])] => some s
  | _, _ => none

/-- Reads an alternative without content among some of a given name. -/
def named? {α : Type} (m : Strictness) (all : List α) (name : α → String) (j : Json) :
    Option α :=
  (name? m j).bind fun s => all.find? fun a => name a == s

/-- Reads the tag of one of some alternatives with content, given their tags. -/
def tag? (m : Strictness) (tags : List String) : Json → Option String
  | string s => if tags.contains s then some s else none
  | integer i => if m = .lenient ∧ 0 ≤ i then tags[i.toNat]? else none
  | _ => none

/-- The tag of an alternative with content, and the rest. -/
def tagged? (name : String) (read : Json → Option String) : Json → Option (String × Json)
  | object ms => (Members.required? ms name read).map fun s => (s, object ms)
  | array (j :: xs) => (read j).map fun s => (s, array xs)
  | _ => none

/-! ### Writing leaves -/

/-- A natural number. -/
def ofNat (n : Nat) : Json := integer n

/-- A value, or `null` for an absent one. -/
def ofOption {α : Type} (write : α → Json) : Option α → Json
  | some a => write a
  | none => null

/-- A number, or `null` for one that is not finite. -/
def ofFloat (x : Float) : Json :=
  if x.isFinite then number x else null

end Json

end Showdown
