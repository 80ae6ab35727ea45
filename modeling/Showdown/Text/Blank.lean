/-!
# Blanks

Feeds pad their tokens and sometimes pack several into one text. This module says what counts
as a blank, how blanks are taken off the ends of a text, and how a text falls apart into words.

A blank is a character with the Unicode property `White_Space`. Joiners and marks without width,
such as U+200B and U+FEFF, are no blanks.
-/

namespace Showdown.Text

/-- The character has the Unicode property `White_Space`. -/
def isBlank (c : Char) : Bool :=
  let n := c.toNat
  (0x9 ≤ n && n ≤ 0xD) || n == 0x20 || n == 0x85 || n == 0xA0 || n == 0x1680 ||
    (0x2000 ≤ n && n ≤ 0x200A) || n == 0x2028 || n == 0x2029 || n == 0x202F || n == 0x205F ||
    n == 0x3000

/-- The text without the blanks at its start. -/
def trimStart (s : List Char) : List Char :=
  s.dropWhile isBlank

/-- The text without the blanks at its end. -/
def trimEnd (s : List Char) : List Char :=
  (s.reverse.dropWhile isBlank).reverse

/-- The text without the blanks at its two ends. -/
def trim (s : List Char) : List Char :=
  trimEnd (trimStart s)

/-- The words of a text: its longest stretches without a blank, in order. -/
def words (s : List Char) : List (List Char) :=
  (s.splitOnP isBlank).filter fun w => !w.isEmpty

/-- A string without the blanks at its two ends. -/
def trimmed (s : String) : String :=
  String.ofList (trim s.toList)

/-- The words of a string. -/
def tokens (s : String) : List String :=
  (words s.toList).map String.ofList

/-- Nothing but blanks. -/
def isAllBlank (s : String) : Bool :=
  s.toList.all isBlank

end Showdown.Text
