import Showdown.Record
import Std.Data.TreeSet

/-!
# Hands resolved of late

A table remembers the hands it has resolved, so that it can drop what arrives for them late. It
remembers the last 512 of them; older ones are forgotten.
-/

namespace Showdown.Table

/-- The hands resolved of late. -/
structure History where
  /-- The hands, for looking them up. -/
  hands : Std.TreeSet HandNumber
  /-- The hands in the order in which they were resolved, oldest first. -/
  order : List HandNumber

namespace History

/-- The number of hands that are remembered. -/
def capacity : Nat := 512

/-- No hands. -/
def empty : History := ⟨∅, []⟩

/-- The hand is remembered. -/
def contains (h : History) (hand : HandNumber) : Bool :=
  h.hands.contains hand

/-- Adds a hand, unless it is remembered already. -/
def add (h : History) (hand : HandNumber) : History :=
  if h.contains hand then h else ⟨h.hands.insert hand, h.order ++ [hand]⟩

/-- Forgets the oldest hands until no more are left than are remembered. -/
def trim (h : History) : History :=
  let surplus := h.order.length - capacity
  ⟨(h.order.take surplus).foldl Std.TreeSet.erase h.hands, h.order.drop surplus⟩

/-- Remembers a hand as the one resolved last. -/
def push (h : History) (hand : HandNumber) : History :=
  (h.add hand).trim

end History

end Showdown.Table
