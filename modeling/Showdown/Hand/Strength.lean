import Showdown.Card
import Showdown.Hand.Combination

/-!
# The strength of five cards

Five cards belong to one of 7462 classes of hands that tie with each other. The strength is the
number of the class, 1 for the royal flush and 7462 for the worst high card.

The ranks are grouped by how often they occur. The shape of the groups and the presence of a
flush give the category and with it the first strength of its band; the place of the grouped
ranks among all the choices of ranks of that shape gives the distance from it.
-/

namespace Showdown.Hand

/-- The values of all ranks, descending. -/
def rankValues : List Nat :=
  [14, 13, 12, 11, 10, 9, 8, 7, 6, 5, 4, 3, 2]

/-- The values of all ranks but some, descending. -/
def rankValuesExcept (excluded : List Nat) : List Nat :=
  rankValues.filter fun r => !excluded.contains r

/-- The ranks of a hand as pairs of multiplicity and value, the most frequent first and of equal
multiplicity the highest first. -/
def rankGroups (values : List Nat) : List (Nat × Nat) :=
  [5, 4, 3, 2, 1].flatMap fun m => (rankValues.filter (values.count · = m)).map (m, ·)

/-- The cards are of one suit. -/
def isFlush : List Card → Bool
  | [] => true
  | c :: cs => cs.all fun d => d.suit == c.suit

/-- The ranks of the ten straights, descending and strongest first. In the last one the ace stands
below the two. -/
def straights : List (List Nat) :=
  ((List.range 9).map fun i => [14 - i, 13 - i, 12 - i, 11 - i, 10 - i]) ++ [[14, 5, 4, 3, 2]]

/-- The high card of a straight among five different ranks, descending. -/
def straightTop? : List Nat → Option Nat
  | [a, b, c, d, e] =>
    if a - e = 4 then some a
    else if [a, b, c, d, e] = [14, 5, 4, 3, 2] then some 5
    else none
  | _ => none

/-- The place of five different ranks that make no straight among all 1277 such choices. -/
def unconnectedIndex (values : List Nat) : Nat :=
  lexRank values rankValues - (straights.filter fun s => values < s).length

/-- The strength of five cards, given whether they are of one suit and their ranks in groups. Five
different cards have one of the shapes listed here; 0 stands for any other shape. -/
def groupedStrength (flush : Bool) : List (Nat × Nat) → Nat
  | [(1, a), (1, b), (1, c), (1, d), (1, e)] =>
    match flush, straightTop? [a, b, c, d, e] with
    | true, some high => 1 + (14 - high)
    | false, some high => 1600 + (14 - high)
    | true, none => 323 + unconnectedIndex [a, b, c, d, e]
    | false, none => 6186 + unconnectedIndex [a, b, c, d, e]
  | [(4, quad), (1, kicker)] =>
    11 + (14 - quad) * 12 + lexRank [kicker] (rankValuesExcept [quad])
  | [(3, trip), (2, pair)] =>
    167 + (14 - trip) * 12 + lexRank [pair] (rankValuesExcept [trip])
  | [(3, trip), (1, k₁), (1, k₂)] =>
    1610 + (14 - trip) * 66 + lexRank [k₁, k₂] (rankValuesExcept [trip])
  | [(2, high), (2, low), (1, kicker)] =>
    2468 + lexRank [high, low] rankValues * 11
      + lexRank [kicker] (rankValuesExcept [high, low])
  | [(2, pair), (1, k₁), (1, k₂), (1, k₃)] =>
    3326 + (14 - pair) * 220 + lexRank [k₁, k₂, k₃] (rankValuesExcept [pair])
  | _ => 0

/-- The strength of five cards. -/
def strengthOfFive (cards : List Card) : Nat :=
  groupedStrength (isFlush cards) (rankGroups (cards.map fun c => c.rank.value))

end Showdown.Hand
