/-!
# Ranking combinations

Hands of one category are told apart by the ranks they choose, and those choices are counted in
lexicographic order. This module counts `k`-element choices (`choiceCount`), lists them
(`combinations`) and finds the place of one choice among all (`lexRank`).
-/

namespace Showdown.Hand

/-- The number of ways to choose `k` out of `n`, by the product formula: after `i` factors the
accumulator holds the number of ways to choose `i`, so each division is exact. -/
def choiceCount (n k : Nat) : Nat :=
  if n < k then 0
  else (List.range (min k (n - k))).foldl (fun acc i => acc * (n - i) / (i + 1)) 1

/-- The choices of `k` elements of a list, each in the order of the list. -/
def combinations {α : Type} : Nat → List α → List (List α)
  | 0, _ => [[]]
  | _ + 1, [] => []
  | k + 1, x :: xs => (combinations k xs).map (x :: ·) ++ combinations (k + 1) xs

/-- The number of choices from `available`, as long as `chosen`, that come before `chosen`: where
`chosen` passes over an element, all the choices that take it come before. Both lists descend,
and `chosen` is taken from `available`. -/
def lexRank : List Nat → List Nat → Nat
  | [], _ => 0
  | _ :: _, [] => 0
  | c :: cs, a :: as =>
    if a = c then lexRank cs as
    else choiceCount as.length cs.length + lexRank (c :: cs) as

end Showdown.Hand
