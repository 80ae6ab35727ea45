import Showdown.Hand.Evaluation
import Showdown.Json

/-!
# Cards and evaluations in JSON

A card is a record of a suit and a rank, both by name. Categories go by names of their own, and a
strength is a number.
-/

namespace Showdown

/-- A suit by its name. -/
def Suit.toJson (s : Suit) : Json := .string s.name

/-- Reads a suit. -/
def Suit.ofJson? (j : Json) : Option Suit := j.named? .strict Suit.all Suit.name

/-- A rank by its name. -/
def Rank.toJson (r : Rank) : Json := .string r.name

/-- Reads a rank. -/
def Rank.ofJson? (j : Json) : Option Rank := j.named? .strict Rank.all Rank.name

/-- A card as a record. -/
def Card.toJson (c : Card) : Json :=
  .object [("suit", c.suit.toJson), ("rank", c.rank.toJson)]

/-- Reads a card. -/
def Card.ofJson? (j : Json) : Option Card := do
  let ms ← j.members? ["suit", "rank"] 0
  return {
    suit := ← ms.required? "suit" Suit.ofJson?
    rank := ← ms.required? "rank" Rank.ofJson? }

/-- The name of a category in exchanged values. -/
def Category.word : Category → String
  | royalFlush => "royal_flush"
  | straightFlush => "straight_flush"
  | fourOfAKind => "four_of_a_kind"
  | fullHouse => "full_house"
  | flush => "flush"
  | straight => "straight"
  | threeOfAKind => "three_of_a_kind"
  | twoPair => "two_pair"
  | onePair => "one_pair"
  | highCard => "high_card"

/-- A category by its name. -/
def Category.toJson (c : Category) : Json := .string c.word

/-- Reads a category. -/
def Category.ofJson? (m : Json.Strictness) (j : Json) : Option Category :=
  j.named? m Category.all Category.word

/-- An evaluation as a record. -/
def Hand.Evaluation.toJson (e : Hand.Evaluation) : Json :=
  .object [("strength", .ofNat e.strength.toNat), ("category", e.category.toJson)]

/-- Reads an evaluation. -/
def Hand.Evaluation.ofJson? (j : Json) : Option Hand.Evaluation := do
  let ms ← j.members? ["strength", "category"] 0
  return {
    strength := ← ms.required? "strength" Json.uint16?
    category := ← ms.required? "category" (Category.ofJson? .strict) }

end Showdown
