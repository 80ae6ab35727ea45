/-!
# Categories of poker hands

The ten categories, from the royal flush to the high card. A category has a value, 1 for the
strongest and 10 for the weakest, and the order of categories runs against the values: the
stronger category is the greater one.

Strengths of hands run from 1 to 7462, and the categories split them into ten bands.
-/

namespace Showdown

/-- The ten categories, strongest first. -/
inductive Category where
  /-- Ten to ace of one suit. -/
  | royalFlush
  /-- Five ranks in a row, of one suit. -/
  | straightFlush
  /-- Four cards of one rank. -/
  | fourOfAKind
  /-- Three cards of one rank and two of another. -/
  | fullHouse
  /-- Five cards of one suit. -/
  | flush
  /-- Five ranks in a row. -/
  | straight
  /-- Three cards of one rank. -/
  | threeOfAKind
  /-- Two cards of one rank and two of another. -/
  | twoPair
  /-- Two cards of one rank. -/
  | onePair
  /-- None of the above. -/
  | highCard
  deriving DecidableEq

namespace Category

/-- The categories, strongest first. -/
def all : List Category :=
  [royalFlush, straightFlush, fourOfAKind, fullHouse, flush, straight, threeOfAKind, twoPair,
    onePair, highCard]

/-- The value of a category, 1 for the strongest. -/
def value : Category → Nat
  | royalFlush => 1
  | straightFlush => 2
  | fourOfAKind => 3
  | fullHouse => 4
  | flush => 5
  | straight => 6
  | threeOfAKind => 7
  | twoPair => 8
  | onePair => 9
  | highCard => 10

/-- The category with a value. -/
def ofValue? (v : Nat) : Option Category :=
  all.find? fun c => c.value == v

/-- The stronger category is the greater one. -/
instance : Ord Category where
  compare a b := compare b.value a.value

instance : Max Category where
  max a b := if (compare a b).isLE then b else a

instance : Min Category where
  min a b := if (compare a b).isLE then a else b

/-- A full house or better. -/
def isPremium (c : Category) : Bool :=
  c.value ≤ 4

/-- The name of a category on a screen. -/
def name : Category → String
  | royalFlush => "Royal Flush"
  | straightFlush => "Straight Flush"
  | fourOfAKind => "Four Of A Kind"
  | fullHouse => "Full House"
  | flush => "Flush"
  | straight => "Straight"
  | threeOfAKind => "Three Of A Kind"
  | twoPair => "Two Pair"
  | onePair => "One Pair"
  | highCard => "High Card"

/-- The bands of strengths, strongest first: first strength, last strength, category. -/
def bands : List (Nat × Nat × Category) :=
  [(1, 1, royalFlush), (2, 10, straightFlush), (11, 166, fourOfAKind), (167, 322, fullHouse),
    (323, 1599, flush), (1600, 1609, straight), (1610, 2467, threeOfAKind),
    (2468, 3325, twoPair), (3326, 6185, onePair), (6186, 7462, highCard)]

/-- The category of the band that a strength lies in; a number in no band is a high card. -/
def ofStrength (s : Nat) : Category :=
  match bands.find? fun b => b.1 ≤ s && s ≤ b.2.1 with
  | some b => b.2.2
  | none => highCard

end Category

end Showdown
