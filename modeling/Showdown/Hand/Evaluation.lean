import Showdown.Hand.Category
import Showdown.Hand.Strength

/-!
# Evaluating hands

A deal of five, six or seven cards counts for the best five of them. A full deal has seven cards; a
short one, with an incomplete board or without hole cards, has five or six.

Evaluation refuses a wrong number of cards, and then a card that occurs twice.
-/

namespace Showdown.Hand

/-- What a deal counts for. -/
structure Evaluation where
  /-- The strength of the best five cards. -/
  strength : UInt16
  /-- Their category. -/
  category : Category
  deriving DecidableEq

/-- The two sizes of a deal. -/
inductive DealSize where
  /-- Seven cards. -/
  | full
  /-- Five or six cards. -/
  | short
  deriving DecidableEq

/-- The number of cards fits the size. -/
def DealSize.allows : DealSize → Nat → Bool
  | full, n => n == 7
  | short, n => n == 5 || n == 6

/-- The numbers of cards a size allows, in words. -/
def DealSize.text : DealSize → String
  | full => "7"
  | short => "5 or 6"

/-- Why a deal cannot be evaluated. -/
inductive EvaluationError where
  /-- The number of cards is not the expected one. -/
  | cardCount (expected : DealSize) (actual : Nat)
  /-- A card occurs twice; it is the first one equal to a card before it. -/
  | duplicate (card : Card)
  deriving DecidableEq

/-- The complaint about a deal. -/
def EvaluationError.message : EvaluationError → String
  | cardCount expected actual =>
    "Invalid hand input: expected " ++ expected.text ++ " cards, got " ++ toString actual
  | duplicate card => "Invalid hand input: duplicate card " ++ card.text

/-- The first card of a list that equals a card before it, `seen` being the cards before the
list. -/
def firstRepeat? (seen : List Card) : List Card → Option Card
  | [] => none
  | c :: cs => if c ∈ seen then some c else firstRepeat? (c :: seen) cs

/-- The weakest strength. -/
def worstStrength : Nat := 7462

/-- The strength of the best five cards. -/
def bestStrength (cards : List Card) : Nat :=
  (combinations 5 cards).foldl (fun best five => min best (strengthOfFive five)) worstStrength

/-- What the best five cards count for. -/
def bestFive (cards : List Card) : Evaluation :=
  let s := bestStrength cards
  ⟨.ofNat s, .ofStrength s⟩

/-- Evaluates a deal of the expected size. -/
def evaluateAs (size : DealSize) (cards : List Card) : Except EvaluationError Evaluation :=
  if size.allows cards.length then
    match firstRepeat? [] cards with
    | some c => .error (.duplicate c)
    | none => .ok (bestFive cards)
  else .error (.cardCount size cards.length)

/-- Evaluates exactly seven different cards. -/
def evaluate (cards : List Card) : Except EvaluationError Evaluation :=
  evaluateAs .full cards

/-- Evaluates five or six different cards, such as a flop with two hole cards or a board alone. -/
def evaluateShort (cards : List Card) : Except EvaluationError Evaluation :=
  evaluateAs .short cards

/-- The order of evaluations: the stronger one is the greater one. -/
instance : Ord Evaluation where
  compare a b := compare b.strength a.strength

end Showdown.Hand
