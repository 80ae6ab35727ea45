import Showdown.Observation

/-!
# Fused hands

For each hand one result is handed on, fused from whatever the two sources delivered. It says
which source it rests on, how the two compare, and how the hand came to be resolved.
-/

namespace Showdown

/-- What a fused hand rests on. -/
inductive Basis where
  /-- The card readings. -/
  | primary
  /-- The video. -/
  | secondary
  /-- Nothing. -/
  | none
  deriving DecidableEq

/-- How a hand was resolved. -/
inductive Resolution where
  /-- The second source delivered in time. -/
  | matched
  /-- The time to wait for the second source ran out. -/
  | windowExpired
  /-- The second source was known to be silent. -/
  | sourceStale
  /-- The table was shut down. -/
  | shutdown
  deriving DecidableEq

/-- How the two sources compare. -/
inductive Outcome where
  /-- Both name the same category. -/
  | crossValidated
  /-- They name different categories. -/
  | ambiguous
  /-- Only the card readings name a category. -/
  | primaryOnly
  /-- Only the video names a category, and it is sure enough. -/
  | secondaryFallback
  /-- Nobody names a category that can be used. -/
  | manualRequired
  deriving DecidableEq

/-- The one result of a hand. -/
structure FusedHand where
  /-- The table. -/
  tableId : TableId
  /-- The hand. -/
  handNumber : HandNumber
  /-- The category, unless the hand has to be classified by hand. -/
  category : Option Category
  /-- What the result rests on. -/
  source : Basis
  /-- Both sources agree. -/
  crossValidated : Bool
  /-- A person should look at the hand. -/
  requiresReview : Bool
  /-- How long the hand was played, if reported. -/
  durationSeconds : Option UInt32
  /-- The category of the board by itself, if known. -/
  boardCategory : Option Category
  /-- How far the category is to be believed. -/
  confidence : Float
  /-- How the two sources compare. -/
  outcome : Outcome
  /-- How the hand was resolved. -/
  resolution : Resolution

/-- The identifier of a fused hand. -/
def FusedHand.id (r : FusedHand) : HandId :=
  ⟨r.tableId, r.handNumber⟩

/-- The category is a full house or better. -/
def FusedHand.isPremium (r : FusedHand) : Bool :=
  r.category.any Category.isPremium

end Showdown
