import Showdown.Fusion.FusedHand

/-!
# The fusion policy

The policy decides what to make of the observations of one hand. The card readings win whenever
there are any; the video confirms or contests them. The video alone is used only if it is sure
enough, and a person is asked to look. A video observation that names no category counts as none.
-/

namespace Showdown

/-- What the policy can be tuned by. -/
structure Policy where
  /-- The least confidence at which the video is used by itself. -/
  secondaryThreshold : Float

namespace Policy

/-- The usual policy. -/
def standard : Policy := ⟨0.8⟩

/-- The result for a hand that nobody could classify. -/
def unclassified (hand : HandId) (resolution : Resolution) : FusedHand :=
  { tableId := hand.tableId
    handNumber := hand.handNumber
    category := none
    source := .none
    crossValidated := false
    requiresReview := true
    durationSeconds := none
    boardCategory := none
    confidence := 0.0
    outcome := .manualRequired
    resolution := resolution }

/-- The result for a hand with card readings, given the category that the video names. -/
def ofPrimary (hand : HandId) (p : RankedHand) (estimate : Option Category)
    (resolution : Resolution) : FusedHand :=
  let outcome :=
    match estimate with
    | some c => if c = p.category then Outcome.crossValidated else Outcome.ambiguous
    | none => Outcome.primaryOnly
  { tableId := hand.tableId
    handNumber := hand.handNumber
    category := some p.category
    source := .primary
    crossValidated := outcome = .crossValidated
    requiresReview := outcome = .ambiguous
    durationSeconds := p.durationSeconds
    boardCategory := p.boardCategory
    confidence := p.confidence
    outcome := outcome
    resolution := resolution }

/-- The result for a hand of which only the video names a category. -/
def ofSecondary (hand : HandId) (category : Category) (confidence : Float)
    (resolution : Resolution) : FusedHand :=
  { tableId := hand.tableId
    handNumber := hand.handNumber
    category := some category
    source := .secondary
    crossValidated := false
    requiresReview := true
    durationSeconds := none
    boardCategory := none
    confidence := confidence
    outcome := .secondaryFallback
    resolution := resolution }

/-- Decides on the observations of a hand. -/
def decide (policy : Policy) (hand : HandId) (primary : Option RankedHand)
    (secondary : Option Sighting) (resolution : Resolution) : FusedHand :=
  match primary with
  | some p => ofPrimary hand p (secondary.bind Sighting.category) resolution
  | none =>
    match secondary with
    | some s =>
      match s.category with
      | some c =>
        if policy.secondaryThreshold ≤ s.confidence then ofSecondary hand c s.confidence resolution
        else unclassified hand resolution
      | none => unclassified hand resolution
    | none => unclassified hand resolution

end Policy

end Showdown
