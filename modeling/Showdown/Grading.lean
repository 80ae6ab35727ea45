import Showdown.Fusion.FusedHand

/-!
# Grading

A fused hand is graded for broadcast on three criteria: a premium category, a long playing time
and a board that is strong by itself. A criterion whose input is missing counts as not met, and
the grading then says what is missing.
-/

namespace Showdown

/-- Where the criteria begin to be met. -/
structure GradingCriteria where
  /-- The least playing time. -/
  minDurationSeconds : UInt32
  /-- The greatest value of the category of the board. -/
  boardCategoryMax : UInt8
  /-- The greatest value of the category of the hand. -/
  premiumCategoryMax : UInt8
  deriving DecidableEq

/-- The usual criteria: two minutes, three of a kind on the board, a full house. -/
def GradingCriteria.standard : GradingCriteria := ⟨120, 7, 4⟩

/-- The grades, in ascending order. -/
inductive Grade where
  /-- For the archive only. -/
  | c
  /-- Good enough for broadcast. -/
  | b
  /-- The best. -/
  | a
  deriving DecidableEq, Ord

namespace Grade

/-- The grade for a number of criteria met. -/
def ofCriteria (met : Nat) : Grade :=
  if 3 ≤ met then a else if met = 2 then b else c

/-- The hand may be broadcast. -/
def isBroadcastable (g : Grade) : Bool :=
  g != c

/-- A grade in words. -/
def description : Grade → String
  | a => "Highest priority - all conditions met"
  | b => "Broadcast eligible - 2 conditions met"
  | c => "Archive only - insufficient conditions"

/-- The letter of a grade. -/
def letter : Grade → String
  | a => "A"
  | b => "B"
  | c => "C"

end Grade

/-- What was found about a hand. -/
structure Findings where
  /-- The grade. -/
  grade : Grade
  /-- The hand may be broadcast. -/
  broadcastEligible : Bool
  /-- The number of criteria met. -/
  criteriaMet : UInt8
  /-- The category is premium. -/
  premiumHand : Bool
  /-- The playing time is long. -/
  longPlaytime : Bool
  /-- The board is strong by itself. -/
  connectedBoard : Bool
  /-- Where a clip should start, in seconds after the hand began. -/
  editOffsetSeconds : UInt32
  deriving DecidableEq

/-- What grading looks at. -/
inductive GradingInput where
  /-- The category of the hand. -/
  | category
  /-- The playing time. -/
  | duration
  /-- The category of the board. -/
  | boardStrength
  deriving DecidableEq

/-- The verdict on a hand. -/
inductive Grading where
  /-- All inputs were known. -/
  | complete (result : Findings)
  /-- Some inputs were missing; the result rests on the others. -/
  | incomplete (partialResult : Findings) (missing : List GradingInput)
  deriving DecidableEq

namespace Grading

/-- What was found, complete or not. -/
def result : Grading → Findings
  | complete r => r
  | incomplete r _ => r

/-- All inputs were known. -/
def isComplete : Grading → Bool
  | complete _ => true
  | incomplete _ _ => false

/-- Where a clip should start. A premium hand is shown from the beginning; of another one the
early action is skipped, the more of it the longer the hand was. -/
def clipStart (premium : Bool) (duration : Nat) : Nat :=
  if premium then 0
  else if 180 < duration then duration * 2 / 5
  else if 60 < duration then min (duration / 3) 30
  else 0

/-- The category is premium, if it is known. -/
def premium? (f : FusedHand) (t : GradingCriteria) : Option Bool :=
  f.category.map fun c => c.value ≤ t.premiumCategoryMax.toNat

/-- The playing time is long, if it is known. -/
def longPlay? (f : FusedHand) (t : GradingCriteria) : Option Bool :=
  f.durationSeconds.map fun d => t.minDurationSeconds ≤ d

/-- The board is strong by itself, if its category is known. -/
def strongBoard? (f : FusedHand) (t : GradingCriteria) : Option Bool :=
  f.boardCategory.map fun c => c.value ≤ t.boardCategoryMax.toNat

/-- The inputs that are missing, in the order of the criteria. -/
def missingInputs (f : FusedHand) : List GradingInput :=
  (if f.category.isNone then [.category] else []) ++
    (if f.durationSeconds.isNone then [.duration] else []) ++
    (if f.boardCategory.isNone then [.boardStrength] else [])

/-- What the known inputs tell. -/
def findings (f : FusedHand) (t : GradingCriteria) : Findings :=
  let premium := (premium? f t).getD false
  let long := (longPlay? f t).getD false
  let board := (strongBoard? f t).getD false
  let met := premium.toNat + long.toNat + board.toNat
  let grade := Grade.ofCriteria met
  { grade := grade
    broadcastEligible := grade.isBroadcastable
    criteriaMet := .ofNat met
    premiumHand := premium
    longPlaytime := long
    connectedBoard := board
    editOffsetSeconds := .ofNat (clipStart premium (f.durationSeconds.getD 0).toNat) }

/-- Grades a fused hand. -/
def grade (f : FusedHand) (t : GradingCriteria) : Grading :=
  let missing := missingInputs f
  if missing.isEmpty then complete (findings f t) else incomplete (findings f t) missing

end Grading

end Showdown
