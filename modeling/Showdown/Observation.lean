import Showdown.Card
import Showdown.Decimal.Shortest
import Showdown.Hand.Category
import Showdown.Record

/-!
# Observations

Two sources observe each hand. The primary source reads cards; its observation is a `RankedHand`,
the ranked hand of one player. The secondary source watches video; its observation is a
`Sighting`, a category it believes in to some degree, or none if it saw the hand but could not
name a category.
-/

namespace Showdown

/-- What names a hand among all tables. -/
structure HandId where
  /-- The table. -/
  tableId : TableId
  /-- The hand. -/
  handNumber : HandNumber
  deriving DecidableEq

/-- Identifiers are ordered by table, then by hand. -/
instance : Ord HandId where
  compare a b := (compare a.tableId b.tableId).then (compare a.handNumber b.handNumber)

/-- An identifier in writing. -/
def HandId.text (h : HandId) : String :=
  h.tableId ++ "#" ++ toString h.handNumber

/-- The ranked hand of a player. -/
structure RankedHand where
  /-- The table. -/
  tableId : TableId
  /-- The hand. -/
  handNumber : HandNumber
  /-- The player. -/
  player : String
  /-- The seat of the player. -/
  seat : UInt8
  /-- The two hole cards. -/
  holeCards : Card × Card
  /-- The board used for ranking, in the order in which it was revealed. -/
  communityCards : List Card
  /-- The strength of the best five cards. -/
  strength : UInt16
  /-- Their category. -/
  category : Category
  /-- How far the reading is to be believed. -/
  confidence : Float
  /-- How long the hand was played, if reported. -/
  durationSeconds : Option UInt32
  /-- The category of the board by itself, once it is complete. -/
  boardCategory : Option Category

/-- What the video shows of a hand. -/
structure Sighting where
  /-- The table. -/
  tableId : TableId
  /-- The hand. -/
  handNumber : HandNumber
  /-- The category, if one could be named. -/
  category : Option Category
  /-- How far the category is to be believed. -/
  confidence : Float
  /-- When the hand was seen. -/
  observedAt : UtcTime

/-- The identifier of a ranked hand. -/
def RankedHand.id (r : RankedHand) : HandId :=
  ⟨r.tableId, r.handNumber⟩

/-- The identifier of a sighted hand. -/
def Sighting.id (r : Sighting) : HandId :=
  ⟨r.tableId, r.handNumber⟩

/-- A confidence outside of the unit interval. -/
structure InvalidConfidence where
  /-- The confidence. -/
  confidence : Float

/-- The complaint about a confidence. -/
def InvalidConfidence.message (e : InvalidConfidence) : String :=
  "Confidence must lie in [0.0, 1.0], got " ++ Decimal.plainText e.confidence

/-- The number lies in the unit interval, ends included. -/
def inUnitInterval (x : Float) : Bool :=
  0.0 ≤ x && x ≤ 1.0

theorem inUnitInterval_iff {x : Float} : inUnitInterval x = true ↔ 0.0 ≤ x ∧ x ≤ 1.0 := by
  simp [inUnitInterval]

/-- What can be compared is a number. -/
theorem isNaN_of_le {x y : Float} (h : x ≤ y) : y.isNaN = false := by
  have le : x.toModel.unpack.le y.toModel.unpack = true := of_decide_eq_true h
  show y.toModel.unpack.isNaN = false
  cases number : y.toModel.unpack with
  | notANumber =>
    rw [number] at le
    cases other : x.toModel.unpack <;> rw [other] at le <;> cases le
  | infinity | zero | finite => rfl

/-- Refuses a confidence outside of the unit interval. -/
def Sighting.validate (r : Sighting) : Except InvalidConfidence Unit :=
  if inUnitInterval r.confidence then .ok () else .error ⟨r.confidence⟩

end Showdown
