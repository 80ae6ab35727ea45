import Showdown.Floor.Request

/-!
# Checks of health that take their time

A check of health goes in steps: a sweep, then a look for the tables that are overdue, and then the
removal of these tables, one after another. Each removal waits until its table has shut down.
Meanwhile others get a turn, so observations may arrive between any two steps of a check.

A check that nothing gets in the way of is the one that the floor makes in one go.
-/

namespace Showdown

namespace Floor

/-- How far a check of health has got. -/
inductive Round where
  /-- The sweep at a given time comes next. -/
  | sweeping (time : Nat)
  /-- The tables that are overdue at a given time are looked for next. -/
  | listing (time : Nat)
  /-- Some tables are still to be removed, one after another. -/
  | removing (tableIds : List TableId)
  deriving DecidableEq

/-- The next step of a check. -/
def Round.step : Round → Floor → Emission Floor Effect
  | sweeping time => Floor.sweep time
  | removing (tableId :: _) => Floor.remove tableId
  | listing _ | removing [] => .quiet

/-- How far a check has got after its next step, which finds a floor. -/
def Round.next (f : Floor) : Round → Round
  | sweeping time => listing time
  | listing time => removing (f.overdue time)
  | removing tableIds => removing tableIds.tail

/-- A floor with a check of health under way. -/
structure Checking where
  /-- The floor. -/
  floor : Floor
  /-- How far the check has got. -/
  round : Round

/-- Something is done on the floor, which leaves the check where it is. -/
def Checking.onFloor (f : Floor → Emission Floor Effect) (c : Checking) :
    Emission Checking Effect :=
  let e := f c.floor
  ⟨⟨e.state, c.round⟩, e.out⟩

/-- The check takes its next step. -/
def Checking.goOn (c : Checking) : Emission Checking Effect :=
  let e := c.round.step c.floor
  ⟨⟨e.state, c.round.next c.floor⟩, e.out⟩

/-! ### Arrivals in between -/

/-- Something that may arrive while a check is under way. -/
inductive Arrival where
  /-- An observation of the card readers. -/
  | hand (r : RankedHand)
  /-- An observation of the video. -/
  | sighting (r : Sighting)
  /-- A sign of life of a source. -/
  | hear (tableId : TableId) (source : Source)

/-- The request that it makes. -/
def Arrival.request : Arrival → Request
  | hand r => .hand r
  | sighting r => .sighting r
  | hear tableId source => .hear tableId source

/-- What happens next while a check is under way. -/
inductive Move where
  /-- The check takes its next step. -/
  | goOn
  /-- Something arrives. -/
  | arrive (a : Arrival)

/-- Something happens while a check is under way. -/
def Checking.take (m : Move) (c : Checking) : Emission Checking Effect :=
  match m with
  | .goOn => c.goOn
  | .arrive a => c.onFloor (Floor.act a.request)

/-- Things happen one after another while a check is under way. -/
def Checking.play : List Move → Checking → Emission Checking Effect :=
  Emission.forEach Checking.take

end Floor

end Showdown
