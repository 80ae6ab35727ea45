import Showdown.Floor

/-!
# Requests to the floor

All that can be asked of the floor, so that one can speak of any sequence of requests. A request is
settled before the next one: timers that run out at once have done so.
-/

namespace Showdown

namespace Floor

/-- Something asked of the floor. -/
inductive Request where
  /-- An observation of the card readers arrives. -/
  | hand (r : RankedHand)
  /-- An observation of the video arrives. -/
  | sighting (r : Sighting)
  /-- A source delivers something without an observation. -/
  | hear (tableId : TableId) (source : Source)
  /-- A table is told whether its sources deliver. -/
  | tellHealth (tableId : TableId) (primary secondary : Liveness)
  /-- Time passes. -/
  | advance (ms : Nat)
  /-- Health is checked, as of a given time. -/
  | check (time : Nat)
  /-- A table is to be removed. -/
  | remove (tableId : TableId)
  /-- All tables are to be shut down. -/
  | closeAll

/-- Carries out a request, unless it is refused. -/
def attempt (q : Request) (f : Floor) : Except Refusal (Emission Floor Effect) :=
  match q with
  | .hand r => .ok (f.receiveHand r)
  | .sighting r => f.admitSighting r
  | .hear tableId source => .ok (f.hear source tableId)
  | .tellHealth tableId primary secondary => .ok (f.tellHealth primary secondary tableId)
  | .advance ms => .ok (f.advance ms)
  | .check time => .ok (f.check time)
  | .remove tableId => .ok (f.remove tableId)
  | .closeAll => .ok f.closeAll

/-- Carries out a request. A request that is refused changes nothing. -/
def act (q : Request) (f : Floor) : Emission Floor Effect :=
  match f.attempt q with
  | .ok e => e
  | .error _ => .quiet f

/-- Carries out a request and lets the timers run out that run out at once. A request that is
refused changes nothing. -/
def perform (q : Request) (f : Floor) : Emission Floor Effect :=
  match f.attempt q with
  | .ok e => e.andThen (advance 0)
  | .error _ => .quiet f

/-- Carries out requests one after another. -/
def run : List Request → Floor → Emission Floor Effect :=
  Emission.forEach perform

end Floor

end Showdown
