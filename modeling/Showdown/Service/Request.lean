import Showdown.Floor.Request
import Showdown.Service

/-!
# Requests to the service

All that can be asked of the service while it runs, so that one can speak of any sequence of
requests.
-/

namespace Showdown

namespace Service

/-- Something asked of the service. -/
inductive Request where
  /-- A record of the structured feed arrives. -/
  | record (r : HandRecord)
  /-- An observation of the video arrives. -/
  | sighting (r : Sighting)
  /-- Time passes. -/
  | advance (ms : Nat)
  /-- Health is to be checked now. -/
  | check
  /-- Something is asked of the floor, past the service. -/
  | floor (q : Floor.Request)

/-- Carries out a request, unless it is refused. -/
def attempt (q : Request) (s : Service) : Except Refusal (Emission Service Effect) :=
  match q with
  | .record r => .ok (s.takeRecord r)
  | .sighting r => s.takeSighting r
  | .advance ms => .ok (s.advance ms)
  | .check => .ok s.check
  | .floor q => .ok (s.onFloor (Floor.act q))

/-- Carries out a request. A request that is refused changes nothing. -/
def perform (q : Request) (s : Service) : Emission Service Effect :=
  match s.attempt q with
  | .ok e => e
  | .error _ => .quiet s

/-- Carries out requests one after another. -/
def run : List Request → Service → Emission Service Effect :=
  Emission.forEach perform

end Service

end Showdown
