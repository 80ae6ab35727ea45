import Showdown.Floor.Round
import Showdown.Service

/-!
# Services in haste

Somebody in haste does not wait until a check of health is over. A check that falls due gets as far
as it can before the next thing happens, and further before the one after that. Before any more time
passes, it is brought to an end.
-/

namespace Showdown

/-- How many tables are left to be removed. -/
def Floor.Round.left : Round → Nat
  | sweeping _ | listing _ => 0
  | removing tableIds => tableIds.length

namespace Service

/-- A service with a check of health under way. -/
structure Checking where
  /-- The service. -/
  service : Service
  /-- How far the check has got. -/
  round : Floor.Round

namespace Checking

/-- A service with no check under way. -/
def idle (s : Service) : Checking :=
  ⟨s, .removing []⟩

/-- Something is done to the service, which leaves the check where it is. -/
def onService (f : Service → Emission Service Effect) (c : Checking) : Emission Checking Effect :=
  let e := f c.service
  ⟨⟨e.state, c.round⟩, e.out⟩

/-- The check takes its next step. -/
def goOn (c : Checking) : Emission Checking Effect :=
  let e := c.service.onFloor c.round.step
  ⟨⟨e.state, c.round.next c.service.floor⟩, e.out⟩

/-- The check takes a number of steps. -/
def goFurther : Nat → Checking → Emission Checking Effect
  | 0, c => .quiet c
  | n + 1, c => c.goOn.andThen (goFurther n)

/-- The check is brought to an end. -/
def finish (c : Checking) : Emission Checking Effect :=
  (c.goFurther 2).andThen fun c => c.goFurther c.round.left

/-- A check begins, and gets so far as to list the tables that are overdue. -/
def begin (c : Checking) : Emission Checking Effect :=
  goFurther 2 ⟨c.service, .sweeping c.service.floor.now⟩

/-- A number of milliseconds passes, and nobody is in haste. -/
def advance (ms : Nat) (c : Checking) : Emission Checking Effect :=
  c.finish.andThen (onService (Service.advance ms))

/-- A check that is due just at a given time begins. -/
def beginAt (time : Nat) (c : Checking) : Emission Checking Effect :=
  if (c.service.checkTimes c.service.floor.now time).contains time then
    (onService (Service.onFloor (Floor.advanceTo time)) c).andThen begin
  else .quiet c

/-- A number of milliseconds passes, as for somebody in haste. Of the timers that run out just then
only a number do so yet. A table is removed in two turns: in the first it is told to shut down, and
in the second it does. -/
def hasten (count ms : Nat) (c : Checking) : Emission Checking Effect :=
  let time := c.service.floor.now + ms
  let begun := if ms = 0 then .quiet c
    else (c.finish.andThen (onService (checkUpTo (time - 1)))).andThen (beginAt time)
  (begun.andThen (goFurther ((count + 1) / 2))).andThen
    (onService (Service.onFloor (Floor.hastenTo count time)))

end Checking

end Service

end Showdown
