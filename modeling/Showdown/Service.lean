import Showdown.Bus
import Showdown.Floor

/-!
# The service

The service puts the parts together. Records of the structured feed are classified, and the best
ranked hand of each goes to the floor as an observation of the card readers; observations of the
video go there as they are. Every result that the floor hands on is graded, and the graded hand is
published; if it is fit for broadcast, that is published right after it.

Health is checked at regular intervals, counted from the start.
-/

namespace Showdown

/-- The state of the service. -/
structure Service where
  /-- Its settings. -/
  settings : Settings
  /-- Its tables. -/
  floor : Floor
  /-- Its subscribers. -/
  bus : Bus

namespace Service

/-- The events that a result gives rise to. -/
def eventsOf (c : GradingCriteria) (r : FusedHand) : List Event :=
  let grading := Grading.grade r c
  .graded r grading ::
    (if grading.result.broadcastEligible then [.broadcastable r grading.result] else [])

/-- What becomes of an effect of the floor: events are published, and results are graded first. -/
def absorb (e : Effect) (s : Service) : Emission Service Effect :=
  match e with
  | .fused r =>
    let c := s.settings.criteria
    let events := eventsOf c r
    ⟨{ s with bus := s.bus.publishAll events },
      .fused r :: .note (.graded r (Grading.grade r c)) :: events.map .event⟩
  | .event e => ⟨{ s with bus := s.bus.publish e }, [.event e]⟩
  | .note n => ⟨s, [.note n]⟩

/-- Something is done on the floor. -/
def onFloor (f : Floor → Emission Floor Effect) (s : Service) : Emission Service Effect :=
  let r := f s.floor
  Emission.forEach absorb r.out { s with floor := r.state }

/-- Starts the service, at time zero. -/
def start (settings : Settings) (calendar : Nat → UtcTime) :
    Except Refusal (Emission Service Effect) :=
  match settings.validate with
  | .error fault => .error (.settings fault)
  | .ok () =>
    .ok ⟨⟨settings, .opened settings calendar, .empty⟩, [.note (.started settings)]⟩

/-! ### Feeds -/

/-- A record arrives that is classified as given. -/
def takeClassified (record : HandRecord) (c : Classification) (s : Service) :
    Emission Service Effect :=
  let leftOut := c.omitted.map fun entry =>
    Effect.note (.leftOut record.tableId record.handNumber entry)
  match c.strongest? with
  | some best => (s.onFloor (Floor.receiveHand best)).after leftOut
  | none =>
    (s.onFloor (Floor.hear .primary record.tableId)).after
      (leftOut ++ [.note (.unranked record.tableId record.handNumber)])

/-- A record of the structured feed arrives. -/
def takeRecord (record : HandRecord) (s : Service) : Emission Service Effect :=
  s.takeClassified record (.ofRecord record)

/-- An observation of the video arrives. -/
def takeSighting (r : Sighting) (s : Service) : Except Refusal (Emission Service Effect) :=
  match r.validate with
  | .ok () => .ok (s.onFloor (Floor.receiveSighting r))
  | .error e => .error (.confidence e)

/-! ### Time -/

/-- The times after `now` and up to `time` at which health is checked. -/
def checkTimes (s : Service) (now time : Nat) : List Nat :=
  let interval := Agenda.span s.settings.healthCheckInterval
  let first := now / interval + 1
  (List.range (time / interval + 1 - first)).map fun k => (first + k) * interval

/-- Health is checked now. -/
def check (s : Service) : Emission Service Effect :=
  s.onFloor (Floor.check s.floor.now)

/-- Time passes up to a time at which health is checked. -/
def checkAt (time : Nat) (s : Service) : Emission Service Effect :=
  (s.onFloor (Floor.advanceTo time)).andThen check

/-- Health is checked as often as is due while time passes up to a time. -/
def checkUpTo (time : Nat) (s : Service) : Emission Service Effect :=
  Emission.forEach checkAt (s.checkTimes s.floor.now time) s

/-- A number of milliseconds passes. -/
def advance (ms : Nat) (s : Service) : Emission Service Effect :=
  let time := s.floor.now + ms
  (s.checkUpTo time).andThen (onFloor (Floor.advanceTo time))

/-- The service is stopped: all waiting hands are given up, and all results are graded. The
counters of the floor that are left are final. -/
def stop (s : Service) : Emission Service Effect :=
  (s.onFloor Floor.closeAll).andThen fun s =>
    ⟨s, [.note .gradingDone, .note (.stopped s.floor.closedTally)]⟩

end Service

end Showdown
