import Showdown.Text.Blank
import Showdown.UtcTime

/-!
# Hand records

The structured feed delivers one record per hand: who sat where with which hole cards and stacks,
and the events of the hand in the order in which they happened. Cards are still tokens here. The
board is not stored by itself; it is read off the events that revealed it.
-/

namespace Showdown

/-- The identifier of a table or session. -/
abbrev TableId := String

/-- The number of a hand within its session. -/
abbrev HandNumber := UInt32

/-- A seated player. -/
structure Seat where
  /-- The number of the seat. -/
  seat : UInt8
  /-- The player. -/
  name : String
  /-- What was read of the hole cards; one text may hold both tokens. -/
  holeCards : List String
  /-- The chips before the hand. -/
  startStack : Int64
  /-- The chips after the hand. -/
  endStack : Int64
  deriving DecidableEq

/-- An event of a hand. -/
inductive HandEvent where
  /-- Community cards are revealed. -/
  | boardCards (cards : List String)
  /-- A player acts. -/
  | action (player : String) (action : String) (amount : UInt64)
  /-- Anything else. -/
  | other
  deriving DecidableEq

/-- One hand as delivered by the structured feed. -/
structure HandRecord where
  /-- The table. -/
  tableId : TableId
  /-- The hand. -/
  handNumber : HandNumber
  /-- When the hand began, if reported. -/
  startedAt : Option UtcTime
  /-- How long the hand was played, if reported. -/
  durationSeconds : Option UInt32
  /-- The seated players. -/
  players : List Seat
  /-- The events, in order. -/
  events : List HandEvent
  deriving DecidableEq

/-- The tokens of the hole cards. -/
def Seat.cardTokens (s : Seat) : List String :=
  s.holeCards.flatMap Text.tokens

/-- The chips won, negative for chips lost. -/
def Seat.net (s : Seat) : Int64 :=
  s.endStack - s.startStack

/-- The tokens that an event adds to the board. -/
def HandEvent.boardTexts : HandEvent → List String
  | boardCards cards => cards
  | _ => []

/-- The tokens of the board in the order in which they were revealed, without blank ones. -/
def HandRecord.revealed (r : HandRecord) : List String :=
  ((r.events.flatMap HandEvent.boardTexts).map Text.trimmed).filter fun t => !t.isEmpty

/-- Of two players the one who won more; the second if they won the same. -/
def Seat.bigger (best : Option Seat) (s : Seat) : Option Seat :=
  match best with
  | some b => if b.net ≤ s.net then some s else some b
  | none => some s

/-- The player who won most, the last one of several, if anybody won chips. -/
def HandRecord.winner? (r : HandRecord) : Option String :=
  ((r.players.filter fun s => 0 < s.net).foldl Seat.bigger none).map Seat.name

end Showdown
