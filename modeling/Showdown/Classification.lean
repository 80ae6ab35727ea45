import Showdown.Hand.Evaluation
import Showdown.Observation

/-!
# Classification of a record

A record of the structured feed is turned into one ranked hand per player. Faults stay where they
are: a token that names no card drops out of the board, and a player whose cards cannot be ranked
is left out with a reason, while all the others are ranked.

The board is made of the first five tokens that name cards. A player can be ranked from three
board cards on.
-/

namespace Showdown

/-- Why a player, or a token of the board, was left out. -/
inductive OmissionReason where
  /-- Fewer than two hole cards are known. -/
  | noHoleCards
  /-- More than two hole cards are reported. -/
  | tooManyHoleCards (count : UInt64)
  /-- Fewer than three board cards are known. -/
  | incompleteBoard (known : UInt64)
  /-- A token names no card. -/
  | malformedCard (token : String)
  /-- The cards are no deal. -/
  | invalidHand (detail : String)
  deriving DecidableEq

/-- A player left out of the results, or a token of the board if there is no player. -/
structure Omission where
  /-- The player. -/
  player : Option String
  /-- The seat of the player. -/
  seat : Option UInt8
  /-- The reason. -/
  reason : OmissionReason
  deriving DecidableEq

/-- The outcome of classifying a record. -/
structure Classification where
  /-- The ranked hands, in the order of the seats. -/
  results : List RankedHand
  /-- What was left out: tokens of the board first, then players in the order of the seats. -/
  omitted : List Omission

namespace Classification

/-- The number of board cards that count; later ones are ignored. -/
def boardSize : Nat := 5

/-- The number of board cards from which on a player can be ranked. -/
def leastBoard : Nat := 3

/-- A token of the board that names no card, as an entry of what was left out. -/
def omittedToken? (token : String) : Option Omission :=
  match Card.read token with
  | .ok _ => none
  | .error e => some ⟨none, none, .malformedCard e.token⟩

/-- The board of a record. -/
def board (r : HandRecord) : List Card :=
  (r.revealed.filterMap fun t => (Card.read t).toOption).take boardSize

/-- The category of a complete board by itself. -/
def boardCategory? (board : List Card) : Option Category :=
  if board.length = boardSize then
    (Hand.evaluateShort board).toOption.map Hand.Evaluation.category
  else none

/-- Evaluates two hole cards together with the board. -/
def evaluateDeal (cards : List Card) : Except Hand.EvaluationError Hand.Evaluation :=
  if cards.length = 7 then Hand.evaluate cards else Hand.evaluateShort cards

/-- Ranks a seat against the board, or says why it cannot be ranked. -/
def rankSeat (r : HandRecord) (board : List Card) (s : Seat) : Except OmissionReason RankedHand :=
  match s.cardTokens with
  | [] | [_] => .error .noHoleCards
  | [first, second] =>
    if board.length < leastBoard then .error (.incompleteBoard (.ofNat board.length))
    else
      match Card.read first, Card.read second with
      | .error e, _ => .error (.malformedCard e.token)
      | .ok _, .error e => .error (.malformedCard e.token)
      | .ok c, .ok d =>
        match evaluateDeal (c :: d :: board) with
        | .error e => .error (.invalidHand e.message)
        | .ok evaluation => .ok {
            tableId := r.tableId
            handNumber := r.handNumber
            player := s.name
            seat := s.seat
            holeCards := (c, d)
            communityCards := board
            strength := evaluation.strength
            category := evaluation.category
            confidence := 1.0
            durationSeconds := r.durationSeconds
            boardCategory := boardCategory? board }
  | tokens => .error (.tooManyHoleCards (.ofNat tokens.length))

/-- A seat as an entry of what was left out, if it cannot be ranked. -/
def omittedSeat? (r : HandRecord) (board : List Card) (s : Seat) : Option Omission :=
  match rankSeat r board s with
  | .ok _ => none
  | .error reason => some ⟨some s.name, some s.seat, reason⟩

/-- Classifies a record. -/
def ofRecord (r : HandRecord) : Classification :=
  let cards := board r
  { results := r.players.filterMap fun s => (rankSeat r cards s).toOption
    omitted := r.revealed.filterMap omittedToken? ++ r.players.filterMap (omittedSeat? r cards) }

/-- A ranked hand goes before another: it is stronger, or as strong in a lower seat. -/
def goesBefore (a b : RankedHand) : Bool :=
  a.strength < b.strength || (a.strength == b.strength && a.seat < b.seat)

/-- Of two ranked hands the one that goes before the other, the first if neither does. -/
def better (best : Option RankedHand) (r : RankedHand) : Option RankedHand :=
  match best with
  | some b => if goesBefore r b then some r else some b
  | none => some r

/-- The strongest ranked hand; of equally strong ones that of the lowest seat. -/
def strongest? (c : Classification) : Option RankedHand :=
  c.results.foldl better none

end Classification

end Showdown
