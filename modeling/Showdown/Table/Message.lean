import Showdown.Agenda
import Showdown.Effect
import Showdown.Fusion.Policy

/-!
# What a table hears and says

All that reaches a table comes as a message into its inbox, and the messages are handled one after
another. While it handles a message a table puts out effects, starts and stops timers, and gives
the answer if one was asked for.
-/

namespace Showdown

namespace Table

/-- What a table is tuned by. -/
structure Settings where
  /-- How observations are fused. -/
  policy : Policy
  /-- How long a hand waits for its second observation. -/
  matchWindow : Nat
  /-- The number of disagreements in a row that is reported. -/
  mismatchThreshold : UInt32

/-- What reaches a table. -/
inductive Message where
  /-- An observation of the card readers. -/
  | primary (r : RankedHand)
  /-- An observation of the video. -/
  | secondary (r : Sighting)
  /-- Whether the two sources deliver. -/
  | health (primary secondary : Liveness)
  /-- A timer has run out. -/
  | expired (hand : HandNumber) (generation : Nat)
  /-- Somebody asks for a snapshot. -/
  | snapshot
  /-- The table is to be shut down. -/
  | shutdown

/-- The state of a table at one moment, as it is shown to others. -/
structure Snapshot where
  /-- The table. -/
  tableId : TableId
  /-- The hands that wait, in ascending order. -/
  pendingHands : List HandNumber
  /-- The counters of results. -/
  tally : Tally
  /-- Whether the card readers deliver. -/
  primary : Liveness
  /-- Whether the video delivers. -/
  secondary : Liveness
  /-- The number of disagreements since the sources last agreed. -/
  streak : UInt32

/-- What a table puts out. -/
inductive Output where
  /-- An effect. -/
  | effect (e : Effect)
  /-- A timer is started that runs for the window for matching. -/
  | startTimer (key : TimerKey)
  /-- A timer is stopped. -/
  | stopTimer (key : TimerKey)
  /-- The snapshot that was asked for. -/
  | snapshot (s : Snapshot)
  /-- The counters of a table that has shut down. -/
  | closed (tally : Tally)

namespace Output

/-- The effect that is put out. -/
def effect? : Output → Option Effect
  | effect e => some e
  | _ => none

/-- The result that is handed on. -/
def fused? (o : Output) : Option FusedHand :=
  o.effect?.bind Effect.fused?

end Output

end Table

/-- The agenda after an output of a table; a timer started by it is due at a given time. -/
def Agenda.heed (due : Nat) (a : Agenda) : Table.Output → Agenda
  | .startTimer key => a.start ⟨due, key⟩
  | .stopTimer key => a.stop key
  | _ => a

end Showdown
