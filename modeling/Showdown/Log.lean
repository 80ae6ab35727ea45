import Showdown.Classification
import Showdown.Fusion.Tally
import Showdown.Grading
import Showdown.Health.Status
import Showdown.Settings

/-!
# The log

Whatever a part of the service does is noted. A note says what happened; its level, its text and
the part it comes from follow from that. What a note is about is given by named fields, which
`Showdown.Log.Fields` puts into words.
-/

namespace Showdown

/-- How much a note matters, in ascending order. -/
inductive Level where
  /-- Of interest only when looking for faults in the service. -/
  | trace
  /-- Of interest only when looking into one hand. -/
  | debug
  /-- Part of the ordinary course. -/
  | info
  /-- Something that should not happen. -/
  | warn
  deriving DecidableEq

/-- A level in writing. -/
def Level.text : Level → String
  | trace => "TRACE"
  | debug => "DEBUG"
  | info => "INFO"
  | warn => "WARN"

/-- The part of the service a note comes from. -/
inductive Scope where
  /-- A table. -/
  | table
  /-- The floor with all its tables. -/
  | floor
  /-- The monitor of health. -/
  | health
  /-- The service as a whole. -/
  | service
  deriving DecidableEq

/-- Something that happened. -/
inductive Note where
  /-- A table was opened. -/
  | tableOpened (tableId : TableId)
  /-- An observation took the place of an earlier one of the same hand from the same source. -/
  | replaced (tableId : TableId) (hand : HandNumber) (source : Source)
  /-- An observation came too late. -/
  | late (tableId : TableId) (hand : HandNumber) (source : Source)
  /-- A hand was opened and waits for its second observation. -/
  | waiting (tableId : TableId) (hand : HandNumber) (source : Source)
  /-- A timer ran out that belongs to no waiting hand. -/
  | staleExpiry (tableId : TableId) (hand : HandNumber) (generation : Nat)
  /-- The hands that still wait are resolved because the table is shut down. -/
  | draining (tableId : TableId) (count : Nat)
  /-- The sources have disagreed several times in a row. -/
  | disagreeing (tableId : TableId) (streak : UInt32)
  /-- The sources agree again after that. -/
  | agreeing (tableId : TableId)
  /-- A hand was resolved. -/
  | resolved (result : FusedHand)
  /-- Nobody takes the results of the table any more. -/
  | unheard (tableId : TableId)
  /-- An observation changed the status of a table. -/
  | recovered (tableId : TableId) (source : Source) (status : Status)
  /-- A table is removed. -/
  | removing (tableId : TableId)
  /-- All tables are shut down. -/
  | closingFloor (tables : Nat)
  /-- A sweep changed the status of a table. -/
  | statusChanged (change : StatusChange)
  /-- The service was started. -/
  | started (settings : Settings)
  /-- A player, or a token of the board, was left out. -/
  | leftOut (tableId : TableId) (hand : HandNumber) (entry : Omission)
  /-- No player of a record could be ranked. -/
  | unranked (tableId : TableId) (hand : HandNumber)
  /-- A hand was graded. -/
  | graded (result : FusedHand) (grading : Grading)
  /-- All results have been graded. -/
  | gradingDone
  /-- The service was stopped. -/
  | stopped (tally : Tally)

/-- A player who folded, or whose board was never completed, is left out in the ordinary course of
a hand. -/
def OmissionReason.isOrdinary : OmissionReason → Bool
  | noHoleCards | incompleteBoard _ => true
  | _ => false

namespace Note

/-- How much a note matters. -/
def level : Note → Level
  | staleExpiry .. => .trace
  | waiting .. | unranked .. | gradingDone => .debug
  | late .. | disagreeing .. | unheard .. => .warn
  | leftOut _ _ entry => if entry.reason.isOrdinary then .debug else .warn
  | _ => .info

/-- The part of the service a note comes from. -/
def scope : Note → Scope
  | recovered .. | removing .. | closingFloor .. => .floor
  | statusChanged .. => .health
  | started .. | leftOut .. | unranked .. | graded .. | gradingDone | stopped .. => .service
  | _ => .table

/-- A note in words. -/
def message : Note → String
  | tableOpened .. => "starting table fusion task"
  | replaced .. => "replacing duplicate observation"
  | late .. => "hand already resolved, dropping late arrival"
  | waiting .. => "awaiting counterpart"
  | staleExpiry .. => "ignoring stale expiry"
  | draining .. => "resolving pending hands for shutdown"
  | disagreeing .. => "sources keep disagreeing"
  | agreeing .. => "sources agree again"
  | resolved .. => "hand resolved"
  | unheard .. => "fused result receiver closed"
  | recovered .. => "feed recovered"
  | removing .. => "reaping disconnected table"
  | closingFloor .. => "shutting down orchestrator"
  | statusChanged .. => "table health changed"
  | started .. => "pipeline started"
  | leftOut .. => "player skipped"
  | unranked .. => "no rankable player in record"
  | graded .. => "hand graded"
  | gradingDone => "grading stage drained"
  | stopped .. => "pipeline stopped"

/-- The table a note is about. -/
def tableId? : Note → Option TableId
  | tableOpened t | replaced t _ _ | late t _ _ | waiting t _ _ | staleExpiry t _ _
  | draining t _ | disagreeing t _ | agreeing t | unheard t | recovered t _ _ | removing t
  | leftOut t _ _ | unranked t _ => some t
  | resolved r | graded r _ => some r.tableId
  | statusChanged c => some c.tableId
  | closingFloor _ | started _ | gradingDone | stopped _ => none

end Note

end Showdown
