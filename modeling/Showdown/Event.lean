import Showdown.Grading
import Showdown.Health.Status

/-!
# Events

What is made known to the outside: graded hands, hands worth broadcasting, changes of health, and
tables whose sources keep contradicting each other.
-/

namespace Showdown

/-- An event for subscribers. -/
inductive Event where
  /-- A hand was resolved and graded. -/
  | graded (fused : FusedHand) (grading : Grading)
  /-- A hand may be broadcast. -/
  | broadcastable (fused : FusedHand) (grade : Findings)
  /-- The status of a table changed. -/
  | statusChanged (report : StatusReport)
  /-- The sources of a table disagreed this many times in a row. -/
  | disagreement (tableId : TableId) (streak : UInt32)

/-- The table an event is about. -/
def Event.tableId : Event → TableId
  | graded fused _ => fused.tableId
  | broadcastable fused _ => fused.tableId
  | statusChanged report => report.change.tableId
  | disagreement tableId _ => tableId

end Showdown
