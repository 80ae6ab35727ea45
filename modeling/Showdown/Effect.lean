import Showdown.Event
import Showdown.Log

/-!
# Effects

What tables and the floor bring about outside of themselves: results are handed on, events are
published, and notes are taken.
-/

namespace Showdown

/-- Something brought about outside. -/
inductive Effect where
  /-- A result is handed on. -/
  | fused (r : FusedHand)
  /-- An event is published. -/
  | event (e : Event)
  /-- A note is taken. -/
  | note (n : Note)

namespace Effect

/-- The result that is handed on. -/
def fused? : Effect → Option FusedHand
  | fused r => some r
  | _ => none

/-- The event that is published. -/
def event? : Effect → Option Event
  | event e => some e
  | _ => none

/-- The note that is taken. -/
def note? : Effect → Option Note
  | note n => some n
  | _ => none

/-- What an effect becomes if nobody takes results: a result is lost, and that is noted. -/
def unheard : Effect → Effect
  | fused r => note (.unheard r.tableId)
  | e => e

end Effect

end Showdown
