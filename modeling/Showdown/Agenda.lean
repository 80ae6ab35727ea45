import Showdown.Record

/-!
# The agenda

Running timers, each with the hand it is for and the time at which it runs out. The agenda keeps
them in the order in which they run out, and those that run out together in the order in which
they were started. No timer runs for more than thirty years.

A hand number may be opened several times. The generation tells the openings of a table apart, so
a timer never counts for another opening than the one it was started for.
-/

namespace Showdown

/-- What a timer is for. -/
structure TimerKey where
  /-- The table. -/
  tableId : TableId
  /-- The hand. -/
  hand : HandNumber
  /-- The opening of the hand. -/
  generation : Nat
  deriving DecidableEq

/-- A running timer. -/
structure Timer where
  /-- When it runs out. -/
  due : Nat
  /-- What it is for. -/
  key : TimerKey
  deriving DecidableEq

/-- The running timers. -/
structure Agenda where
  /-- The timers in the order in which they run out. -/
  timers : List Timer
  deriving DecidableEq

namespace Agenda

/-- No timers. -/
def empty : Agenda := ⟨[]⟩

/-- Puts a timer before the first one that runs out later. -/
def place (t : Timer) : List Timer → List Timer
  | [] => [t]
  | u :: us => if t.due < u.due then t :: u :: us else u :: place t us

/-- Starts a timer. -/
def start (a : Agenda) (t : Timer) : Agenda :=
  ⟨place t a.timers⟩

/-- Stops a timer. -/
def stop (a : Agenda) (key : TimerKey) : Agenda :=
  ⟨a.timers.filter fun t => t.key != key⟩

/-- The timers that run out up to a time, in order. -/
def due (a : Agenda) (limit : Nat) : List Timer :=
  a.timers.filter fun t => t.due ≤ limit

/-- The timers that run out before a time, in order. -/
def dueBefore (a : Agenda) (limit : Nat) : List Timer :=
  a.timers.filter fun t => t.due < limit

/-- The longest time for which a timer runs, in milliseconds: thirty years of 365 days. -/
def longest : Nat := 946080000000

/-- How long a timer runs that is started for a time. -/
def span (ms : Nat) : Nat := min ms longest

end Agenda

end Showdown
