import Showdown.Outlet
import Showdown.Refusal
import Showdown.Table

/-!
# A table in time

A table together with a clock and the timers it has started. Time passes in steps, and during a
step every timer that runs out does so at its own time, in the order of the agenda. A timer that
runs out as soon as it is started does so at the next step, which may be one of no length.

A table accepts messages until it is shut down or abandoned. Either way its waiting hands are given
up, and what is sent to it afterwards is refused; a timer that still runs then counts for nothing.

The table may hand on its results through an outlet. If it had to wait there, it goes on before any
more time passes.
-/

namespace Showdown

/-- A table in time. -/
structure TimedTable where
  /-- The table. -/
  table : Table
  /-- The time. -/
  now : Nat
  /-- The timers that are running. -/
  agenda : Agenda
  /-- Messages are accepted. -/
  accepting : Bool
  /-- The outlet of its results; without one, they are taken at once. -/
  outlet : Option Outlet

/-- An output and the time at which it was put out. -/
structure Stamped where
  /-- The time. -/
  time : Nat
  /-- The output. -/
  output : Table.Output

namespace TimedTable

/-- A table that is opened at time zero. -/
def opened (tableId : TableId) (settings : Table.Settings) : TimedTable :=
  ⟨.opened tableId settings, 0, .empty, true, none⟩

/-- The outputs that are let through now take their course. -/
def putOut (t : TimedTable) (r : Emission (Option Outlet) Table.Output) :
    Emission TimedTable Stamped :=
  let due := t.now + Agenda.span t.table.settings.matchWindow
  ⟨{ t with outlet := r.state, agenda := r.out.foldl (Agenda.heed due) t.agenda },
    r.out.map fun o => ⟨t.now, o⟩⟩

/-- The table has taken a step now. -/
def settle (t : TimedTable) (r : Emission Table Table.Output) : Emission TimedTable Stamped :=
  { t with table := r.state }.putOut (Outlet.offer? t.table.tableId r.out t.outlet)

/-- What is under way is brought to an end, as far as there is room for the results. -/
def goOn (t : TimedTable) : Emission TimedTable Stamped :=
  t.putOut (Outlet.run? t.outlet)

/-- A message reaches the table. -/
def send (m : Table.Message) (t : TimedTable) : Emission TimedTable Stamped :=
  t.settle (t.table.handle m)

/-- A message is sent to the table, which may refuse it. -/
def submit (m : Table.Message) (t : TimedTable) : Except Refusal (Emission TimedTable Stamped) :=
  if t.accepting then .ok (t.send m) else .error (.tableClosed t.table.tableId)

/-- It becomes a given time, unless it is later already. What is under way is finished before. -/
def waitUntil (time : Nat) (t : TimedTable) : Emission TimedTable Stamped :=
  if t.now < time then t.goOn.andThen fun t => .quiet { t with now := time } else .quiet t

/-- A timer runs out, unless it was stopped. -/
def fire (timer : Timer) (t : TimedTable) : Emission TimedTable Stamped :=
  (t.waitUntil timer.due).andThen fun t =>
  if t.agenda.timers.contains timer then
    let t := { t with agenda := t.agenda.stop timer.key }
    if t.accepting then t.send (.expired timer.key.hand timer.key.generation) else .quiet t
  else .quiet t

/-- Some timers run out, and then it is a given time. -/
def runOut (timers : List Timer) (time : Nat) (t : TimedTable) : Emission TimedTable Stamped :=
  ((Emission.forEach fire timers t).andThen (waitUntil time)).andThen goOn

/-- Time passes up to a given time. -/
def advanceTo (time : Nat) (t : TimedTable) : Emission TimedTable Stamped :=
  t.goOn.andThen fun t => t.runOut (t.agenda.due time) time

/-- A number of milliseconds passes. -/
def advance (ms : Nat) (t : TimedTable) : Emission TimedTable Stamped :=
  t.advanceTo (t.now + ms)

/-! ### Haste

Somebody in haste does not wait until all timers that run out together have done so. The tables get
no turn before the last of them has. -/

/-- The timers that should have run out by now do so. -/
def catchUp (t : TimedTable) : Emission TimedTable Stamped :=
  t.runOut (t.agenda.due t.now) t.now

/-- A number of the timers that should have run out by now do so. -/
def fireSome (count : Nat) (t : TimedTable) : Emission TimedTable Stamped :=
  (Emission.forEach fire ((t.agenda.due t.now).take count) t).andThen fun t =>
    if (t.agenda.due t.now).isEmpty then t.goOn else .quiet t

/-- Time passes up to a given time; of the timers that run out just then only a number do so yet,
and if that is now, then only a number of those that are left from before. -/
def hastenTo (count time : Nat) (t : TimedTable) : Emission TimedTable Stamped :=
  if time ≤ t.now && !(t.agenda.due t.now).isEmpty then t.fireSome count
  else
    ((t.catchUp.andThen fun t => Emission.forEach fire (t.agenda.dueBefore time) t).andThen
      (waitUntil time)).andThen (fireSome count)

/-- The table is shut down. -/
def shutdown (t : TimedTable) : Emission TimedTable Stamped :=
  { t with accepting := false }.send .shutdown

/-- Nobody can send messages any more, so the waiting hands are given up. -/
def abandon (t : TimedTable) : Emission TimedTable Stamped :=
  if t.accepting then { t with accepting := false }.settle t.table.giveUpAll else .quiet t

end TimedTable

end Showdown
