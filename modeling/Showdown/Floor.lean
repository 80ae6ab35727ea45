import Showdown.Health.Monitor
import Showdown.Outlet
import Showdown.Refusal
import Showdown.Table

/-!
# The floor

The floor holds the tables that are open. It opens a table when the first observation for it
arrives, routes observations to their tables, and lets the monitor know that their sources have
delivered. If a status changes, because a source delivers again or because a sweep found it
silent, then the change is published, and the table is told, if it is open. What the table makes of
it comes after that.

A table that has been disconnected for too long is removed, and so is one that somebody asks to be
removed: its waiting hands are given up, and the monitor forgets it. Its counters are kept, so
that the total over all tables never loses a result. The same holds if the whole floor is shut
down, except that the monitor then forgets nothing.

The floor may hand on its results through an outlet. Tables that had to wait there go on before any
more time passes.
-/

namespace Showdown

/-- The state of the floor. -/
structure Floor where
  /-- What its tables are tuned by. -/
  settings : Table.Settings
  /-- How long a table may stay disconnected before it is removed. -/
  grace : Nat
  /-- The instants that the times of the clock stand for. -/
  calendar : Nat → UtcTime
  /-- The time. -/
  now : Nat
  /-- The tables that are open. -/
  tables : Std.TreeMap TableId Table
  /-- The timers that are running. -/
  agenda : Agenda
  /-- The health of the tables. -/
  monitor : Monitor
  /-- The counters of the tables that were removed or shut down. -/
  closedTally : Tally
  /-- The outlet of the results; without one, they are taken at once. -/
  outlet : Option Outlet

namespace Floor

/-- A floor without tables, at time zero. -/
def opened (s : Settings) (calendar : Nat → UtcTime) : Floor :=
  { settings := ⟨s.policy, s.matchWindow, s.mismatchThreshold⟩
    grace := s.disconnectGrace
    calendar := calendar
    now := 0
    tables := ∅
    agenda := .empty
    monitor := .start s.stalenessWindow
    closedTally := .zero
    outlet := none }

/-- A note as an effect. -/
def noted (n : Note) : Effect := .note n

/-- A change of status as it is published now. -/
def published (f : Floor) (c : StatusChange) : Effect :=
  .event (.statusChanged ⟨c, f.calendar f.now⟩)

/-! ### Tables -/

/-- The timers after some outputs of a table. -/
def heed (f : Floor) (out : List Table.Output) : Agenda :=
  out.foldl (Agenda.heed (f.now + Agenda.span f.settings.matchWindow)) f.agenda

/-- The outputs that are let through now take their course. -/
def putOut (f : Floor) (r : Emission (Option Outlet) Table.Output) : Emission Floor Effect :=
  ⟨{ f with outlet := r.state, agenda := f.heed r.out }, r.out.filterMap Table.Output.effect?⟩

/-- What is under way is brought to an end, as far as there is room for the results. -/
def goOn (f : Floor) : Emission Floor Effect :=
  f.putOut (Outlet.run? f.outlet)

/-- A message reaches a table, if it is open. -/
def deliver (m : Table.Message) (tableId : TableId) (f : Floor) : Emission Floor Effect :=
  match f.tables[tableId]? with
  | none => .quiet f
  | some t =>
    let r := t.handle m
    { f with tables := f.tables.insert tableId r.state }.putOut
      (Outlet.offer? tableId r.out f.outlet)

/-- A table is opened, unless it is open. -/
def openTable (tableId : TableId) (f : Floor) : Emission Floor Effect :=
  if f.tables.contains tableId then .quiet f
  else
    ⟨{ f with tables := f.tables.insert tableId (.opened tableId f.settings) },
      [noted (.tableOpened tableId)]⟩

/-- A table is shut down, which is waited for, and its counters are kept. -/
def closeTable (tableId : TableId) (f : Floor) : Emission Floor Effect :=
  match f.tables[tableId]? with
  | none => .quiet f
  | some t =>
    let r := t.handle .shutdown
    ({ f with
      tables := f.tables.erase tableId
      closedTally := f.closedTally.merge r.state.tally }.putOut
        (Outlet.offer? tableId r.out f.outlet)).andThen goOn

/-! ### Arrivals -/

/-- A source of an open table delivers. -/
def arrive (source : Source) (tableId : TableId) (f : Floor) : Emission Floor Effect :=
  let (monitor, change) := f.monitor.observe tableId source f.now
  let f := { f with monitor := monitor }
  match change with
  | none => .quiet f
  | some c =>
    (f.deliver (.health c.primary c.secondary) tableId).after
      [noted (.recovered tableId source c.after), f.published c]

/-- An observation of the card readers arrives. -/
def receiveHand (r : RankedHand) (f : Floor) : Emission Floor Effect :=
  ((f.openTable r.tableId).andThen (arrive .primary r.tableId)).andThen
    (deliver (.primary r) r.tableId)

/-- An observation of the video arrives whose confidence is known to be one. -/
def receiveSighting (r : Sighting) (f : Floor) : Emission Floor Effect :=
  ((f.openTable r.tableId).andThen (arrive .secondary r.tableId)).andThen
    (deliver (.secondary r) r.tableId)

/-- An observation of the video arrives. -/
def admitSighting (r : Sighting) (f : Floor) : Except Refusal (Emission Floor Effect) :=
  match r.validate with
  | .ok () => .ok (f.receiveSighting r)
  | .error e => .error (.confidence e)

/-- A source delivers something without an observation. This does not open a table; if the table
is not open, only the monitor takes note. -/
def hear (source : Source) (tableId : TableId) (f : Floor) : Emission Floor Effect :=
  if f.tables.contains tableId then f.arrive source tableId
  else .quiet { f with monitor := (f.monitor.observe tableId source f.now).1 }

/-- A table is told whether its sources deliver, whatever the monitor says. -/
def tellHealth (primary secondary : Liveness) (tableId : TableId) (f : Floor) :
    Emission Floor Effect :=
  f.deliver (.health primary secondary) tableId

/-! ### Checks of health -/

/-- The changes of status that a sweep at a given time would find. -/
def changesAt (f : Floor) (time : Nat) : List StatusChange :=
  (f.monitor.sweep time).2

/-- A table is told of a change of its status. -/
def forward (c : StatusChange) (f : Floor) : Emission Floor Effect :=
  f.deliver (.health c.primary c.secondary) c.tableId

/-- The first half of a check: a sweep at a given time. All its findings are published before any
table makes something of what it is told. -/
def sweep (time : Nat) (f : Floor) : Emission Floor Effect :=
  let (monitor, changes) := f.monitor.sweep time
  (Emission.forEach forward changes { f with monitor := monitor }).after
    (changes.map (fun c => noted (.statusChanged c)) ++ changes.map f.published)

/-- The tables that have been disconnected for too long at a given time. -/
def overdue (f : Floor) (time : Nat) : List TableId :=
  f.monitor.overdue f.grace time

/-- A table is removed, and the monitor forgets it. -/
def remove (tableId : TableId) (f : Floor) : Emission Floor Effect :=
  let forgotten := { f with monitor := f.monitor.forget tableId }
  if f.tables.contains tableId then
    (forgotten.closeTable tableId).after [noted (.removing tableId)]
  else .quiet forgotten

/-- A check of health at a given time: a sweep, and then the removal of the tables that have been
disconnected for too long. -/
def check (time : Nat) (f : Floor) : Emission Floor Effect :=
  (f.sweep time).andThen fun f => Emission.forEach remove (f.overdue time) f

/-! ### Time -/

/-- It becomes a given time, unless it is later already. What is under way is finished before. -/
def waitUntil (time : Nat) (f : Floor) : Emission Floor Effect :=
  if f.now < time then f.goOn.andThen fun f => .quiet { f with now := time } else .quiet f

/-- A timer runs out, unless it was stopped. -/
def fire (timer : Timer) (f : Floor) : Emission Floor Effect :=
  (f.waitUntil timer.due).andThen fun f =>
  if f.agenda.timers.contains timer then
    let f := { f with agenda := f.agenda.stop timer.key }
    f.deliver (.expired timer.key.hand timer.key.generation) timer.key.tableId
  else .quiet f

/-- Some timers run out, and then it is a given time. -/
def runOut (timers : List Timer) (time : Nat) (f : Floor) : Emission Floor Effect :=
  ((Emission.forEach fire timers f).andThen (waitUntil time)).andThen goOn

/-- Time passes up to a given time. -/
def advanceTo (time : Nat) (f : Floor) : Emission Floor Effect :=
  f.goOn.andThen fun f => f.runOut (f.agenda.due time) time

/-- A number of milliseconds passes. -/
def advance (ms : Nat) (f : Floor) : Emission Floor Effect :=
  f.advanceTo (f.now + ms)

/-! ### Haste

Somebody in haste does not wait until all timers that run out together have done so. The tables get
no turn before the last of them has. -/

/-- The timers that should have run out by now do so. -/
def catchUp (f : Floor) : Emission Floor Effect :=
  f.runOut (f.agenda.due f.now) f.now

/-- A number of the timers that should have run out by now do so. -/
def fireSome (count : Nat) (f : Floor) : Emission Floor Effect :=
  (Emission.forEach fire ((f.agenda.due f.now).take count) f).andThen fun f =>
    if (f.agenda.due f.now).isEmpty then f.goOn else .quiet f

/-- Time passes up to a given time; of the timers that run out just then only a number do so yet,
and if that is now, then only a number of those that are left from before. -/
def hastenTo (count time : Nat) (f : Floor) : Emission Floor Effect :=
  if time ≤ f.now && !(f.agenda.due f.now).isEmpty then f.fireSome count
  else
    ((f.catchUp.andThen fun f => Emission.forEach fire (f.agenda.dueBefore time) f).andThen
      (waitUntil time)).andThen (fireSome count)

/-- All tables are shut down, in order. -/
def closeAll (f : Floor) : Emission Floor Effect :=
  (Emission.forEach closeTable f.tables.keys f).after [noted (.closingFloor f.tables.size)]

/-! ### Questions -/

/-- The open tables, in order. -/
def openTables (f : Floor) : List TableId :=
  f.tables.keys

/-- The state of an open table. -/
def snapshot? (f : Floor) (tableId : TableId) : Option Table.Snapshot :=
  f.tables[tableId]?.map Table.snapshot

/-- The counters of an open table. -/
def tally? (f : Floor) (tableId : TableId) : Option Tally :=
  f.tables[tableId]?.map Table.tally

/-- The counters that an open table would leave behind if it was removed now. -/
def tallyAfterRemoval? (f : Floor) (tableId : TableId) : Option Tally :=
  f.tables[tableId]?.map fun t => (t.handle .shutdown).state.tally

/-- The counters of all tables that are or ever were open. -/
def totalTally (f : Floor) : Tally :=
  f.tables.toList.foldl (fun s e => s.merge e.2.tally) f.closedTally

end Floor

end Showdown
