import Showdown.Health.Status
import Std.Data.TreeMap

/-!
# The health monitor

For each table the monitor notes when either source was last seen. An observation makes its source
fresh at once. That a source has become stale is only found out by a sweep, which looks at all
tables: a source is stale if it was last seen at least a window ago, and a source that was never
seen is taken to have been seen when the table was first heard of.

Every change of the status of a table is reported once, by the call that brings it about. Times
are milliseconds on one clock and may be given in any order; a time before another one counts as
no time after it.
-/

namespace Showdown

/-- What is known of one source of a table. -/
structure Feed where
  /-- Whether it delivers. -/
  liveness : Liveness
  /-- When it last delivered. -/
  lastSeen : Option Nat
  deriving DecidableEq

/-- A source that has not delivered yet. -/
def Feed.unseen : Feed := ⟨.fresh, none⟩

/-- A source that delivers now. -/
def Feed.seenAt (now : Nat) : Feed := ⟨.fresh, some now⟩

/-- A source whose liveness is found out again. -/
def Feed.reassess (f : Feed) (window registeredAt now : Nat) : Feed :=
  { f with liveness := if window ≤ now - f.lastSeen.getD registeredAt then .stale else .fresh }

/-- What is known of the sources of a table. -/
structure Channel where
  /-- The card readings. -/
  primary : Feed
  /-- The video. -/
  secondary : Feed
  /-- When the table was first heard of. -/
  registeredAt : Nat
  /-- The sweep that found both sources stale, if no later one and no observation ended that. -/
  disconnectedSince : Option Nat
  deriving DecidableEq

namespace Channel

/-- A table that is heard of for the first time. -/
def firstHeard (now : Nat) : Channel :=
  ⟨.unseen, .unseen, now, none⟩

/-- The status of a table. -/
def status (c : Channel) : Status :=
  .ofLiveness c.primary.liveness c.secondary.liveness

/-- A source delivers. -/
def observe (c : Channel) (source : Source) (now : Nat) : Channel :=
  match source with
  | .primary => { c with primary := .seenAt now, disconnectedSince := none }
  | .secondary => { c with secondary := .seenAt now, disconnectedSince := none }

/-- The liveness of both sources is found out again. -/
def reassess (c : Channel) (window now : Nat) : Channel :=
  let primary := c.primary.reassess window c.registeredAt now
  let secondary := c.secondary.reassess window c.registeredAt now
  { c with
    primary := primary
    secondary := secondary
    disconnectedSince :=
      if Status.ofLiveness primary.liveness secondary.liveness = .disconnected then
        some (c.disconnectedSince.getD now)
      else none }

/-- The table has been disconnected for at least a time of grace. -/
def isOverdue (c : Channel) (grace now : Nat) : Bool :=
  c.disconnectedSince.any fun since => grace ≤ now - since

/-- The change of status from one state of a table to another, if there is one. -/
def change? (tableId : TableId) (before after : Channel) : Option StatusChange :=
  if before.status = after.status then none
  else some
    { tableId := tableId
      before := before.status
      after := after.status
      primary := after.primary.liveness
      secondary := after.secondary.liveness }

end Channel

/-- The health of all tables heard of. -/
structure Monitor where
  /-- How long a source may be silent before it counts as stale. -/
  window : Nat
  /-- The tables. -/
  tables : Std.TreeMap TableId Channel

namespace Monitor

/-- A monitor that has heard of no table. -/
def start (window : Nat) : Monitor := ⟨window, ∅⟩

/-- What is known of a table. -/
def channel? (m : Monitor) (tableId : TableId) : Option Channel :=
  m.tables[tableId]?

/-- A source of a table delivers. -/
def observe (m : Monitor) (tableId : TableId) (source : Source) (now : Nat) :
    Monitor × Option StatusChange :=
  let before := (m.channel? tableId).getD (.firstHeard now)
  let after := before.observe source now
  ({ m with tables := m.tables.insert tableId after }, Channel.change? tableId before after)

/-- The liveness of all sources is found out again. The changes are in the order of the tables. -/
def sweep (m : Monitor) (now : Nat) : Monitor × List StatusChange :=
  ({ m with tables := m.tables.map fun _ c => c.reassess m.window now },
    m.tables.toList.filterMap fun e => Channel.change? e.1 e.2 (e.2.reassess m.window now))

/-- A table is forgotten. -/
def forget (m : Monitor) (tableId : TableId) : Monitor :=
  { m with tables := m.tables.erase tableId }

/-- The tables that have been disconnected for at least a time of grace, in order. -/
def overdue (m : Monitor) (grace now : Nat) : List TableId :=
  (m.tables.toList.filter fun e => e.2.isOverdue grace now).map Prod.fst

/-- The number of tables heard of. -/
def count (m : Monitor) : Nat :=
  m.tables.size

end Monitor

end Showdown
