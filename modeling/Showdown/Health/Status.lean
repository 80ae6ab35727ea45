import Showdown.Record

/-!
# The health of a table

A table is fed by two sources. Each of them is fresh or stale, and the two together give the
status of the table.
-/

namespace Showdown

/-- A source of observations. -/
inductive Source where
  /-- The card readings. -/
  | primary
  /-- The video. -/
  | secondary
  deriving DecidableEq

/-- The other source. -/
def Source.other : Source → Source
  | primary => secondary
  | secondary => primary

/-- A source in writing. -/
def Source.text : Source → String
  | primary => "primary"
  | secondary => "secondary"

/-- Whether a source delivers. -/
inductive Liveness where
  /-- It has delivered lately. -/
  | fresh
  /-- It has been silent for too long. -/
  | stale
  deriving DecidableEq

/-- The status of a table. -/
inductive Status where
  /-- Both sources deliver. -/
  | healthy
  /-- One source is silent. -/
  | degraded (stale : Source)
  /-- Both sources are silent. -/
  | disconnected
  deriving DecidableEq

/-- The status that two livenesses give. -/
def Status.ofLiveness : Liveness → Liveness → Status
  | .fresh, .fresh => healthy
  | .stale, .fresh => degraded .primary
  | .fresh, .stale => degraded .secondary
  | .stale, .stale => disconnected

/-- A change of the status of a table. -/
structure StatusChange where
  /-- The table. -/
  tableId : TableId
  /-- The status before. -/
  before : Status
  /-- The status after. -/
  after : Status
  /-- The primary source after the change. -/
  primary : Liveness
  /-- The secondary source after the change. -/
  secondary : Liveness
  deriving DecidableEq

/-- A change of status as it is reported, with the time of the report. -/
structure StatusReport where
  /-- The change. -/
  change : StatusChange
  /-- When it was noticed. -/
  observedAt : UtcTime
  deriving DecidableEq

end Showdown
