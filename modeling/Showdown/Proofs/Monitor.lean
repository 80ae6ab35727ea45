import Showdown.Health.Monitor
import Showdown.Proofs.Lookup
import Mathlib.Data.List.Basic

/-!
# What the monitor knows of one table

What the monitor knows of a table, and which changes it reports of it, depends on nothing it knows
of other tables: an observation is noted for its own table only, and of what a sweep or the search
for tables to be removed finds, the part about one table is what is found of that table alone
(`filter_sweep`, `filter_overdue`).
-/

namespace Showdown

/-! ### Status and liveness -/

/-- Whether the sources of a table deliver, as far as the monitor knows. -/
def Channel.liveness (c : Channel) : Source → Liveness
  | .primary => c.primary.liveness
  | .secondary => c.secondary.liveness

theorem Status.ofLiveness_inj {p p' s s' : Liveness} (h : ofLiveness p s = ofLiveness p' s') :
    p = p' ∧ s = s' := by
  cases p <;> cases p' <;> cases s <;> cases s' <;> simp [ofLiveness] at h ⊢

theorem Status.ofLiveness_eq_disconnected {p s : Liveness} :
    ofLiveness p s = disconnected ↔ p = .stale ∧ s = .stale := by
  cases p <;> cases s <;> simp [ofLiveness]

/-- A status in which one source delivers: either both do, or the other one is silent. -/
theorem Channel.status_observe (c : Channel) (source : Source) (now : Nat) :
    (c.observe source now).status = .healthy ∨
      (c.observe source now).status = .degraded source.other := by
  cases source with
  | primary =>
    cases h : c.secondary.liveness <;>
      simp [observe, status, Feed.seenAt, Status.ofLiveness, h, Source.other]
  | secondary =>
    cases h : c.primary.liveness <;>
      simp [observe, status, Feed.seenAt, Status.ofLiveness, h, Source.other]

/-! ### Changes -/

theorem Channel.change?_eq_none {tableId : TableId} {c c' : Channel}
    (h : change? tableId c c' = none) : c.status = c'.status := by
  unfold change? at h
  split at h
  · assumption
  · cases h

theorem Channel.status_ne_of_change {tableId : TableId} {c c' : Channel} {change : StatusChange}
    (h : change? tableId c c' = some change) : c.status ≠ c'.status := by
  unfold change? at h
  split at h
  · cases h
  · assumption

theorem Channel.status_of_change {tableId : TableId} {c c' : Channel} {change : StatusChange}
    (h : change? tableId c c' = some change) :
    Status.ofLiveness change.primary change.secondary = c'.status := by
  unfold change? at h
  split at h
  · cases h
  · obtain rfl := Option.some.inj h
    rfl

/-- A change ends in the status that the livenesses it names give. -/
theorem Channel.after_of_change {tableId : TableId} {c c' : Channel} {change : StatusChange}
    (h : change? tableId c c' = some change) :
    Status.ofLiveness change.primary change.secondary = change.after := by
  unfold change? at h
  split at h
  · cases h
  · obtain rfl := Option.some.inj h
    rfl

/-- A change is one of the table it was looked for at. -/
theorem Channel.tableId_of_change {tableId : TableId} {before after : Channel} {c : StatusChange}
    (h : change? tableId before after = some c) : c.tableId = tableId := by
  unfold change? at h
  split at h
  · cases h
  · obtain rfl := Option.some.inj h
    rfl

/-- Only a table without a source that delivers has been disconnected for some time. -/
theorem Channel.status_of_isOverdue {c : Channel} {window grace now time : Nat}
    (h : (c.reassess window now).isOverdue grace time = true) :
    (c.reassess window now).status = .disconnected := by
  by_contra connected
  have never : (c.reassess window now).disconnectedSince = none := if_neg connected
  simp [isOverdue, never] at h

/-! ### Changes that follow on one another -/

/-- Some changes of status lead from one status to another: each begins where the one before it
ended, and none ends where it began. -/
def Status.Leads : Status → List StatusChange → Status → Prop
  | a, [], b => a = b
  | a, c :: cs, b => c.before = a ∧ c.before ≠ c.after ∧ Leads c.after cs b

namespace Status

theorem Leads.append {a b c : Status} {cs cs' : List StatusChange} (l : Leads a cs b)
    (l' : Leads b cs' c) : Leads a (cs ++ cs') c := by
  induction cs generalizing a with
  | nil => exact (show a = b from l) ▸ l'
  | cons d ds ih => exact ⟨l.1, l.2.1, ih l.2.2⟩

/-- What the monitor finds to have changed leads from one status to the other. -/
theorem leads_change (tableId : TableId) (before after : Channel) :
    Leads before.status (Channel.change? tableId before after).toList after.status := by
  unfold Channel.change?
  split
  · assumption
  · exact ⟨rfl, ‹_›, rfl⟩

end Status

namespace Monitor

variable {m : Monitor} {tableId other : TableId}

/-! ### Observations -/

@[simp] theorem window_observe (m : Monitor) (tableId : TableId) (source : Source) (now : Nat) :
    (m.observe tableId source now).1.window = m.window := rfl

theorem channel?_observe (m : Monitor) (tableId : TableId) (source : Source) (now : Nat) :
    (m.observe tableId source now).1.channel? tableId =
      some (((m.channel? tableId).getD (.firstHeard now)).observe source now) := by
  simp [observe, channel?]

theorem channel?_observe_of_ne (m : Monitor) (h : other ≠ tableId) (source : Source) (now : Nat) :
    (m.observe tableId source now).1.channel? other = m.channel? other :=
  getElem?_insert_of_ne m.tables h _

/-- The change that an observation brings about. -/
theorem change_observe (m : Monitor) (tableId : TableId) (source : Source) (now : Nat) :
    (m.observe tableId source now).2 =
      Channel.change? tableId ((m.channel? tableId).getD (.firstHeard now))
        (((m.channel? tableId).getD (.firstHeard now)).observe source now) := rfl

theorem tableId_of_observe {source : Source} {now : Nat} {c : StatusChange}
    (h : (m.observe tableId source now).2 = some c) : c.tableId = tableId :=
  Channel.tableId_of_change h

/-! ### Sweeps -/

@[simp] theorem window_sweep (m : Monitor) (now : Nat) : (m.sweep now).1.window = m.window := rfl

theorem channel?_sweep (m : Monitor) (now : Nat) (tableId : TableId) :
    (m.sweep now).1.channel? tableId =
      (m.channel? tableId).map fun c => c.reassess m.window now := by
  simp [sweep, channel?]

/-- The change of a table that a sweep finds. -/
def found? (m : Monitor) (now : Nat) (tableId : TableId) : Option StatusChange :=
  (m.channel? tableId).bind fun c => Channel.change? tableId c (c.reassess m.window now)

/-- Of each table a sweep finds what there is to be found of it alone. -/
theorem filter_sweep (m : Monitor) (now : Nat) (tableId : TableId) :
    (m.sweep now).2.filter (fun c => c.tableId == tableId) = (m.found? now tableId).toList := by
  have entry (e : TableId × Channel) :
      (Channel.change? e.1 e.2 (e.2.reassess m.window now)).filter (fun c => c.tableId == tableId) =
        if e.1 == tableId then Channel.change? e.1 e.2 (e.2.reassess m.window now) else none := by
    cases h : Channel.change? e.1 e.2 (e.2.reassess m.window now) with
    | none => simp
    | some c => simp [Option.filter, Channel.tableId_of_change h]
  have changes : (m.sweep now).2.filter (fun c => c.tableId == tableId) =
      (m.tables.toList.filter fun e => e.1 == tableId).filterMap fun e =>
        Channel.change? e.1 e.2 (e.2.reassess m.window now) := by
    rw [sweep, List.filter_filterMap, List.filterMap_filter]
    exact congrArg (List.filterMap · m.tables.toList) (funext entry)
  rw [changes, filter_toList_eq, found?, channel?]
  cases m.tables[tableId]? with
  | none => rfl
  | some c => cases h : Channel.change? tableId c (c.reassess m.window now) <;> simp [h]

/-! ### Forgetting -/

@[simp] theorem window_forget (m : Monitor) (tableId : TableId) :
    (m.forget tableId).window = m.window := rfl

theorem channel?_forget (m : Monitor) (tableId : TableId) :
    (m.forget tableId).channel? tableId = none := by
  simp [forget, channel?]

theorem channel?_forget_of_ne (m : Monitor) (h : other ≠ tableId) :
    (m.forget tableId).channel? other = m.channel? other :=
  getElem?_erase_of_ne m.tables h

/-- A table is found disconnected for too long by what is known of it alone. -/
theorem filter_overdue (m : Monitor) (grace now : Nat) (tableId : TableId) :
    (m.overdue grace now).filter (fun k => k == tableId) =
      if (m.channel? tableId).any fun c => c.isOverdue grace now then [tableId] else [] := by
  have own : (m.overdue grace now).filter (fun k => k == tableId) =
      ((m.tables.toList.filter fun e => e.1 == tableId).filter fun e =>
        e.2.isOverdue grace now).map Prod.fst := by
    rw [overdue, List.filter_map, List.filter_comm]
    rfl
  rw [own, filter_toList_eq, channel?]
  cases m.tables[tableId]? with
  | none => rfl
  | some c => cases h : c.isOverdue grace now <;> simp [h]

/-- A table is found disconnected for too long if its channel is. -/
theorem mem_overdue {grace now : Nat} :
    tableId ∈ m.overdue grace now ↔ ∃ c, m.channel? tableId = some c ∧ c.isOverdue grace now := by
  have own : tableId ∈ m.overdue grace now ↔
      tableId ∈ (m.overdue grace now).filter fun k => k == tableId := by simp
  rw [own, filter_overdue]
  cases m.channel? tableId <;> simp

end Monitor

end Showdown
