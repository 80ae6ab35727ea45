import Showdown.Proofs.Floor.Clock
import Showdown.Proofs.Monitor
import Mathlib.Data.List.Induction

/-!
# The docket of a table

Whether a table is removed depends on little: whether it is open, what the monitor knows of it, and
two settings that never change. This is its docket, and what a request does to the docket of a table
depends on nothing else on the floor but the time (`docket_perform`). What its timers and its hands
come to plays no part.
-/

namespace Showdown

/-- What the removal of a table depends on. -/
structure Docket where
  /-- Whether the table is open. -/
  isOpen : Bool
  /-- What the monitor knows of it. -/
  channel : Option Channel
  /-- How long a source may be silent before it counts as stale. -/
  window : Nat
  /-- How long the table may stay disconnected before it is removed. -/
  grace : Nat

namespace Docket

/-- A source of the table delivers. -/
def hear (source : Source) (now : Nat) (d : Docket) : Docket :=
  { d with channel := some ((d.channel.getD (.firstHeard now)).observe source now) }

/-- The table is opened, unless it is open, by an observation of a source. -/
def receive (source : Source) (now : Nat) (d : Docket) : Docket :=
  { d.hear source now with isOpen := true }

/-- The table is shut down. -/
def close (d : Docket) : Docket :=
  { d with isOpen := false }

/-- The table is removed. -/
def remove (d : Docket) : Docket :=
  { d with isOpen := false, channel := none }

/-- The liveness of both sources is found out again. -/
def sweep (time : Nat) (d : Docket) : Docket :=
  { d with channel := d.channel.map fun c => c.reassess d.window time }

/-- The table has been disconnected for too long. -/
def isOverdue (time : Nat) (d : Docket) : Bool :=
  d.channel.any fun c => c.isOverdue d.grace time

/-- What a request that is made at a given time does to a table. -/
def step (tableId : TableId) (now : Nat) (d : Docket) : Floor.Request → Docket
  | .hand r => if r.tableId = tableId then d.receive .primary now else d
  | .sighting r =>
    if r.tableId = tableId ∧ r.validate.isOk then d.receive .secondary now else d
  | .hear heard source => if heard = tableId then d.hear source now else d
  | .check time => if (d.sweep time).isOverdue time then (d.sweep time).remove else d.sweep time
  | .remove removed => if removed = tableId then d.remove else d
  | .closeAll => d.close
  | .tellHealth .. | .advance _ => d

end Docket

namespace Floor

variable {tableId : TableId} {f : Floor}

/-- The docket of a table. -/
def docket (tableId : TableId) (f : Floor) : Docket :=
  ⟨f.tables.contains tableId, f.monitor.channel? tableId, f.monitor.window, f.grace⟩

/-! ### Many steps -/

section Many

variable {α : Type} {g : α → Floor → Emission Floor Effect}

/-- What no step changes, no number of steps changes. -/
theorem docket_forEach (steps : ∀ a (f : Floor), f.outlet = none → Steps f (g a f))
    (keeps : ∀ a (f : Floor), f.outlet = none → (g a f).state.docket tableId = f.docket tableId)
    (taken : f.outlet = none) (as : List α) :
    (Emission.forEach g as f).state.docket tableId = f.docket tableId := by
  induction as generalizing f with
  | nil => rfl
  | cons a as ih => exact (ih ((steps a f taken).outlet taken)).trans (keeps a f taken)

/-- Steps for some tables change the docket of a table if it is one of them. -/
theorem docket_forEach_own {g : TableId → Floor → Emission Floor Effect}
    (change : Docket → Docket) (once : ∀ d, change (change d) = change d)
    (steps : ∀ a (f : Floor), f.outlet = none → Steps f (g a f))
    (changes : ∀ a (f : Floor), f.outlet = none → (g a f).state.docket tableId =
      if a = tableId then change (f.docket tableId) else f.docket tableId)
    (taken : f.outlet = none) (as : List TableId) :
    (Emission.forEach g as f).state.docket tableId =
      if tableId ∈ as then change (f.docket tableId) else f.docket tableId := by
  induction as generalizing f with
  | nil => rfl
  | cons a as ih =>
    rw [Emission.forEach_cons, Emission.state_andThen, ih ((steps a f taken).outlet taken),
      changes a f taken]
    by_cases own : a = tableId
    · subst own
      by_cases again : a ∈ as <;> simp [again, once]
    · simp [own, Ne.symm own]

end Many

/-! ### Tables -/

theorem docket_deliver (taken : f.outlet = none) (m : Table.Message) (recipient : TableId) :
    (f.deliver m recipient).state.docket tableId = f.docket tableId := by
  cases ht : f.tables[recipient]? with
  | none => rw [deliver_of_notOpen ht, Emission.state_quiet]
  | some t =>
    rw [deliver_of_open taken ht]
    simp only [docket, Std.TreeMap.contains_insert]
    by_cases own : recipient = tableId
    · simp [← own, contains_iff_isSome, ht]
    · simp [own]

theorem docket_openTable (opened : TableId) (f : Floor) :
    (f.openTable opened).state.docket tableId =
      if opened = tableId then { f.docket tableId with isOpen := true } else f.docket tableId := by
  cases ht : f.tables[opened]? with
  | none =>
    rw [openTable_of_notOpen ht]
    split <;> simp_all [docket]
  | some t =>
    rw [openTable_of_open (by rw [ht]; rfl), Emission.state_quiet]
    split
    · rename_i own
      simp [docket, contains_iff_isSome, ← own, ht]
    · rfl

theorem docket_closeTable (taken : f.outlet = none) (closed : TableId) :
    (f.closeTable closed).state.docket tableId =
      if closed = tableId then (f.docket tableId).close else f.docket tableId := by
  cases ht : f.tables[closed]? with
  | none =>
    rw [closeTable_of_notOpen ht, Emission.state_quiet]
    split
    · rename_i own
      simp [docket, Docket.close, contains_iff_isSome, ← own, ht]
    · rfl
  | some t =>
    rw [closeTable_of_open taken ht]
    split <;> simp_all [docket, Docket.close]

/-! ### Arrivals -/

theorem docket_observe (source : Source) (heard : TableId) (f : Floor) :
    { f with monitor := (f.monitor.observe heard source f.now).1 }.docket tableId =
      if heard = tableId then (f.docket tableId).hear source f.now else f.docket tableId := by
  split
  · rename_i own
    rw [← own]
    simp [docket, Docket.hear, Monitor.channel?_observe]
  · rename_i other
    simp [docket, Monitor.channel?_observe_of_ne f.monitor (Ne.symm other)]

theorem docket_arrive (taken : f.outlet = none) (source : Source) (heard : TableId) :
    (f.arrive source heard).state.docket tableId =
      if heard = tableId then (f.docket tableId).hear source f.now else f.docket tableId := by
  rw [← docket_observe]
  unfold arrive
  simp only
  split
  · rfl
  · exact docket_deliver (by exact taken) _ heard

theorem docket_hear (taken : f.outlet = none) (source : Source) (heard : TableId) :
    (f.hear source heard).state.docket tableId =
      if heard = tableId then (f.docket tableId).hear source f.now else f.docket tableId := by
  unfold hear
  split
  · exact docket_arrive taken source heard
  · exact docket_observe source heard f

theorem now_openTable (opened : TableId) (f : Floor) : (f.openTable opened).state.now = f.now := by
  unfold openTable
  split <;> rfl

/-- An observation arrives. -/
theorem docket_receive (taken : f.outlet = none) (source : Source) (m : Table.Message)
    (recipient : TableId) :
    (((f.openTable recipient).andThen (arrive source recipient)).andThen
      (deliver m recipient)).state.docket tableId =
      if recipient = tableId then (f.docket tableId).receive source f.now
      else f.docket tableId := by
  have opened := (steps_openTable recipient f taken).outlet taken
  have arrived := (steps_arrive source recipient _ opened).outlet opened
  rw [Emission.state_andThen, docket_deliver (by exact arrived), Emission.state_andThen,
    docket_arrive opened, docket_openTable, now_openTable]
  split <;> rfl

/-! ### Tables that are removed -/

theorem docket_remove (taken : f.outlet = none) (removed : TableId) :
    (f.remove removed).state.docket tableId =
      if removed = tableId then (f.docket tableId).remove else f.docket tableId := by
  have forgotten : { f with monitor := f.monitor.forget removed }.docket tableId =
      if removed = tableId then { f.docket tableId with channel := none }
      else f.docket tableId := by
    split
    · rename_i own
      simp [docket, ← own, Monitor.channel?_forget]
    · rename_i other
      simp [docket, Monitor.channel?_forget_of_ne f.monitor (Ne.symm other)]
  unfold remove
  simp only
  split
  · rw [Emission.state_after, docket_closeTable (by exact taken), forgotten]
    split <;> rfl
  · rename_i closed
    rw [Emission.state_quiet, forgotten]
    split
    · rename_i own
      simp only [docket, ← own, Docket.remove, eq_false_of_ne_true closed]
    · rfl

theorem docket_closeAll (taken : f.outlet = none) :
    f.closeAll.state.docket tableId = (f.docket tableId).close := by
  rw [closeAll, Emission.state_after, docket_forEach_own Docket.close (fun _ => rfl)
    steps_closeTable (fun closed _ taken => docket_closeTable taken closed) taken]
  split
  · rfl
  · rename_i closed
    rw [Std.TreeMap.mem_keys, Std.TreeMap.mem_iff_contains] at closed
    simp only [docket, Docket.close, eq_false_of_ne_true closed]

/-! ### Checks of health -/

theorem docket_sweep (taken : f.outlet = none) (time : Nat) :
    (f.sweep time).state.docket tableId = (f.docket tableId).sweep time := by
  unfold sweep
  rw [Emission.state_after, docket_forEach steps_forward
    (fun c _ taken => docket_deliver taken _ c.tableId) (by exact taken)]
  simp [docket, Docket.sweep, Monitor.channel?_sweep]

theorem mem_overdue_iff (time : Nat) :
    tableId ∈ f.overdue time ↔ (f.docket tableId).isOverdue time = true := by
  rw [overdue, Monitor.mem_overdue, Docket.isOverdue, Option.any_eq_true]
  rfl

theorem docket_check (taken : f.outlet = none) (time : Nat) :
    (f.check time).state.docket tableId =
      if ((f.docket tableId).sweep time).isOverdue time then
        ((f.docket tableId).sweep time).remove
      else (f.docket tableId).sweep time := by
  have swept := (steps_sweep time f taken).outlet taken
  rw [check, Emission.state_andThen, docket_forEach_own Docket.remove (fun _ => rfl) steps_remove
    (fun removed _ taken => docket_remove taken removed) swept, ← docket_sweep taken]
  simp only [mem_overdue_iff]

/-! ### Time -/

theorem docket_strike (taken : f.outlet = none) (timer : Timer) :
    (strike timer f).state.docket tableId = f.docket tableId := by
  unfold strike
  split
  · exact docket_deliver (f := { f with agenda := f.agenda.stop timer.key }) taken _ _
  · rfl

theorem docket_advance (taken : f.outlet = none) (ms : Nat) :
    (f.advance ms).state.docket tableId = f.docket tableId := by
  rw [advance, advanceTo_eq taken]
  exact docket_forEach steps_strike (fun timer _ taken => docket_strike taken timer) taken _

/-! ### Requests -/

/-- What a request does to the docket of a table before the timers run out that run out at once. -/
theorem docket_act (taken : f.outlet = none) (q : Request) :
    (f.act q).state.docket tableId = (f.docket tableId).step tableId f.now q := by
  cases q with
  | hand r => exact docket_receive taken .primary (.primary r) r.tableId
  | sighting r =>
    cases valid : r.validate with
    | ok =>
      simp only [act, attempt, admitSighting, valid, Docket.step, Except.isOk, Except.toBool,
        and_true]
      exact docket_receive taken .secondary (.secondary r) r.tableId
    | error => simp [act, attempt, admitSighting, valid, Docket.step, Except.isOk, Except.toBool]
  | hear heard source => exact docket_hear taken source heard
  | tellHealth told primary secondary => exact docket_deliver taken _ told
  | advance ms => exact docket_advance taken ms
  | check time => exact docket_check taken time
  | remove removed => exact docket_remove taken removed
  | closeAll => exact docket_closeAll taken

/-- **What a request does to the docket of a table depends on this docket and on the time only.** -/
theorem docket_perform (taken : f.outlet = none) (q : Request) :
    (f.perform q).state.docket tableId = (f.docket tableId).step tableId f.now q := by
  have acted : (f.act q).state.docket tableId = (f.docket tableId).step tableId f.now q :=
    docket_act taken q
  rcases perform_eq_or_refused q f with carried | ⟨quiet, refused⟩
  · rw [carried]
    exact (docket_advance ((steps_act q f taken).outlet taken) 0).trans acted
  · rw [refused, ← quiet, acted]

end Floor

/-! ### Runs -/

namespace Docket

variable {tableId : TableId} {now : Nat} {d : Docket}

/-- The settings stay. -/
theorem settings_step (tableId : TableId) (now : Nat) (d : Docket) (q : Floor.Request) :
    (d.step tableId now q).window = d.window ∧ (d.step tableId now q).grace = d.grace := by
  cases q with
  | hand | sighting | hear | check | remove =>
    rw [step]
    split <;> exact ⟨rfl, rfl⟩
  | tellHealth | advance | closeAll => exact ⟨rfl, rfl⟩

/-- An open table stays known to the monitor. -/
theorem tracked_step (tracked : d.isOpen = true → d.channel.isSome) (q : Floor.Request)
    (isOpen : (d.step tableId now q).isOpen = true) :
    (d.step tableId now q).channel.isSome := by
  cases q with
  | hand | sighting | hear =>
    rw [step] at isOpen ⊢
    split at isOpen
    · rw [if_pos ‹_›]
      rfl
    · rw [if_neg ‹_›]
      exact tracked isOpen
  | check time =>
    rw [step] at isOpen ⊢
    split at isOpen
    · cases isOpen
    · rw [if_neg ‹_›, sweep, Option.isSome_map]
      exact tracked isOpen
  | remove removed =>
    rw [step] at isOpen ⊢
    split at isOpen
    · cases isOpen
    · rw [if_neg ‹_›]
      exact tracked isOpen
  | closeAll => cases isOpen
  | tellHealth | advance => exact tracked isOpen

end Docket

namespace Floor

variable {start : Floor}

theorem docket_run_concat (taken : start.outlet = none) (tableId : TableId) (qs : List Request)
    (q : Request) : (run (qs ++ [q]) start).state.docket tableId =
      ((run qs start).state.docket tableId).step tableId (run qs start).state.now q := by
  rw [run_concat]
  exact docket_perform ((steps_run qs start taken).outlet taken) q

theorem settings_docket_run (taken : start.outlet = none) (tableId : TableId)
    (qs : List Request) :
    ((run qs start).state.docket tableId).window = (start.docket tableId).window ∧
      ((run qs start).state.docket tableId).grace = (start.docket tableId).grace := by
  induction qs using List.reverseRecOn with
  | nil => exact ⟨rfl, rfl⟩
  | append_singleton qs q ih =>
    obtain ⟨window, grace⟩ := Docket.settings_step tableId (run qs start).state.now
      ((run qs start).state.docket tableId) q
    rw [docket_run_concat taken, window, grace]
    exact ih

/-- **The monitor knows every table that is open**, whatever was asked. -/
theorem tracked_docket_run (taken : start.outlet = none) {tableId : TableId}
    (tracked : (start.docket tableId).isOpen = true → (start.docket tableId).channel.isSome)
    (qs : List Request) (isOpen : ((run qs start).state.docket tableId).isOpen = true) :
    ((run qs start).state.docket tableId).channel.isSome := by
  induction qs using List.reverseRecOn with
  | nil => exact tracked isOpen
  | append_singleton qs q ih =>
    rw [docket_run_concat taken] at isOpen ⊢
    exact Docket.tracked_step ih q isOpen

end Floor

end Showdown
