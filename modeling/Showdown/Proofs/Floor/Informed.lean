import Showdown.Proofs.Floor.Clock
import Showdown.Proofs.Monitor
import Showdown.Proofs.Table.Invariant
import Showdown.Proofs.Table.Liveness

/-!
# What tables are told of their sources

Whether the sources of a table deliver is kept twice: the monitor holds it, and the table has been
told. A table is told of each change of its status while it is open. But it is opened as if both
sources delivered. If the monitor holds one of them silent at that time, and it is the other one
that delivers, then this is no change, and the table is not told.

This is all that can go wrong (`informed_of_run`): a table that does not take the same sources to
deliver as the monitor was opened in this way, and the status has been the same ever since. That it
does go wrong is shown by `unaware_of_run`; a hand then waits in vain until its timer runs out.
-/

namespace Showdown

namespace Floor

variable {tableId other : TableId} {f : Floor}

/-- The status of a table, as the monitor holds it. -/
def status? (f : Floor) (tableId : TableId) : Option Status :=
  (f.monitor.channel? tableId).map Channel.status

/-- The status of an open table, as the table was told. -/
def told? (f : Floor) (tableId : TableId) : Option Status :=
  f.tables[tableId]?.map Table.status

/-! ### Tables -/

theorem told?_deliver (taken : f.outlet = none) (m : Table.Message) (tableId : TableId) :
    (f.deliver m tableId).state.told? tableId = (f.told? tableId).map fun told => m.tell told := by
  cases ht : f.tables[tableId]? with
  | none => simp [deliver_of_notOpen ht, told?, ht]
  | some t => simp [deliver_of_open taken ht, told?, ht, Table.status_handle]

theorem told?_deliver_of_ne (taken : f.outlet = none) (m : Table.Message)
    (h : other ≠ tableId) : (f.deliver m tableId).state.told? other = f.told? other := by
  cases ht : f.tables[tableId]? with
  | none =>
    rw [deliver_of_notOpen ht]
    rfl
  | some t =>
    rw [deliver_of_open taken ht, told?, told?]
    exact congrArg _ (getElem?_insert_of_ne _ h _)

theorem monitor_deliver (f : Floor) (m : Table.Message) (tableId : TableId) :
    (f.deliver m tableId).state.monitor = f.monitor := by
  unfold deliver
  split <;> rfl

theorem told?_openTable (f : Floor) (tableId : TableId) :
    (f.openTable tableId).state.told? tableId = some ((f.told? tableId).getD .healthy) := by
  cases ht : f.tables[tableId]? with
  | none => simp [openTable_of_notOpen ht, told?, ht, Table.status, Table.opened, Status.ofLiveness]
  | some t =>
    have isOpen : (f.tables[tableId]?).isSome := by rw [ht]; rfl
    simp [openTable_of_open isOpen, told?, ht]

theorem told?_openTable_of_ne (f : Floor) (h : other ≠ tableId) :
    (f.openTable tableId).state.told? other = f.told? other := by
  cases ht : f.tables[tableId]? with
  | none =>
    rw [openTable_of_notOpen ht, told?, told?]
    exact congrArg _ (getElem?_insert_of_ne _ h _)
  | some t => rw [openTable_of_open (by rw [ht]; rfl), Emission.state_quiet]

theorem monitor_openTable (f : Floor) (tableId : TableId) :
    (f.openTable tableId).state.monitor = f.monitor := by
  unfold openTable
  split <;> rfl

theorem told?_closeTable (taken : f.outlet = none) (tableId : TableId) :
    (f.closeTable tableId).state.told? tableId = none := by
  cases ht : f.tables[tableId]? with
  | none => simp [closeTable_of_notOpen ht, told?, ht]
  | some t => simp [closeTable_of_open taken ht, told?]

theorem told?_closeTable_of_ne (taken : f.outlet = none) (h : other ≠ tableId) :
    (f.closeTable tableId).state.told? other = f.told? other := by
  cases ht : f.tables[tableId]? with
  | none =>
    rw [closeTable_of_notOpen ht]
    rfl
  | some t =>
    rw [closeTable_of_open taken ht, told?, told?]
    exact congrArg _ (getElem?_erase_of_ne _ h)

theorem monitor_closeTable (taken : f.outlet = none) (tableId : TableId) :
    (f.closeTable tableId).state.monitor = f.monitor := by
  cases ht : f.tables[tableId]? with
  | none =>
    rw [closeTable_of_notOpen ht]
    rfl
  | some t => rw [closeTable_of_open taken ht]

/-! ### What is known to a table -/

/-- An open table was told what the monitor holds, or nothing at all: then it takes both sources to
deliver, and the monitor holds one of them silent for a reason of which the table is unaware. -/
def Informed (tableId : TableId) (unaware : Source → Prop) (f : Floor) : Prop :=
  ∀ told, f.told? tableId = some told → f.status? tableId = some told ∨
    told = .healthy ∧ ∃ silent, f.status? tableId = some (.degraded silent) ∧ unaware silent

variable {unaware : Source → Prop}

/-- Nothing changes for a table. -/
theorem Informed.congr {f' : Floor} (i : Informed tableId unaware f)
    (told : f'.told? tableId = f.told? tableId) (status : f'.status? tableId = f.status? tableId) :
    Informed tableId unaware f' := by
  rw [Informed, told, status]
  exact i

theorem informed_of_notOpen (told : f.told? tableId = none) : Informed tableId unaware f := by
  intro _ h
  rw [told] at h
  cases h

/-- A message by which a table is told nothing. -/
theorem Informed.deliver (i : Informed tableId unaware f) (taken : f.outlet = none)
    {m : Table.Message} (untold : ∀ told, m.tell told = told) (recipient : TableId) :
    Informed tableId unaware (f.deliver m recipient).state := by
  refine i.congr ?_ (by rw [status?, monitor_deliver, status?])
  by_cases own : recipient = tableId
  · rw [← own, told?_deliver taken, funext untold]
    exact Option.map_id' ..
  · exact told?_deliver_of_ne taken m (Ne.symm own)

/-! ### Arrivals -/

/-- What the monitor knows of a table after a source has delivered. -/
def heardFrom (source : Source) (tableId : TableId) (f : Floor) : Channel :=
  ((f.monitor.channel? tableId).getD (.firstHeard f.now)).observe source f.now

theorem status?_arrive (source : Source) (tableId : TableId) (f : Floor) :
    (f.arrive source tableId).state.status? tableId = some (f.heardFrom source tableId).status := by
  have heard : (f.monitor.observe tableId source f.now).1.channel? tableId =
      some (f.heardFrom source tableId) := Monitor.channel?_observe ..
  unfold arrive
  simp only
  split
  · simp [status?, heard]
  · simp [status?, monitor_deliver, heard]

/-- A table is told of a change. -/
theorem told?_arrive (taken : f.outlet = none) (source : Source) (tableId : TableId) :
    (f.arrive source tableId).state.told? tableId = (f.told? tableId).map fun told =>
      if ((f.monitor.channel? tableId).getD (.firstHeard f.now)).status =
        (f.heardFrom source tableId).status then told
      else (f.heardFrom source tableId).status := by
  unfold arrive
  simp only
  have changed := Monitor.change_observe f.monitor tableId source f.now
  split
  · rename_i none
    rw [none] at changed
    simp [Channel.change?_eq_none changed.symm, heardFrom, told?, Function.comp_def]
  · rename_i c some
    rw [some] at changed
    have differs := Channel.status_ne_of_change changed.symm
    rw [Emission.state_after, told?_deliver (by exact taken)]
    simp [told?, Table.Message.tell, Channel.status_of_change changed.symm, heardFrom, differs]

theorem status?_arrive_of_ne (h : other ≠ tableId) (source : Source) (f : Floor) :
    (f.arrive source tableId).state.status? other = f.status? other := by
  have unheard := Monitor.channel?_observe_of_ne f.monitor h source f.now
  unfold arrive
  simp only
  split
  · rw [status?, status?, Emission.state_quiet, unheard]
  · rw [status?, status?, Emission.state_after, monitor_deliver, unheard]

theorem told?_arrive_of_ne (taken : f.outlet = none) (h : other ≠ tableId) (source : Source) :
    (f.arrive source tableId).state.told? other = f.told? other := by
  unfold arrive
  simp only
  split
  · rfl
  · exact told?_deliver_of_ne (by exact taken) _ h

/-- A source of a table delivers, and the table was informed before. -/
theorem Informed.arrive_own (i : Informed tableId unaware f) (taken : f.outlet = none)
    (source : Source) : Informed tableId unaware (f.arrive source tableId).state := by
  intro told h
  rw [told?_arrive taken] at h
  obtain ⟨before, htold, rfl⟩ := Option.map_eq_some_iff.mp h
  have known : ∃ c, f.monitor.channel? tableId = some c := by
    rcases i before htold with held | ⟨-, silent, held, -⟩
    · exact (Option.map_eq_some_iff.mp held).imp fun _ h => h.1
    · exact (Option.map_eq_some_iff.mp held).imp fun _ h => h.1
  obtain ⟨c, hc⟩ := known
  have held : f.status? tableId = some c.status := by rw [status?, hc]; rfl
  rw [status?_arrive, hc, Option.getD_some]
  split
  · rename_i same
    rw [← same, ← held]
    exact i before htold
  · exact .inl rfl

/-- A source of a table delivers that has just been opened. -/
theorem informed_arrive_of_opened (taken : f.outlet = none)
    (opened : f.told? tableId = some .healthy)
    {source : Source}
    (held : f.status? tableId = some (.degraded source.other) → unaware source.other) :
    Informed tableId unaware (f.arrive source tableId).state := by
  intro told h
  rw [told?_arrive taken, opened] at h
  obtain rfl := Option.some.inj h
  rw [status?_arrive]
  split
  · rename_i same
    rcases Channel.status_observe ((f.monitor.channel? tableId).getD (.firstHeard f.now)) source
      f.now with healthy | degraded
    · exact .inl (congrArg some healthy)
    · -- the monitor has heard of the table before, since a new one counts as healthy
      have degraded' := same.trans degraded
      cases hc : f.monitor.channel? tableId with
      | none =>
        rw [hc] at degraded'
        cases degraded'
      | some c =>
        rw [hc, Option.getD_some] at degraded'
        refine .inr ⟨rfl, source.other, congrArg some degraded, held ?_⟩
        rw [status?, hc]
        exact congrArg some degraded'
  · exact .inl rfl

/-- An observation arrives. -/
theorem Informed.receive (i : Informed tableId unaware f) (taken : f.outlet = none)
    {recipient : TableId} {source : Source} {m : Table.Message}
    (untold : ∀ told, m.tell told = told)
    (held : recipient = tableId → f.told? tableId = none →
      f.status? tableId = some (.degraded source.other) → unaware source.other) :
    Informed tableId unaware (((f.openTable recipient).andThen
      (Floor.arrive source recipient)).andThen (Floor.deliver m recipient)).state := by
  have opened := (steps_openTable recipient f taken).outlet taken
  have arrived := (steps_arrive source recipient _ opened).outlet opened
  refine Informed.deliver ?_ arrived untold recipient
  have status : (f.openTable recipient).state.status? = f.status? := by
    funext tableId
    rw [status?, monitor_openTable, status?]
  by_cases own : recipient = tableId
  · subst own
    cases h : f.told? recipient with
    | none =>
      refine informed_arrive_of_opened opened (by rw [told?_openTable, h]; rfl) fun silent => ?_
      rw [status] at silent
      exact held rfl h silent
    | some told =>
      refine Informed.arrive_own (i.congr ?_ ?_) opened source
      · rw [told?_openTable, h]; rfl
      · rw [status]
  · refine i.congr ?_ ?_
    · rw [told?_arrive_of_ne opened (Ne.symm own), told?_openTable_of_ne f (Ne.symm own)]
    · rw [status?_arrive_of_ne (Ne.symm own), status]

/-- A source of a table delivers something without an observation. -/
theorem Informed.hear (i : Informed tableId unaware f) (taken : f.outlet = none) (source : Source)
    (heard : TableId) : Informed tableId unaware (f.hear source heard).state := by
  have told (f : Floor) (taken : f.outlet = none) (i : Informed tableId unaware f) :
      Informed tableId unaware (f.arrive source heard).state := by
    by_cases own : heard = tableId
    · subst own
      exact i.arrive_own taken source
    · exact i.congr (told?_arrive_of_ne taken (Ne.symm own) source)
        (status?_arrive_of_ne (Ne.symm own) source f)
  unfold Floor.hear
  split
  · exact told f taken i
  · rename_i closed
    by_cases own : heard = tableId
    · refine informed_of_notOpen ?_
      rw [contains_iff_isSome, own] at closed
      simpa [told?] using closed
    · refine i.congr rfl ?_
      rw [status?, Emission.state_quiet, Monitor.channel?_observe_of_ne _ (Ne.symm own), status?]

/-! ### Checks of health -/

theorem told?_forward (taken : f.outlet = none) (c : StatusChange) (tableId : TableId) :
    (f.forward c).state.told? tableId =
      if c.tableId == tableId then
        (f.told? tableId).map fun _ => .ofLiveness c.primary c.secondary
      else f.told? tableId := by
  by_cases own : c.tableId = tableId
  · rw [if_pos (by simpa using own), forward, own, told?_deliver taken]
    rfl
  · rw [if_neg (by simpa using own)]
    exact told?_deliver_of_ne taken _ (Ne.symm own)

/-- Of some changes a table is told those of its own. -/
theorem told?_forEach_forward (taken : f.outlet = none) (changes : List StatusChange)
    (tableId : TableId) : (Emission.forEach forward changes f).state.told? tableId =
      (changes.filter fun c => c.tableId == tableId).foldl
        (fun told c => told.map fun _ => .ofLiveness c.primary c.secondary) (f.told? tableId) := by
  induction changes generalizing f with
  | nil => rfl
  | cons c changes ih =>
    have next := ih ((steps_forward c f taken).outlet taken)
    rw [Emission.forEach_cons, Emission.state_andThen, next, told?_forward taken, List.filter_cons]
    split <;> rfl

theorem monitor_forEach_forward (changes : List StatusChange) (f : Floor) :
    (Emission.forEach forward changes f).state.monitor = f.monitor := by
  induction changes generalizing f with
  | nil => rfl
  | cons c changes ih => exact (ih _).trans (monitor_deliver f _ c.tableId)

theorem channel?_sweep (f : Floor) (time : Nat) (tableId : TableId) :
    (f.sweep time).state.monitor.channel? tableId =
      (f.monitor.channel? tableId).map fun c => c.reassess f.monitor.window time := by
  unfold Floor.sweep
  rw [Emission.state_after, monitor_forEach_forward, Monitor.channel?_sweep]

theorem status?_sweep (f : Floor) (time : Nat) (tableId : TableId) :
    (f.sweep time).state.status? tableId =
      (f.monitor.channel? tableId).map fun c => (c.reassess f.monitor.window time).status := by
  rw [status?, channel?_sweep, Option.map_map]
  rfl

/-- A table is told of the change that a sweep finds of it. -/
theorem told?_sweep (taken : f.outlet = none) (time : Nat) (tableId : TableId) :
    (f.sweep time).state.told? tableId = (f.monitor.found? time tableId).toList.foldl
      (fun told c => told.map fun _ => .ofLiveness c.primary c.secondary) (f.told? tableId) := by
  unfold Floor.sweep
  rw [Emission.state_after, told?_forEach_forward (by exact taken), Monitor.filter_sweep]
  rfl

/-- The monitor finds out again which sources deliver. -/
theorem Informed.sweep (i : Informed tableId unaware f) (taken : f.outlet = none) (time : Nat) :
    Informed tableId unaware (f.sweep time).state := by
  have status := status?_sweep f time tableId
  have told := told?_sweep taken time tableId
  cases hc : f.monitor.channel? tableId with
  | none =>
    refine i.congr ?_ ?_
    · rw [told, Monitor.found?, hc]
      rfl
    · rw [status, status?, hc]
      rfl
  | some c =>
    cases found : Channel.change? tableId c (c.reassess f.monitor.window time) with
    | none =>
      refine i.congr ?_ ?_
      · rw [told, Monitor.found?, hc, Option.bind_some, found]
        rfl
      · rw [status, status?, hc, Option.map_some, Option.map_some, Channel.change?_eq_none found]
    | some change =>
      intro now h
      rw [told, Monitor.found?, hc, Option.bind_some, found] at h
      obtain ⟨before, -, rfl⟩ := Option.map_eq_some_iff.mp h
      rw [status, hc, Option.map_some, Channel.status_of_change found]
      exact .inl rfl

/-- A table is removed, whichever it is. -/
theorem Informed.remove (i : Informed tableId unaware f) (taken : f.outlet = none)
    (removed : TableId) : Informed tableId unaware (f.remove removed).state := by
  by_cases own : removed = tableId
  · refine informed_of_notOpen ?_
    subst own
    unfold Floor.remove
    simp only
    split
    · exact told?_closeTable (by exact taken) removed
    · rename_i closed
      rw [contains_iff_isSome] at closed
      simpa [told?] using closed
  · have forgotten := Monitor.channel?_forget_of_ne f.monitor (Ne.symm own)
    refine i.congr ?_ ?_
    all_goals unfold Floor.remove; simp only; split
    · exact told?_closeTable_of_ne (by exact taken) (Ne.symm own)
    · rfl
    · rw [Emission.state_after, status?, monitor_closeTable (by exact taken), forgotten, status?]
    · rw [Emission.state_quiet, status?, forgotten, status?]

/-- What every step keeps, steps for some items keep. -/
theorem Informed.forEach {α : Type} {g : α → Floor → Emission Floor Effect}
    (steps : ∀ a (f : Floor), f.outlet = none → Steps f (g a f))
    (keeps : ∀ a (f : Floor), f.outlet = none → Informed tableId unaware f →
      Informed tableId unaware (g a f).state) (i : Informed tableId unaware f)
    (taken : f.outlet = none) (as : List α) :
    Informed tableId unaware (Emission.forEach g as f).state := by
  induction as generalizing f with
  | nil => exact i
  | cons a as ih => exact ih (keeps a f taken i) ((steps a f taken).outlet taken)

theorem Informed.check (i : Informed tableId unaware f) (taken : f.outlet = none) (time : Nat) :
    Informed tableId unaware (f.check time).state :=
  Informed.forEach steps_remove (fun removed _ taken i => i.remove taken removed)
    (i.sweep taken time) ((steps_sweep time f taken).outlet taken) _

theorem Informed.closeAll (i : Informed tableId unaware f) (taken : f.outlet = none) :
    Informed tableId unaware f.closeAll.state := by
  refine Informed.forEach steps_closeTable (fun closed f taken i => ?_) i taken _
  by_cases own : closed = tableId
  · exact informed_of_notOpen (own ▸ told?_closeTable taken closed)
  · refine i.congr (told?_closeTable_of_ne taken (Ne.symm own)) ?_
    rw [status?, monitor_closeTable taken, status?]

/-! ### Time -/

theorem Informed.strike (i : Informed tableId unaware f) (taken : f.outlet = none) (timer : Timer) :
    Informed tableId unaware (Floor.strike timer f).state := by
  unfold Floor.strike
  split
  · have stopped : Informed tableId unaware { f with agenda := f.agenda.stop timer.key } :=
      i.congr rfl rfl
    exact stopped.deliver taken (fun _ => rfl) _
  · exact i

theorem Informed.advance (i : Informed tableId unaware f) (taken : f.outlet = none) (ms : Nat) :
    Informed tableId unaware (f.advance ms).state := by
  have struck (timers : List Timer) (f : Floor) (taken : f.outlet = none)
      (i : Informed tableId unaware f) :
      Informed tableId unaware (Emission.forEach Floor.strike timers f).state := by
    induction timers generalizing f with
    | nil => exact i
    | cons timer timers ih => exact ih _ (outlet_strike taken timer) (i.strike taken timer)
  rw [Floor.advance, advanceTo_eq taken]
  exact (struck _ f taken i).congr rfl rfl

/-! ### Requests -/

/-- The table and the source of an observation that arrives. -/
def Request.submission? : Request → Option (TableId × Source)
  | hand r => some (r.tableId, .primary)
  | sighting r => some (r.tableId, .secondary)
  | _ => none

/-- Somebody tells a table of its sources, whatever the monitor says. -/
def Request.tells : Request → Bool
  | tellHealth .. => true
  | _ => false

/-- An observation arrives that opens a table, while the monitor holds the other source silent. -/
structure OpensUnaware (tableId : TableId) (silent : Source) (q : Request) (f : Floor) : Prop where
  /-- It is an observation of the other source. -/
  submission : q.submission? = some (tableId, silent.other)
  /-- The table is not open. -/
  notOpen : f.tables[tableId]? = none
  /-- The monitor holds just this source silent. -/
  held : f.status? tableId = some (.degraded silent)

/-- Whatever is asked, a table stays informed, or it is opened by the request without being told of
the source that is silent. -/
theorem Informed.perform (i : Informed tableId unaware f) (taken : f.outlet = none) {q : Request}
    (untold : q.tells = false) :
    Informed tableId (fun silent => unaware silent ∨ OpensUnaware tableId silent q f)
      (f.perform q).state := by
  have known :
      Informed tableId (fun silent => unaware silent ∨ OpensUnaware tableId silent q f) f := by
    intro told h
    rcases i told h with held | ⟨healthy, silent, held, u⟩
    · exact .inl held
    · exact .inr ⟨healthy, silent, held, .inl u⟩
  have opens {recipient : TableId} {source : Source}
      (submission : q.submission? = some (recipient, source)) (own : recipient = tableId)
      (closed : f.told? tableId = none)
      (held : f.status? tableId = some (.degraded source.other)) :
      unaware source.other ∨ OpensUnaware tableId source.other q f := by
    subst own
    refine .inr ⟨?_, Option.map_eq_none_iff.mp closed, held⟩
    rw [submission]
    cases source <;> rfl
  unfold Floor.perform
  cases h : f.attempt q with
  | error refusal => exact known
  | ok e =>
    have steps := steps_attempt taken h
    refine Informed.advance ?_ (steps.outlet taken) 0
    cases q <;> simp only [attempt, Except.ok.injEq] at h
    case hand r =>
      subst h
      exact known.receive taken (fun _ => rfl) (opens rfl)
    case sighting r =>
      unfold admitSighting at h
      split at h
      · obtain rfl := Except.ok.inj h
        exact known.receive taken (fun _ => rfl) (opens rfl)
      · cases h
    case hear heard source => exact h ▸ known.hear taken source heard
    case tellHealth => cases untold
    case advance ms => exact h ▸ known.advance taken ms
    case check time => exact h ▸ known.check taken time
    case remove removed => exact h ▸ known.remove taken removed
    case closeAll => exact h ▸ known.closeAll taken

/-! ### Runs -/

/-- A table was opened without being told that a source is silent, and the monitor has held just
this source silent ever since. -/
def UnawareSince (start : Floor) (qs : List Request) (tableId : TableId) (silent : Source) : Prop :=
  ∃ before q after, qs = before ++ q :: after ∧
    OpensUnaware tableId silent q (run before start).state ∧
    ∀ mid rest, after = mid ++ rest →
      (run (before ++ q :: mid) start).state.status? tableId = some (.degraded silent)

theorem UnawareSince.concat {start : Floor} {qs : List Request} {silent : Source}
    (u : UnawareSince start qs tableId silent) {q : Request}
    (held : (run (qs ++ [q]) start).state.status? tableId = some (.degraded silent)) :
    UnawareSince start (qs ++ [q]) tableId silent := by
  obtain ⟨before, opening, after, rfl, opens, since⟩ := u
  refine ⟨before, opening, after ++ [q], by simp, opens, fun mid rest cut => ?_⟩
  rcases List.eq_nil_or_concat rest with rfl | ⟨rest, last, rfl⟩
  · rw [List.append_nil] at cut
    rw [← cut]
    simpa using held
  · rw [List.concat_eq_append, ← List.append_assoc] at cut
    exact since mid rest (List.append_inj_left' cut rfl)

theorem unawareSince_of_opens {start : Floor} {qs : List Request} {silent : Source} {q : Request}
    (opens : OpensUnaware tableId silent q (run qs start).state)
    (held : (run (qs ++ [q]) start).state.status? tableId = some (.degraded silent)) :
    UnawareSince start (qs ++ [q]) tableId silent := by
  refine ⟨qs, q, [], rfl, opens, fun mid rest cut => ?_⟩
  obtain ⟨rfl, -⟩ := List.append_eq_nil_iff.mp cut.symm
  exact held

theorem informed_run {start : Floor} (taken : start.outlet = none)
    (i : Informed tableId (fun _ => False) start) (qs : List Request)
    (untold : ∀ q ∈ qs, q.tells = false) :
    Informed tableId (UnawareSince start qs tableId) (run qs start).state := by
  induction qs using List.reverseRecOn with
  | nil =>
    intro told h
    rcases i told h with held | ⟨-, _, -, no⟩
    · exact .inl held
    · exact no.elim
  | append_singleton qs q ih =>
    obtain ⟨before, last⟩ := List.forall_mem_append.mp untold
    have taken' : (run qs start).state.outlet = none := (steps_run qs start taken).outlet taken
    have next := (ih before).perform taken' (last q List.mem_cons_self)
    intro told h
    rw [run_concat] at h ⊢
    rcases next told h with held | ⟨healthy, silent, held, u⟩
    · exact .inl held
    · refine .inr ⟨healthy, silent, held, ?_⟩
      rw [← run_concat] at held
      rcases u with u | opens
      · exact u.concat held
      · exact unawareSince_of_opens opens held

/-- The invariant of tables holds of every open table. -/
def TablesSound (f : Floor) : Prop :=
  ∀ (tableId : TableId) (t : Table), f.tables[tableId]? = some t → ∃ out, t.Invariant out

theorem TablesSound.steps {e : Emission Floor Effect} (h : TablesSound f) (s : Steps f e) :
    TablesSound e.state := by
  refine Chain.preserves (fun {f e} step h tableId t ht => ?_) s h
  cases step with
  | aside a => exact h tableId t (a.tables ▸ ht)
  | send _ sends =>
    rw [sends.tables, getElem?_insert_eq_some_iff] at ht
    rcases ht with ⟨rfl, rfl⟩ | ⟨-, ht⟩
    · obtain ⟨out, i⟩ := h _ _ sends.isOpen
      exact ⟨_, i.handle _⟩
    · exact h tableId t ht
  | opening o =>
    rw [o.tables, getElem?_insert_eq_some_iff] at ht
    rcases ht with ⟨rfl, rfl⟩ | ⟨-, ht⟩
    · exact ⟨[], Table.invariant_opened _ _⟩
    · exact h tableId t ht
  | closing c =>
    rw [c.tables, getElem?_erase_eq_some_iff] at ht
    exact h tableId t ht.2

theorem tablesSound_opened (s : Settings) (calendar : Nat → UtcTime) :
    TablesSound (opened s calendar) := by
  intro tableId t ht
  simp [opened] at ht

/-- **A table takes the same sources to deliver as the monitor**, so that no hand waits for one that
the monitor holds silent. Or else it takes both to deliver: then it was opened by one source while
the monitor held the other one silent, as it still does. -/
theorem informed_of_run (s : Settings) (calendar : Nat → UtcTime) {qs : List Request}
    (untold : ∀ q ∈ qs, q.tells = false) {tableId : TableId} {t : Table}
    (isOpen : (run qs (opened s calendar)).state.tables[tableId]? = some t) :
    ∃ c, (run qs (opened s calendar)).state.monitor.channel? tableId = some c ∧
      ((t.primary = c.primary.liveness ∧ t.secondary = c.secondary.liveness ∧
          ∀ (hand : HandNumber) (p : Table.Pending), t.pending[hand]? = some p →
            ∃ source, p.awaited = some source ∧ c.liveness source = .fresh) ∨
        (t.primary = .fresh ∧ t.secondary = .fresh ∧ ∃ silent, c.status = .degraded silent ∧
          UnawareSince (opened s calendar) qs tableId silent)) := by
  have start : Informed tableId (fun _ => False) (opened s calendar) :=
    informed_of_notOpen (by simp [told?, opened])
  have told : (run qs (opened s calendar)).state.told? tableId = some t.status := by
    rw [told?, isOpen]
    rfl
  have informed := informed_run rfl start qs untold t.status told
  rcases informed with held | ⟨healthy, silent, held, unaware⟩
  · obtain ⟨c, hc, same⟩ := Option.map_eq_some_iff.mp held
    obtain ⟨primary, secondary⟩ := Status.ofLiveness_inj same
    have liveness : t.liveness = c.liveness := by
      funext source
      cases source
      · exact primary.symm
      · exact secondary.symm
    have sound := (tablesSound_opened s calendar).steps (steps_run qs _ rfl)
    obtain ⟨out, invariant⟩ := sound tableId t isOpen
    refine ⟨c, hc, .inl ⟨primary.symm, secondary.symm, fun hand p hp => ?_⟩⟩
    rw [← liveness]
    exact (invariant.waits hand p hp).awaited
  · obtain ⟨c, hc, degraded⟩ := Option.map_eq_some_iff.mp held
    have both : Status.ofLiveness t.primary t.secondary = .ofLiveness .fresh .fresh := healthy
    obtain ⟨primary, secondary⟩ := Status.ofLiveness_inj both
    exact ⟨c, hc, .inr ⟨primary, secondary, silent, degraded, unaware⟩⟩

/-! ### A table that is not told -/

/-- An observation of the video. -/
def sighted : Sighting :=
  { tableId := "T1", handNumber := 7, category := none, confidence := 0.5, observedAt := .epoch }

/-- Both sources of a table that is not open are silent for too long, then the video delivers again,
and at last with an observation. -/
def videoBack : List Request :=
  [.hear "T1" .primary, .advance 2000, .check 2000, .hear "T1" .secondary, .sighting sighted]

/-- The floor after that. -/
def floorWithVideoBack : Floor :=
  (run videoBack (opened (.usual 1000 2000) fun _ => .epoch)).state

/-- The table takes both sources to deliver, and the monitor does not. -/
theorem status_floorWithVideoBack : ∃ t c, floorWithVideoBack.tables["T1"]? = some t ∧
    floorWithVideoBack.monitor.channel? "T1" = some c ∧ t.status = .healthy ∧
    c.status = .degraded .primary := by
  have told : floorWithVideoBack.told? "T1" = some .healthy := by decide +kernel
  have held : floorWithVideoBack.status? "T1" = some (.degraded .primary) := by decide +kernel
  obtain ⟨t, isOpen, healthy⟩ := Option.map_eq_some_iff.mp told
  obtain ⟨c, hc, degraded⟩ := Option.map_eq_some_iff.mp held
  exact ⟨t, c, isOpen, hc, healthy, degraded⟩

theorem tells_of_mem_videoBack : ∀ q ∈ videoBack, q.tells = false := by decide

/-- The table is opened by the video while the monitor holds the card readings silent. -/
theorem informed_of_videoBack : ∃ t c,
    (∀ q ∈ videoBack, q.tells = false) ∧ floorWithVideoBack.tables["T1"]? = some t ∧
    floorWithVideoBack.monitor.channel? "T1" = some c ∧
    t.primary = .fresh ∧ t.secondary = .fresh ∧ ∃ silent, c.status = .degraded silent ∧
      UnawareSince (opened (.usual 1000 2000) fun _ => .epoch) videoBack "T1" silent := by
  obtain ⟨t, c, isOpen, hc, healthy, degraded⟩ := status_floorWithVideoBack
  obtain ⟨c', hc', informed⟩ := informed_of_run _ _ tells_of_mem_videoBack isOpen
  obtain rfl : c = c' := Option.some.inj (hc.symm.trans hc')
  rcases informed with ⟨primary, secondary, -⟩ | unaware
  · rw [Table.status, primary, secondary] at healthy
    exact absurd (degraded.symm.trans healthy) (by decide)
  · exact ⟨t, c, tells_of_mem_videoBack, isOpen, hc, unaware⟩

/-- **A table may take a source to deliver that the monitor holds silent**, and then a hand waits
for this source until its timer runs out. -/
theorem unaware_of_run :
    ¬ (∀ (s : Settings) (calendar : Nat → UtcTime) (qs : List Request),
      (∀ q ∈ qs, q.tells = false) → ∀ (tableId : TableId) (t : Table),
        (run qs (opened s calendar)).state.tables[tableId]? = some t →
          ∃ c, (run qs (opened s calendar)).state.monitor.channel? tableId = some c ∧
            t.primary = c.primary.liveness ∧ t.secondary = c.secondary.liveness) ∧
    floorWithVideoBack.status? "T1" = some (.degraded .primary) ∧
    (Effect.fusedOf (floorWithVideoBack.perform (.advance 999)).out).isEmpty ∧
    (Effect.fusedOf (floorWithVideoBack.perform (.advance 1000)).out).map FusedHand.resolution =
      [.windowExpired] := by
  obtain ⟨t, c, isOpen, hc, healthy, degraded⟩ := status_floorWithVideoBack
  refine ⟨fun h => ?_, ?_, by decide +kernel, by decide +kernel⟩
  · obtain ⟨c', hc', primary, secondary⟩ := h _ _ videoBack tells_of_mem_videoBack "T1" t isOpen
    obtain rfl : c = c' := Option.some.inj (hc.symm.trans hc')
    rw [Table.status, primary, secondary] at healthy
    exact absurd (degraded.symm.trans healthy) (by decide)
  · rw [status?, hc, Option.map_some, degraded]

end Floor

end Showdown
