import Showdown.Proofs.Floor.Accounts

/-!
# The counters of all tables

When all tables are shut down, nobody says in which order. The order shows in the results that are
handed on, but not in the counters that are left (`closedTally_of_closesAll`). Whatever the order
was each time, the counters of all tables that are or ever were open count each result that was
handed on, and each once (`counted_of_runs`).
-/

namespace Showdown.Floor

open Effect

variable {f : Floor} {e : Emission Floor Effect} {q : Request} {qs : List Request}

/-! ### Tables that are shut down in any order -/

/-- All tables are shut down, one after another in some order. -/
def ClosesAll (f : Floor) (e : Emission Floor Effect) : Prop :=
  ∃ order : List TableId, order.Perm f.openTables ∧
    e = (Emission.forEach closeTable order f).after [noted (.closingFloor f.tables.size)]

theorem closesAll_closeAll (f : Floor) : ClosesAll f f.closeAll :=
  ⟨f.openTables, .refl _, rfl⟩

theorem ClosesAll.steps (c : ClosesAll f e) (taken : f.outlet = none) : Steps f e := by
  obtain ⟨order, -, rfl⟩ := c
  exact .after (aside_said taken rfl) (StepsOf.forEach steps_closeTable order f taken)

theorem ClosesAll.notOpen (c : ClosesAll f e) (tableId : TableId) :
    e.state.tables[tableId]? = none := by
  obtain ⟨order, perm, rfl⟩ := c
  refine Emission.forEach_achieves (P := fun id (f : Floor) => f.tables[id]? = none)
    notOpen_closeTable notOpen_closeTable_of_notOpen ?_
  rw [perm.mem_iff]
  exact mem_keys_or_getElem?_eq_none f.tables tableId

/-- The counters that a table leaves behind, none if it is not open. -/
def leftBehind (f : Floor) (tableId : TableId) : Tally :=
  (f.tallyAfterRemoval? tableId).getD .zero

theorem closedTally_closeTable (taken : f.outlet = none) (tableId : TableId) :
    (f.closeTable tableId).state.closedTally = f.closedTally.merge (f.leftBehind tableId) := by
  cases ht : f.tables[tableId]? with
  | none =>
    simp [closeTable_of_notOpen ht, leftBehind, tallyAfterRemoval?, ht, Tally.merge, Tally.zero]
  | some t => simp [closeTable_of_open taken ht, leftBehind, tallyAfterRemoval?, ht]

/-- Tables do not count each other's results. -/
theorem leftBehind_closeTable_of_ne {tableId other : TableId} (h : other ≠ tableId) (f : Floor) :
    (f.closeTable tableId).state.leftBehind other = f.leftBehind other := by
  rw [leftBehind, leftBehind, tallyAfterRemoval?, tallyAfterRemoval?, tables_closeTable]
  split
  · rw [getElem?_erase_of_ne _ h]
  · rfl

theorem closedTally_forEach_closeTable (taken : f.outlet = none) {order : List TableId}
    (nodup : order.Nodup) : (Emission.forEach closeTable order f).state.closedTally =
      order.foldl (fun s tableId => s.merge (f.leftBehind tableId)) f.closedTally := by
  induction order generalizing f with
  | nil => rfl
  | cons tableId order ih =>
    obtain ⟨fresh, nodup⟩ := List.nodup_cons.mp nodup
    have rest := ih ((steps_closeTable tableId f taken).outlet taken) nodup
    rw [Emission.forEach_cons, Emission.state_andThen, rest, List.foldl_cons,
      closedTally_closeTable taken]
    refine List.foldl_ext _ _ _ fun s other listed => ?_
    rw [leftBehind_closeTable_of_ne (ne_of_mem_of_not_mem listed fresh)]

theorem nodup_openTables (f : Floor) : f.openTables.Nodup :=
  Std.TreeMap.nodup_keys

/-- The counters that are left are those that each table leaves behind. -/
theorem ClosesAll.closedTally (c : ClosesAll f e) (taken : f.outlet = none) :
    e.state.closedTally =
      f.openTables.foldl (fun s tableId => s.merge (f.leftBehind tableId)) f.closedTally := by
  obtain ⟨order, perm, rfl⟩ := c
  have nodup := perm.nodup_iff.mpr (nodup_openTables f)
  rw [Emission.state_after, closedTally_forEach_closeTable taken nodup]
  refine perm.foldl_eq' (fun x _ y _ s => ?_) f.closedTally
  exact Tally.merge_right_comm s (f.leftBehind x) (f.leftBehind y)

/-- **The counters that are left do not depend on the order in which tables are shut down.** -/
theorem closedTally_of_closesAll (c : ClosesAll f e) (taken : f.outlet = none) :
    e.state.closedTally = f.closeAll.state.closedTally :=
  (c.closedTally taken).trans ((closesAll_closeAll f).closedTally taken).symm

/-! ### Runs -/

/-- A request is carried out. If all tables are to be shut down, then they are so in some order. -/
inductive Carries : Request → Floor → Emission Floor Effect → Prop where
  /-- The request is carried out as usual. -/
  | perform (q : Request) (f : Floor) : Carries q f (f.perform q)
  /-- All tables are shut down in some order. -/
  | closeAll {f : Floor} {e : Emission Floor Effect} : ClosesAll f e →
    Carries .closeAll f (e.andThen (advance 0))

/-- Requests are carried out one after another. -/
inductive Runs : List Request → Floor → Emission Floor Effect → Prop where
  /-- Nothing is asked. -/
  | nil (f : Floor) : Runs [] f (.quiet f)
  /-- A request is carried out, and then the others. -/
  | cons {q : Request} {qs : List Request} {f : Floor} {e e' : Emission Floor Effect} :
    Carries q f e → Runs qs e.state e' → Runs (q :: qs) f (e.andThen fun _ => e')

theorem runs_run (qs : List Request) (f : Floor) : Runs qs f (run qs f) := by
  induction qs generalizing f with
  | nil => exact .nil f
  | cons q qs ih => exact .cons (.perform q f) (ih _)

theorem Carries.steps (c : Carries q f e) (taken : f.outlet = none) : Steps f e := by
  cases c with
  | perform => exact steps_perform q f taken
  | closeAll c => exact (c.steps taken).andThen taken fun f taken => steps_advanceTo _ f taken

theorem Runs.steps (r : Runs qs f e) (taken : f.outlet = none) : Steps f e := by
  induction r with
  | nil f => exact .refl f
  | cons c _ ih =>
    have carried := c.steps taken
    exact Chain.andThen carried (ih (carried.outlet taken))

/-- **Every result is counted once**, by its table or among those of closed tables, whatever was
asked and in whichever orders the tables were shut down. If all tables are shut down, then the
counters that are left count every result up to that moment. -/
theorem counted_of_runs {s : Settings} {calendar : Nat → UtcTime}
    (ran : Runs qs (opened s calendar) e) :
    e.state.totalTally = (fusedOf e.out).foldl Tally.add .zero ∧
    ∀ e', ClosesAll e.state e' →
      e'.state.openTables = [] ∧
      e'.state.closedTally = e'.state.totalTally ∧
      e'.state.closedTally = (fusedOf (e.out ++ e'.out)).foldl Tally.add .zero := by
  have steps := ran.steps rfl
  have counted := (counted_opened s calendar).steps steps
  refine ⟨counted, fun e' closes => ?_⟩
  have total := totalTally_of_noneOpen closes.notOpen
  have closed := counted.steps (closes.steps (steps.outlet rfl))
  refine ⟨?_, total.symm, total.symm.trans closed⟩
  refine List.eq_nil_iff_forall_not_mem.mpr fun tableId listed => ?_
  have known : tableId ∈ e'.state.tables := Std.TreeMap.mem_keys.mp listed
  simp [Std.TreeMap.mem_iff_isSome_getElem?, closes.notOpen] at known

/-- A table is closed twice while a hand waits, and then hands wait at two tables. -/
def closedAndOpened : List Request :=
  removedTwice ++ [.hand reading, .hand { reading with tableId := "T2" }]

/-- The results of the two closings are counted, and if the two tables are shut down, the second one
first, then four results are. -/
theorem counted_of_closedAndOpened : ∃ e e',
    Runs closedAndOpened (opened (.usual 1000 2000) fun _ => .epoch) e ∧
    e' = (Emission.forEach closeTable ["T2", "T1"] e.state).after
      [noted (.closingFloor e.state.tables.size)] ∧
    e.state.totalTally = ⟨2, 0, 0, 0, 0, 2⟩ ∧ e'.state.closedTally = ⟨4, 0, 0, 0, 0, 4⟩ ∧
    e'.state.closedTally = (fusedOf (e.out ++ e'.out)).foldl Tally.add .zero := by
  have ran := runs_run closedAndOpened (opened (.usual 1000 2000) fun _ => .epoch)
  refine ⟨_, _, ran, rfl, by decide +kernel, by decide +kernel, ?_⟩
  refine ((counted_of_runs ran).2 _ ⟨["T2", "T1"], ?_, rfl⟩).2.2
  have tables : (run closedAndOpened (opened (.usual 1000 2000) fun _ => .epoch)).state.openTables =
      ["T1", "T2"] := by decide +kernel
  rw [tables]
  exact .swap ..

end Showdown.Floor
