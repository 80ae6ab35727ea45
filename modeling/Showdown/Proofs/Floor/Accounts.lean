import Showdown.Proofs.Floor.Lifetimes
import Showdown.Proofs.Table.Accounts

/-!
# No hand of the floor is lost

A hand that was observed waits at its table or has a result (`Accounts`), and every result is
counted (`Counted`). When all tables have been shut down, then all observed hands have results, and
the counters that are left count exactly these.
-/

namespace Showdown

open Effect

/-- Results are results for the hands of their table. -/
theorem Table.exists_fused_of_mem_resolved {m : Message} {t : Table} {hand : HandNumber}
    (h : hand ∈ resolved (t.handle m).out) :
    ∃ r ∈ fusedOf ((t.handle m).out.filterMap Output.effect?), r.id = t.handId hand := by
  obtain ⟨r, hr, rfl⟩ := List.mem_map.mp h
  rw [fusedOf_effects]
  exact ⟨r, hr, congrArg (HandId.mk · _) (tableId_of_mem_results m t r hr)⟩

theorem Effect.exists_fused_of_mem_handsSinceOpening {tableId : TableId} {out : List Effect}
    {hand : HandNumber} (h : hand ∈ handsSinceOpening tableId out) :
    ∃ r ∈ fusedOf out, r.id = ⟨tableId, hand⟩ := by
  obtain ⟨r, hr, rfl⟩ := List.mem_map.mp h
  rw [List.mem_filter, decide_eq_true_eq] at hr
  have since := (List.rtakeWhile_suffix (fun e => !e.opens tableId) out).sublist.filterMap fused?
  exact ⟨r, since.mem hr.1, congrArg (HandId.mk · _) hr.2⟩

namespace Floor

/-- A hand waits at its table, or has a result among some effects. -/
def Accounts (f : Floor) (out : List Effect) (hand : HandId) : Prop :=
  (∃ t, f.tables[hand.tableId]? = some t ∧ t.pending[hand.handNumber]?.isSome) ∨
    ∃ r ∈ fusedOf out, r.id = hand

/-! ### Waiting hands -/

theorem accounts_of_result {f : Floor} {out : List Effect} {hand : HandId}
    (h : ∃ r ∈ fusedOf out, r.id = hand) (more : List Effect) : Accounts f (out ++ more) hand := by
  obtain ⟨r, hr, id⟩ := h
  exact .inr ⟨r, by simp [hr], id⟩

/-- What waited at a table waits or has a result after a message. -/
theorem accounts_of_table {f : Floor} {out : List Effect} {tableId : TableId} {t : Table}
    (own : t.tableId = tableId) {m : Table.Message}
    (ht : f.tables[tableId]? = some (t.handle m).state) {hand : HandNumber}
    (h : (t.handle m).state.Accounts (t.handle m).out hand) :
    Accounts f (out ++ (t.handle m).out.filterMap Table.Output.effect?) ⟨tableId, hand⟩ := by
  rcases h with waits | resolved
  · exact .inl ⟨_, ht, waits⟩
  · obtain ⟨r, hr, id⟩ := Table.exists_fused_of_mem_resolved resolved
    exact .inr ⟨r, by simp [hr], id.trans (congrArg (HandId.mk · hand) own)⟩

/-- A waiting hand waits until it has a result. -/
theorem Accounts.step {f : Floor} {out : List Effect} {e : Emission Floor Effect} {hand : HandId}
    (l : Lifetimes f out) (s : Step f e) (a : Accounts f out hand) :
    Accounts e.state (out ++ e.out) hand := by
  rcases a with ⟨t, ht, waits⟩ | result
  · cases s with
    | aside h => exact .inl ⟨t, h.tables ▸ ht, waits⟩
    | @send m tableId u _ h =>
      by_cases own : hand.tableId = tableId
      · obtain rfl : t = u := Option.some.inj (ht.symm.trans (own ▸ h.isOpen))
        rw [h.out]
        exact accounts_of_table (l.tableId ht) (by rw [h.tables, own]; simp)
          (Table.accounts_handle m waits)
      · exact .inl ⟨t, by rw [h.tables, getElem?_insert_of_ne _ own]; exact ht, waits⟩
    | @opening tableId h =>
      have other : hand.tableId ≠ tableId := by
        rintro rfl
        simp [h.notOpen] at ht
      exact .inl ⟨t, by rw [h.tables, getElem?_insert_of_ne _ other]; exact ht, waits⟩
    | @closing tableId u h =>
      by_cases own : hand.tableId = tableId
      · obtain rfl : t = u := Option.some.inj (ht.symm.trans (own ▸ h.isOpen))
        obtain ⟨r, hr, id⟩ :=
          Table.exists_fused_of_mem_resolved (Table.mem_resolved_shutdown waits)
        rw [h.out]
        exact .inr ⟨r, by simp [hr], id.trans (congrArg (HandId.mk · _) (l.tableId ht))⟩
      · exact .inl ⟨t, by rw [h.tables, getElem?_erase_of_ne _ own]; exact ht, waits⟩
  · exact accounts_of_result result e.out

theorem Accounts.steps {f : Floor} {out : List Effect} {e : Emission Floor Effect} {hand : HandId}
    (l : Lifetimes f out) (s : Steps f e) (a : Accounts f out hand) :
    Accounts e.state (out ++ e.out) hand := by
  refine (Chain.keeps (P := fun f out => Lifetimes f out ∧ Accounts f out hand) (fun step h => ?_)
    s ⟨l, a⟩).2
  exact ⟨h.1.steps (.single step), h.2.step h.1 step⟩

/-! ### Observed hands -/

theorem isOpen_openTable (tableId : TableId) (f : Floor) :
    ∃ t, (f.openTable tableId).state.tables[tableId]? = some t := by
  unfold openTable
  split
  · rename_i h
    exact Option.isSome_iff_exists.mp (by simpa using h)
  · exact ⟨_, Std.TreeMap.getElem?_insert_self⟩

theorem isOpen_deliver {f : Floor} {tableId : TableId} {t : Table}
    (h : f.tables[tableId]? = some t) (m : Table.Message) :
    ∃ t', (f.deliver m tableId).state.tables[tableId]? = some t' := by
  simp [deliver, h, putOut]

theorem isOpen_arrive {f : Floor} {tableId : TableId} {t : Table}
    (h : f.tables[tableId]? = some t) (source : Source) :
    ∃ t', (f.arrive source tableId).state.tables[tableId]? = some t' := by
  unfold arrive
  simp only
  split
  · exact ⟨t, h⟩
  · have told := isOpen_deliver
      (f := { f with monitor := (f.monitor.observe tableId source f.now).1 }) h
    exact told _

theorem accounts_deliver {f : Floor} {out : List Effect} (l : Lifetimes f out)
    (taken : f.outlet = none) {tableId : TableId} {t : Table} (ht : f.tables[tableId]? = some t)
    {m : Table.Message} {hand : HandNumber} (observed : m.observed? = some hand) :
    Accounts (f.deliver m tableId).state (out ++ (f.deliver m tableId).out) ⟨tableId, hand⟩ := by
  cases known : t.history.contains hand with
  | true =>
    have remembers := l.remembers ht
    rw [remembers.sound.contains_iff, remembers.order_eq, List.rtake] at known
    exact accounts_of_result
      (exists_fused_of_mem_handsSinceOpening (List.mem_of_mem_drop known)) _
  | false =>
    simp only [deliver, ht, taken]
    exact accounts_of_table (l.tableId ht) (by simp [putOut])
      (Table.accounts_observed observed known)

/-! ### Requests -/

/-- What is done comes in steps, and some hands are observed by it. -/
structure Serves (hands : List HandId) (f : Floor) (e : Emission Floor Effect) : Prop where
  /-- It is done in steps. -/
  steps : Steps f e
  /-- The hands wait or have results. -/
  accounts : ∀ hand ∈ hands, ∀ out, Lifetimes f out → Accounts e.state (out ++ e.out) hand

theorem Steps.serves {f : Floor} {e : Emission Floor Effect} (s : Steps f e) : Serves [] f e :=
  ⟨s, by simp⟩

theorem Serves.andThen {hands hands' : List HandId} {f : Floor} {e : Emission Floor Effect}
    {g : Floor → Emission Floor Effect} (s : Serves hands f e)
    (s' : Serves hands' e.state (g e.state)) : Serves (hands ++ hands') f (e.andThen g) := by
  refine ⟨Chain.andThen s.steps s'.steps, fun hand hh out l => ?_⟩
  rw [Emission.out_andThen, ← List.append_assoc]
  rcases List.mem_append.mp hh with hh | hh
  · exact (s.accounts hand hh out l).steps (l.steps s.steps) s'.steps
  · exact s'.accounts hand hh _ (l.steps s.steps)

/-- An observation for a table arrives. -/
theorem serves_observation {f : Floor} (taken : f.outlet = none) (source : Source)
    {m : Table.Message} (tableId : TableId) {hand : HandNumber}
    (observed : m.observed? = some hand) :
    Serves [⟨tableId, hand⟩] f
      (((f.openTable tableId).andThen (arrive source tableId)).andThen (deliver m tableId)) := by
  have other : m ≠ .shutdown := by rintro rfl; cases observed
  have ready := (steps_openTable tableId f taken).andThen taken (steps_arrive source tableId)
  refine ⟨ready.andThen taken (steps_deliver other tableId), fun hand hh out l => ?_⟩
  obtain rfl := List.mem_singleton.mp hh
  obtain ⟨t, ht⟩ := isOpen_openTable tableId f
  obtain ⟨t', ht'⟩ := isOpen_arrive ht source
  rw [Emission.out_andThen, ← List.append_assoc]
  exact accounts_deliver (l.steps ready) (ready.outlet taken) ht' observed

/-- The hand that a request is an observation of, unless it is refused. -/
def Request.observed? : Request → Option HandId
  | .hand r => some r.id
  | .sighting r =>
    match r.validate with
    | .ok () => some r.id
    | .error _ => none
  | _ => none

theorem serves_receiveHand (r : RankedHand) {f : Floor} (taken : f.outlet = none) :
    Serves [r.id] f (f.receiveHand r) :=
  serves_observation taken .primary r.tableId rfl

theorem serves_receiveSighting (r : Sighting) {f : Floor} (taken : f.outlet = none) :
    Serves [r.id] f (f.receiveSighting r) :=
  serves_observation taken .secondary r.tableId rfl

/-- **Every request is done in steps, and the hand it is an observation of waits or has a
result.** -/
theorem serves_act (q : Request) {f : Floor} (taken : f.outlet = none) :
    Serves q.observed?.toList f (f.act q) := by
  cases q
  case hand r => exact serves_receiveHand r taken
  case sighting r =>
    cases h : r.validate with
    | ok =>
      simp only [act, attempt, admitSighting, Request.observed?, h]
      exact serves_receiveSighting r taken
    | error =>
      simp only [act, attempt, admitSighting, Request.observed?, h]
      exact Steps.serves (.refl f)
  all_goals exact Steps.serves (steps_act _ f taken)

/-! ### Counters -/

theorem totalTally_eq (f : Floor) {entries : List (TableId × Table)}
    (h : f.tables.toList.Perm entries) :
    f.totalTally = entries.foldl (fun s e => s.merge e.2.tally) f.closedTally := by
  refine h.foldl_eq' (fun x _ y _ s => ?_) f.closedTally
  exact Tally.merge_right_comm s x.2.tally y.2.tally

theorem foldl_merge (entries : List (TableId × Table)) (s t : Tally) :
    entries.foldl (fun s e => s.merge e.2.tally) (s.merge t) =
      (entries.foldl (fun s e => s.merge e.2.tally) s).merge t := by
  induction entries generalizing s with
  | nil => rfl
  | cons e entries ih => rw [List.foldl_cons, List.foldl_cons, Tally.merge_right_comm, ih]

/-- Every result is counted, by its table or among those of closed tables. -/
def Counted (f : Floor) (out : List Effect) : Prop :=
  f.totalTally = (fusedOf out).foldl Tally.add .zero

theorem counted_opened (s : Settings) (calendar : Nat → UtcTime) :
    Counted (opened s calendar) [] := by
  have no_entries : (opened s calendar).tables.toList = [] := by
    rw [← List.isEmpty_iff, opened, Std.TreeMap.isEmpty_toList]
    rfl
  rw [Counted, totalTally, no_entries]
  rfl

/-- The counters of all tables, one of which is singled out. -/
theorem totalTally_of_isOpen {f : Floor} {tableId : TableId} {t : Table}
    (h : f.tables[tableId]? = some t) :
    f.totalTally = ((f.tables.erase tableId).toList.foldl (fun s e => s.merge e.2.tally)
      f.closedTally).merge t.tally := by
  rw [totalTally_eq f (toList_perm_erase h), List.foldl_cons, foldl_merge]

theorem totalTally_of_insert {f f' : Floor} {tableId : TableId} {t : Table}
    (tables : f'.tables = f.tables.insert tableId t) (closed : f'.closedTally = f.closedTally) :
    f'.totalTally = ((f.tables.erase tableId).toList.foldl (fun s e => s.merge e.2.tally)
      f.closedTally).merge t.tally := by
  have entries := toList_insert_perm_erase f.tables tableId t
  rw [← tables] at entries
  rw [totalTally_eq f' entries, List.foldl_cons, foldl_merge, closed]

theorem totalTally_of_erase {f f' : Floor} {tableId : TableId} {s : Tally}
    (tables : f'.tables = f.tables.erase tableId)
    (closed : f'.closedTally = f.closedTally.merge s) :
    f'.totalTally = ((f.tables.erase tableId).toList.foldl (fun s e => s.merge e.2.tally)
      f.closedTally).merge s := by
  rw [totalTally, tables, closed, foldl_merge]

/-- A step counts the results it hands on. -/
theorem totalTally_step {f : Floor} {e : Emission Floor Effect} (s : Step f e) :
    e.state.totalTally = (fusedOf e.out).foldl Tally.add f.totalTally := by
  cases s with
  | aside h =>
    rw [fusedOf_of_idle h.idle, List.foldl_nil, totalTally, totalTally, h.tables, h.closedTally]
  | @send m tableId t _ h =>
    rw [totalTally_of_insert h.tables h.closedTally, totalTally_of_isOpen h.isOpen, h.out,
      Table.fusedOf_effects, Table.tally_handle, Tally.merge_foldl_add]
  | @opening tableId h =>
    have unchanged : (f.tables.erase tableId).toList.Perm f.tables.toList := by
      refine Std.TreeMap.equiv_iff_toList_perm.mp (.of_forall_constGet?_eq fun x => ?_)
      by_cases hx : x = tableId
      · simp [hx, h.notOpen]
      · exact getElem?_erase_of_ne _ hx
    rw [totalTally_of_insert h.tables h.closedTally, h.out, totalTally_eq f unchanged.symm]
    rfl
  | @closing tableId t h =>
    rw [totalTally_of_erase h.tables h.closedTally, totalTally_of_isOpen h.isOpen, h.out,
      Table.fusedOf_effects, Table.tally_handle, Tally.merge_foldl_add]

theorem Counted.steps {f : Floor} {out : List Effect} {e : Emission Floor Effect}
    (c : Counted f out) (s : Steps f e) : Counted e.state (out ++ e.out) := by
  refine Chain.keeps (P := Counted) (fun step c => ?_) s c
  rw [Counted, totalTally_step step, c, fusedOf_append, List.foldl_append]

/-! ### Floors that are shut down -/

theorem tables_closeTable (tableId : TableId) (f : Floor) :
    (f.closeTable tableId).state.tables =
      if f.tables[tableId]?.isSome then f.tables.erase tableId else f.tables := by
  unfold closeTable
  split <;> simp_all [goOn, putOut]

theorem notOpen_closeTable (tableId : TableId) (f : Floor) :
    (f.closeTable tableId).state.tables[tableId]? = none := by
  rw [tables_closeTable]
  split <;> simp_all

theorem notOpen_closeTable_of_notOpen (tableId other : TableId) (f : Floor)
    (h : f.tables[other]? = none) : (f.closeTable tableId).state.tables[other]? = none := by
  rw [tables_closeTable]
  split <;> simp_all

/-- No table stays open. -/
theorem notOpen_closeAll (f : Floor) (tableId : TableId) :
    f.closeAll.state.tables[tableId]? = none := by
  refine Emission.forEach_achieves (P := fun id (f : Floor) => f.tables[id]? = none)
    notOpen_closeTable notOpen_closeTable_of_notOpen ?_
  exact mem_keys_or_getElem?_eq_none f.tables tableId

theorem totalTally_of_noneOpen {f : Floor}
    (none_open : ∀ tableId : TableId, f.tables[tableId]? = none) :
    f.totalTally = f.closedTally := by
  have none_left : f.tables.toList = [] := by
    refine List.eq_nil_iff_forall_not_mem.mpr fun e he => ?_
    have found := Std.TreeMap.mem_toList_iff_getElem?_eq_some.mp he
    simp [none_open] at found
  rw [totalTally, none_left, List.foldl_nil]

theorem totalTally_closeAll (f : Floor) :
    f.closeAll.state.totalTally = f.closeAll.state.closedTally :=
  totalTally_of_noneOpen (notOpen_closeAll f)

/-- Once all tables have been shut down, what waited has a result. -/
theorem Accounts.of_closeAll {f : Floor} {out : List Effect} {hand : HandId}
    (a : Accounts f.closeAll.state out hand) : ∃ r ∈ fusedOf out, r.id = hand := by
  rcases a with ⟨t, ht, -⟩ | result
  · simp [notOpen_closeAll] at ht
  · exact result

end Floor

end Showdown
