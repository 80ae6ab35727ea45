import Showdown.Proofs.Floor.Alike

/-!
# Tables do not influence each other

Whoever looks at one table only (`View`: its results and events, its state, what the monitor knows
of it, whether it is open) cannot tell what is asked of other tables. If all observations of other
tables, all that is heard of them and all requests to remove them are left out, while time passes
and health is checked as before, then the table is seen to be the same after each of the requests
that remain (`isolated_of_run`).

A request to another table spares the table itself (`Alike`). But each request ends with the timers
that run out at once, among which there might be some of the table. There are none, since a floor
that has settled a request is at rest.
-/

namespace Showdown.Floor

variable {observed : TableId} {f f' : Floor} {e e' : Emission Floor Effect}

/-- The request is one to the table, or one to all tables. -/
def Request.concerns (tableId : TableId) : Request → Bool
  | hand r => r.tableId == tableId
  | sighting r => r.tableId == tableId
  | hear heard _ => heard == tableId
  | remove removed => removed == tableId
  | tellHealth .. | advance _ | check _ | closeAll => true

/-- What is seen of a table. -/
structure View where
  /-- The results and events of the table up to now, in order. -/
  out : List Effect
  /-- The state of the table, if it is open. -/
  snapshot : Option Table.Snapshot
  /-- What the monitor knows of the table. -/
  channel : Option Channel
  /-- Whether the table is open. -/
  isOpen : Bool

/-- What is seen of a table after some requests. -/
def view (tableId : TableId) (e : Emission Floor Effect) : View :=
  { out := Effect.ofTable tableId e.out
    snapshot := e.state.snapshot? tableId
    channel := e.state.monitor.channel? tableId
    isOpen := e.state.openTables.contains tableId }

/-- What is seen of a table after each of some requests. -/
def watch (tableId : TableId) : List Request → Emission Floor Effect → List (Request × View)
  | [], _ => []
  | q :: qs, e =>
    let e := e.andThen (perform q)
    (q, view tableId e) :: watch tableId qs e

theorem Agrees.view_eq (a : Agrees observed e e') : view observed e = view observed e' := by
  have keys (f : Floor) : f.openTables.contains observed = (f.tables[observed]?).isSome := by
    rw [openTables, ← Std.TreeMap.contains_eq_isSome_getElem?, Bool.eq_iff_iff,
      List.contains_iff_mem, Std.TreeMap.mem_keys, Std.TreeMap.mem_iff_contains]
  rw [view, view, snapshot?, snapshot?, keys, keys, a.out, a.state.table, a.state.channel]

/-! ### Requests -/

/-- Nothing comes of it for a table that the timers of other tables run out at once. -/
theorem spares_advance_zero (regular : Regular f)
    (later : ∀ timer ∈ f.agenda.ofTable observed, f.now < timer.due) :
    Agrees observed (.quiet f) (f.advance 0) := by
  have others : ∀ timer ∈ f.agenda.due f.now, timer.key.tableId ≠ observed := by
    intro timer h own
    obtain ⟨running, due⟩ := List.mem_filter.mp h
    exact absurd (later timer (Agenda.mem_ofTable.mpr ⟨running, own⟩))
      (Nat.not_lt.mpr (by simpa using due))
  have struck := spares_forEach (fun timer : Timer => timer.key.tableId)
    (fun _ other => spares_strike other) others f regular
  rw [advance, advanceTo_eq regular.outlet, Nat.add_zero, Nat.max_self]
  exact Alike.atTime struck f.now

/-- A request is refused whatever the floor, or it is carried out with respect to each table, and a
table that it does not concern is spared. -/
theorem refused_or_respects (q : Request) (observed : TableId) :
    (∀ f, perform q f = .quiet f) ∨
      ∃ g, (∀ f, perform q f = (g f).andThen (advance 0)) ∧ Respects observed g ∧
        (q.concerns observed = false → Spares observed g) := by
  cases q with
  | hand r =>
    exact .inr ⟨receiveHand r, fun _ => rfl, respects_receiveHand r,
      fun other => spares_receiveHand (by simpa [Request.concerns] using other)⟩
  | sighting r =>
    cases valid : r.validate with
    | error refusal => exact .inl fun f => by simp only [perform, attempt, admitSighting, valid]
    | ok =>
      exact .inr ⟨receiveSighting r,
        fun f => by simp only [perform, attempt, admitSighting, valid],
        respects_receiveSighting r,
        fun other => spares_receiveSighting (by simpa [Request.concerns] using other)⟩
  | hear tableId source =>
    exact .inr ⟨hear source tableId, fun _ => rfl, respects_hear source tableId,
      fun other => spares_hear source (by simpa [Request.concerns] using other)⟩
  | remove tableId =>
    exact .inr ⟨remove tableId, fun _ => rfl, respects_remove tableId,
      fun other => spares_remove (by simpa [Request.concerns] using other)⟩
  | tellHealth tableId primary secondary =>
    exact .inr ⟨tellHealth primary secondary tableId, fun _ => rfl, respects_deliver _ tableId,
      fun other => by cases other⟩
  | advance ms =>
    exact .inr ⟨advance ms, fun _ => rfl, respects_advance ms, fun other => by cases other⟩
  | check time =>
    exact .inr ⟨check time, fun _ => rfl, respects_check time, fun other => by cases other⟩
  | closeAll => exact .inr ⟨closeAll, fun _ => rfl, respects_closeAll, fun other => by cases other⟩

theorem respects_perform (q : Request) : Respects observed (perform q) := by
  intro f f' a
  rcases refused_or_respects q observed with refused | ⟨g, carried, respects, -⟩
  · rw [refused, refused]
    exact a.quiet
  · rw [carried, carried]
    exact respects.andThen (respects_advance 0) f f' a

/-- **A request that does not concern a table spares it**, if the floor is at rest. -/
theorem spares_perform {q : Request} (other : q.concerns observed = false) (regular : Regular f)
    (rest : Resting f) : Agrees observed (.quiet f) (perform q f) := by
  rcases refused_or_respects q observed with refused | ⟨g, carried, -, spares⟩
  · rw [refused]
    exact (Alike.refl regular).quiet
  · have done := spares other f regular
    have later : ∀ timer ∈ (g f).state.agenda.ofTable observed, (g f).state.now < timer.due := by
      intro timer h
      rw [← done.state.timers] at h
      rw [← done.state.now]
      exact rest timer (Agenda.mem_ofTable.mp h).1
    rw [carried]
    exact done.andThen_spared (spares_advance_zero done.state.right later)

/-! ### Runs -/

theorem regular_opened (s : Settings) (calendar : Nat → UtcTime) : Regular (opened s calendar) where
  outlet := rfl
  tableId := by simp [opened]
  ordered := Agenda.ordered_empty

theorem resting_opened (s : Settings) (calendar : Nat → UtcTime) : Resting (opened s calendar) := by
  simp [Resting, opened, Agenda.empty]

/-- Both runs go on with the same request. -/
theorem Agrees.perform (a : Agrees observed e e') (q : Request) :
    Agrees observed (e.andThen (Floor.perform q)) (e'.andThen (Floor.perform q)) :=
  a.andThen (respects_perform q _ _ a.state)

/-- Only one of the runs goes on with a request, but this does not concern the table. -/
theorem Agrees.perform_left (a : Agrees observed e e') (rest : Resting e.state) {q : Request}
    (other : q.concerns observed = false) :
    Agrees observed (e.andThen (Floor.perform q)) e' :=
  (a.symm.andThen_spared (spares_perform other a.state.left rest)).symm

/-- Two runs that agree on a table do so in the end if one of them leaves out requests that do not
concern the table. -/
theorem Agrees.run (qs : List Request) (a : Agrees observed e e') (rest : Resting e.state) :
    Agrees observed (e.andThen (Floor.run qs))
      (e'.andThen (Floor.run (qs.filter fun q => q.concerns observed))) := by
  induction qs generalizing e e' with
  | nil => exact a.andThen a.state.quiet
  | cons q qs ih =>
    have rest' : Resting (e.andThen (Floor.perform q)).state :=
      resting_perform a.state.left.outlet rest q
    have cut (e : Emission Floor Effect) (qs : List Request) :
        e.andThen (Floor.run (q :: qs)) = (e.andThen (Floor.perform q)).andThen (Floor.run qs) :=
      (Emission.andThen_assoc ..).symm
    rw [cut]
    by_cases own : q.concerns observed = true
    · rw [List.filter_cons_of_pos own, cut]
      exact ih (a.perform q) rest'
    · rw [List.filter_cons_of_neg own]
      exact ih (a.perform_left rest (by simpa using own)) rest'

/-- And so they do after each of the requests that remain. -/
theorem Agrees.watch (qs : List Request) (a : Agrees observed e e') (rest : Resting e.state) :
    (Floor.watch observed qs e).filter (fun v => v.1.concerns observed) =
      Floor.watch observed (qs.filter fun q => q.concerns observed) e' := by
  induction qs generalizing e e' with
  | nil => rfl
  | cons q qs ih =>
    have rest' : Resting (e.andThen (Floor.perform q)).state :=
      resting_perform a.state.left.outlet rest q
    rw [Floor.watch]
    by_cases own : q.concerns observed = true
    · have next := a.perform q
      rw [List.filter_cons_of_pos own, List.filter_cons, if_pos own, Floor.watch, next.view_eq,
        ih next rest']
    · rw [List.filter_cons_of_neg own, List.filter_cons, if_neg own]
      exact ih (a.perform_left rest (by simpa using own)) rest'

/-- **Tables are isolated**: without the requests to other tables, a table is seen to be the same
after each of the requests that remain, and in the end. -/
theorem isolated_of_run (s : Settings) (calendar : Nat → UtcTime) (tableId : TableId)
    (qs : List Request) :
    (watch tableId qs (.quiet (opened s calendar))).filter (fun v => v.1.concerns tableId) =
        watch tableId (qs.filter fun q => q.concerns tableId) (.quiet (opened s calendar)) ∧
      view tableId (run qs (opened s calendar)) =
        view tableId (run (qs.filter fun q => q.concerns tableId) (opened s calendar)) := by
  have start : Agrees tableId (.quiet (opened s calendar)) (.quiet (opened s calendar)) :=
    (Alike.refl (regular_opened s calendar)).quiet
  exact ⟨start.watch qs (resting_opened s calendar),
    (start.run qs (resting_opened s calendar)).view_eq⟩

end Showdown.Floor
