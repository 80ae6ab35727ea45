import Showdown.Table.Timed
import Showdown.Proofs.Agenda
import Showdown.Proofs.Table.Fate
import Showdown.Proofs.Table.Scope

/-!
# How time passes at a table

A table in time is asked to take turns, and time is let pass. While it passes, the clock never goes
past a timer: either it goes on, up to the first timer at most, or a timer runs out that is due
(`Ticks`). However time is let pass, it does so in such ticks (`ticks_advance`, `ticks_hasten`), and
then it is so much later (`now_advance`, `now_hasten`).
Whatever the requests, the timers are those of the table, none of them is overdue, and none is for
an opening that is yet to come (`Regular.run`).

All this is about tables whose results are taken at once.
-/

namespace Showdown.TimedTable

open Table (Turn take)

variable {t : TimedTable} {tableId : TableId} {settings : Table.Settings}

/-! ### Requests -/

/-- What can be asked of a table in time. -/
inductive Request where
  /-- An observation of the card readers arrives. -/
  | primary (r : RankedHand)
  /-- An observation of the video arrives. -/
  | secondary (r : Sighting)
  /-- The table is told whether the two sources deliver. -/
  | health (primary secondary : Liveness)
  /-- Somebody asks for a snapshot. -/
  | snapshot
  /-- A number of milliseconds passes. -/
  | advance (ms : Nat)
  /-- A number of milliseconds passes in haste. -/
  | hasten (count ms : Nat)
  /-- The table is shut down. -/
  | shutdown
  /-- Nobody can send messages any more. -/
  | abandon

/-- The turn that a table is asked to take. -/
def Request.turn? : Request → Option Turn
  | primary r => some (.message (.primary r))
  | secondary r => some (.message (.secondary r))
  | health p s => some (.message (.health p s))
  | snapshot => some (.message .snapshot)
  | advance _ | hasten .. => none
  | shutdown => some (.message .shutdown)
  | abandon => some .deserted

/-- A message is sent to a table, and ignored if it is refused. -/
def attempt (m : Table.Message) (t : TimedTable) : Emission TimedTable Stamped :=
  match t.submit m with
  | .ok e => e
  | .error _ => .quiet t

/-- A table does what it is asked, unless it refuses. -/
def perform (q : Request) (t : TimedTable) : Emission TimedTable Stamped :=
  match q with
  | .primary r => t.attempt (.primary r)
  | .secondary r => t.attempt (.secondary r)
  | .health p s => t.attempt (.health p s)
  | .snapshot => t.attempt .snapshot
  | .advance ms => t.catchUp.andThen (advance ms)
  | .hasten count ms => t.hastenTo count (t.now + ms)
  | .shutdown => if t.accepting then t.shutdown else .quiet t
  | .abandon => t.abandon

/-- A table does what it is asked, one request after another. -/
def run : List Request → TimedTable → Emission TimedTable Stamped :=
  Emission.forEach perform

/-- A table takes a turn now. After the last one it accepts no messages. -/
def takeTurn (u : Turn) (t : TimedTable) : Emission TimedTable Stamped :=
  { t with accepting := t.accepting && !u.ends }.settle (take u t.table)

/-- The outputs of a table, all of them put out now. -/
def stamped (t : TimedTable) (out : List Table.Output) : List Stamped :=
  out.map fun o => ⟨t.now, o⟩

theorem settle_of_taken (taken : t.outlet = none) (r : Emission Table Table.Output) :
    t.settle r =
      ⟨{ t with
          table := r.state
          agenda := r.out.foldl
            (Agenda.heed (t.now + Agenda.span r.state.settings.matchWindow)) t.agenda },
        t.stamped r.out⟩ := by
  simp [settle, putOut, Outlet.offer?, taken, stamped]

theorem goOn_of_taken (taken : t.outlet = none) : t.goOn = .quiet t := by
  obtain ⟨_, _, _, _, outlet⟩ := t
  subst taken
  rfl

/-- A table that accepts messages takes the turn it is asked to take, and else it takes none. -/
theorem perform_of_turn {q : Request} {u : Turn} (h : q.turn? = some u) (t : TimedTable) :
    t.perform q = if t.accepting then t.takeTurn u else .quiet t := by
  obtain ⟨table, now, agenda, accepting, outlet⟩ := t
  cases q <;> cases h <;> cases accepting <;> rfl

/-! ### Ticks -/

/-- A timer runs out now, unless it was stopped. -/
def strike (timer : Timer) (t : TimedTable) : Emission TimedTable Stamped :=
  if t.agenda.timers.contains timer then
    let t := { t with agenda := t.agenda.stop timer.key }
    if t.accepting then t.send (.expired timer.key.hand timer.key.generation) else .quiet t
  else .quiet t

/-- What happens while time passes. -/
inductive Ticks (t : TimedTable) : Emission TimedTable Stamped → Prop where
  /-- The clock goes on, but not past a timer. -/
  | pass {time : Nat} (later : t.now ≤ time) (next : ∀ timer ∈ t.agenda.timers, time ≤ timer.due) :
    Ticks t (.quiet { t with now := time })
  /-- A timer is due. -/
  | strike {timer : Timer} (runs : timer ∈ t.agenda.timers) (due : timer.due ≤ t.now) :
    Ticks t (t.strike timer)

theorem strike_of_mem {timer : Timer} (runs : timer ∈ t.agenda.timers) :
    t.strike timer =
      if t.accepting then { t with agenda := t.agenda.stop timer.key }.send
        (.expired timer.key.hand timer.key.generation)
      else .quiet { t with agenda := t.agenda.stop timer.key } := by
  simp [strike, runs]

theorem strike_of_not_mem {timer : Timer} (stopped : timer ∉ t.agenda.timers) :
    t.strike timer = .quiet t := by
  simp [strike, stopped]

theorem now_strike (timer : Timer) (t : TimedTable) : (t.strike timer).state.now = t.now := by
  unfold strike
  split
  · dsimp only
    split <;> rfl
  · rfl

theorem outlet_strike (taken : t.outlet = none) (timer : Timer) :
    (t.strike timer).state.outlet = none := by
  unfold strike
  split
  · dsimp only
    split
    · rw [send, settle_of_taken (by exact taken)]
      exact taken
    · exact taken
  · exact taken

/-! ### What always holds -/

/-- A table in time that was opened as it should. -/
structure Regular (tableId : TableId) (settings : Table.Settings) (t : TimedTable) : Prop where
  /-- It is this table. -/
  sameTable : t.table.tableId = tableId
  /-- It is tuned like this. -/
  tuned : t.table.settings = settings
  /-- Its results are taken at once. -/
  taken : t.outlet = none
  /-- Its timers are in order. -/
  ordered : t.agenda.Ordered
  /-- No timer is overdue. -/
  due : ∀ timer ∈ t.agenda.timers, t.now ≤ timer.due
  /-- The timers are for hands of this table. -/
  own : ∀ timer ∈ t.agenda.timers, timer.key.tableId = tableId
  /-- The timers are for openings that there were. -/
  past : ∀ timer ∈ t.agenda.timers, timer.key.generation ≤ t.table.generation

theorem regular_opened (tableId : TableId) (settings : Table.Settings) :
    Regular tableId settings (opened tableId settings) where
  sameTable := rfl
  tuned := rfl
  taken := rfl
  ordered := Agenda.ordered_empty
  due := by simp [opened, Agenda.empty]
  own := by simp [opened, Agenda.empty]
  past := by simp [opened, Agenda.empty]

namespace Regular

theorem settle (h : Regular tableId settings t) (u : Turn) :
    Regular tableId settings (t.settle (take u t.table)).state := by
  rw [settle_of_taken h.taken]
  have moves := Table.moves_take u t.table
  have origin {due : Nat} {timer : Timer}
      (runs : timer ∈ ((take u t.table).out.foldl (Agenda.heed due) t.agenda).timers) :=
    Table.mem_timers_take runs
  refine ⟨(Table.tableId_moves moves).trans h.sameTable, (Table.settings_moves moves).trans h.tuned,
    h.taken, h.ordered.heed _ _, fun timer runs => ?_, fun timer runs => ?_, fun timer runs => ?_⟩
  · rcases origin runs with before | ⟨is, _⟩
    · exact h.due timer before
    · rw [is]
      exact Nat.le_add_right _ _
  · rcases origin runs with before | ⟨is, _⟩
    · exact h.own timer before
    · rw [is]
      exact h.sameTable
  · rcases origin runs with before | ⟨is, generation⟩
    · exact Nat.le_trans (h.past timer before) (Table.le_generation_take u t.table)
    · rw [is, generation]
      exact Nat.le_refl _

theorem stop (h : Regular tableId settings t) (key : TimerKey) :
    Regular tableId settings { t with agenda := t.agenda.stop key } where
  sameTable := h.sameTable
  tuned := h.tuned
  taken := h.taken
  ordered := h.ordered.stop key
  due := fun timer runs => h.due timer (List.mem_of_mem_filter runs)
  own := fun timer runs => h.own timer (List.mem_of_mem_filter runs)
  past := fun timer runs => h.past timer (List.mem_of_mem_filter runs)

theorem takeTurn (h : Regular tableId settings t) (u : Turn) :
    Regular tableId settings (t.takeTurn u).state := by
  have h' : Regular tableId settings { t with accepting := t.accepting && !u.ends } :=
    ⟨h.sameTable, h.tuned, h.taken, h.ordered, h.due, h.own, h.past⟩
  exact h'.settle u

theorem strike (h : Regular tableId settings t) (timer : Timer) :
    Regular tableId settings (t.strike timer).state := by
  by_cases runs : timer ∈ t.agenda.timers
  · rw [strike_of_mem runs]
    split
    · exact (h.stop timer.key).settle (.message (.expired timer.key.hand timer.key.generation))
    · exact h.stop timer.key
  · rw [strike_of_not_mem runs]
    exact h

theorem ticks (h : Regular tableId settings t) {e : Emission TimedTable Stamped} (s : Ticks t e) :
    Regular tableId settings e.state := by
  cases s with
  | pass _ next => exact ⟨h.sameTable, h.tuned, h.taken, h.ordered, next, h.own, h.past⟩
  | strike _ _ => exact h.strike _

end Regular

/-! ### Time that passes -/

/-- A timer that runs out is gone, and there is no new one. -/
theorem mem_timers_strike (taken : t.outlet = none) {timer other : Timer}
    (h : other ∈ (t.strike timer).state.agenda.timers) :
    other ∈ t.agenda.timers ∧ other ≠ timer := by
  by_cases runs : timer ∈ t.agenda.timers
  · rw [strike_of_mem runs] at h
    have left : other ∈ (t.agenda.stop timer.key).timers := by
      split at h
      · rw [send, settle_of_taken (by exact taken)] at h
        obtain ⟨keep, same⟩ := Table.heed_expire timer.key.hand timer.key.generation t.table
        rw [Table.handle, same] at h
        exact List.mem_of_mem_filter h
      · exact h
    obtain ⟨before, differs⟩ := List.mem_filter.mp left
    exact ⟨before, fun same => bne_iff_ne.mp differs (congrArg Timer.key same)⟩
  · rw [strike_of_not_mem runs] at h
    exact ⟨h, fun same => runs (same ▸ h)⟩

/-- The clock goes on to a time that no timer is before. -/
theorem ticks_waitUntil (taken : t.outlet = none) (time : Nat)
    (next : ∀ timer ∈ t.agenda.timers, time ≤ timer.due) :
    Chain Ticks t (t.waitUntil time) := by
  unfold waitUntil
  split
  · rename_i later
    rw [goOn_of_taken taken]
    exact .single (.pass (Nat.le_of_lt later) next)
  · exact .refl t

theorem le_now_waitUntil (taken : t.outlet = none) (time : Nat) :
    time ≤ (t.waitUntil time).state.now := by
  unfold waitUntil
  split
  · rw [goOn_of_taken taken]
    exact Nat.le_refl _
  · rename_i past
    exact Nat.le_of_not_lt past

theorem agenda_waitUntil (taken : t.outlet = none) (time : Nat) :
    (t.waitUntil time).state.agenda = t.agenda := by
  unfold waitUntil
  split
  · rw [goOn_of_taken taken]
    rfl
  · rfl

theorem now_waitUntil (taken : t.outlet = none) (time : Nat) :
    (t.waitUntil time).state.now = max t.now time := by
  unfold waitUntil
  split
  · rename_i later
    rw [goOn_of_taken taken]
    exact (Nat.max_eq_right (Nat.le_of_lt later)).symm
  · rename_i past
    exact (Nat.max_eq_left (Nat.le_of_not_lt past)).symm

theorem outlet_waitUntil (taken : t.outlet = none) (time : Nat) :
    (t.waitUntil time).state.outlet = none := by
  unfold waitUntil
  split
  · rw [goOn_of_taken taken]
    exact taken
  · exact taken

theorem out_waitUntil (taken : t.outlet = none) (time : Nat) : (t.waitUntil time).out = [] := by
  unfold waitUntil
  split
  · rw [goOn_of_taken taken]
    rfl
  · rfl

/-- The timers of a list run out, in their order and before all others. -/
structure InTurn (timers : List Timer) (t : TimedTable) : Prop where
  /-- They are in order. -/
  ordered : timers.Pairwise fun a b => a.due ≤ b.due
  /-- No other timer runs out before one of them. -/
  first : ∀ other ∈ t.agenda.timers, other ∈ timers ∨ ∀ timer ∈ timers, timer.due ≤ other.due

/-- Some timers run out in turn, and then they do not run any more. -/
theorem ticks_forEach_fire (h : Regular tableId settings t) {timers : List Timer}
    (inTurn : InTurn timers t) :
    Chain Ticks t (Emission.forEach fire timers t) ∧
      ∀ other ∈ (Emission.forEach fire timers t).state.agenda.timers,
        other ∈ t.agenda.timers ∧ other ∉ timers := by
  induction timers generalizing t with
  | nil => exact ⟨.refl t, fun other running => ⟨running, List.not_mem_nil⟩⟩
  | cons timer timers ih =>
    obtain ⟨head, tail⟩ := List.pairwise_cons.mp inTurn.ordered
    have next : ∀ other ∈ t.agenda.timers, timer.due ≤ other.due := by
      intro other running
      rcases inTurn.first other running with mem | later
      · rcases List.mem_cons.mp mem with rfl | mem
        · exact Nat.le_refl _
        · exact head other mem
      · exact later timer List.mem_cons_self
    have waits := ticks_waitUntil h.taken timer.due next
    have h' := waits.preserves (fun s h => h.ticks s) h
    set t' := (t.waitUntil timer.due).state
    have agenda : t'.agenda = t.agenda := agenda_waitUntil h.taken timer.due
    have due : timer.due ≤ t'.now := le_now_waitUntil h.taken timer.due
    have struck : Chain Ticks t' (t'.strike timer) := by
      by_cases runs : timer ∈ t'.agenda.timers
      · exact .single (.strike runs due)
      · rw [strike_of_not_mem runs]
        exact .refl t'
    have inTurn' : InTurn timers (t'.strike timer).state := by
      refine ⟨tail, fun other running => ?_⟩
      obtain ⟨before, differs⟩ := mem_timers_strike h'.taken running
      rcases inTurn.first other (agenda ▸ before) with mem | later
      · exact .inl ((List.mem_cons.mp mem).resolve_left differs)
      · exact .inr fun timer mem => later timer (List.mem_cons_of_mem _ mem)
    obtain ⟨rest, left⟩ := ih (h'.strike timer) inTurn'
    refine ⟨(waits.andThen (f := strike timer) struck).andThen rest, fun other running => ?_⟩
    obtain ⟨running, notLater⟩ := left other running
    obtain ⟨before, differs⟩ := mem_timers_strike h'.taken running
    exact ⟨agenda ▸ before, fun mem => (List.mem_cons.mp mem).elim differs notLater⟩

/-- The timers that run out up to a time, or before it, are the first to do so. -/
theorem inTurn_filter (h : Regular tableId settings t) {p : Timer → Bool}
    (early : ∀ timer other : Timer, p timer = true → p other = false → timer.due ≤ other.due) :
    InTurn (t.agenda.timers.filter p) t := by
  refine ⟨h.ordered.filter _, fun other running => ?_⟩
  cases hp : p other with
  | true => exact .inl (List.mem_filter.mpr ⟨running, hp⟩)
  | false => exact .inr fun timer mem => early timer other (List.mem_filter.mp mem).2 hp

theorem inTurn_due (h : Regular tableId settings t) (time : Nat) :
    InTurn (t.agenda.due time) t := by
  refine inTurn_filter h fun timer other up notUp => ?_
  simp only [decide_eq_true_eq, decide_eq_false_iff_not] at up notUp
  omega

theorem inTurn_dueBefore (h : Regular tableId settings t) (time : Nat) :
    InTurn (t.agenda.dueBefore time) t := by
  refine inTurn_filter h fun timer other up notUp => ?_
  simp only [decide_eq_true_eq, decide_eq_false_iff_not] at up notUp
  omega

/-- Of the timers that are due now, any number can be the first, as they are due together. -/
theorem inTurn_take_due (h : Regular tableId settings t) (count : Nat) :
    InTurn ((t.agenda.due t.now).take count) t := by
  refine ⟨(inTurn_due h t.now).ordered.sublist (List.take_sublist _ _), fun other running => ?_⟩
  refine .inr fun timer mem => ?_
  have now := (List.mem_filter.mp (List.mem_of_mem_take mem)).2
  exact Nat.le_trans (by simpa using now) (h.due other running)

/-- While timers run out that are due up to a time, the clock goes on up to that time at most. -/
theorem now_forEach_fire (taken : t.outlet = none) {timers : List Timer} {time : Nat}
    (early : ∀ timer ∈ timers, timer.due ≤ time) (now : t.now ≤ time) :
    (Emission.forEach fire timers t).state.outlet = none ∧
      t.now ≤ (Emission.forEach fire timers t).state.now ∧
      (Emission.forEach fire timers t).state.now ≤ time := by
  induction timers generalizing t with
  | nil => exact ⟨taken, Nat.le_refl _, now⟩
  | cons timer timers ih =>
    obtain ⟨first, others⟩ := List.forall_mem_cons.mp early
    have fired : (t.fire timer).state.now = max t.now timer.due :=
      (now_strike timer _).trans (now_waitUntil taken timer.due)
    obtain ⟨taken', later, inTime⟩ := ih (t := (t.fire timer).state)
      (outlet_strike (outlet_waitUntil taken timer.due) timer) others
      (fired ▸ Nat.max_le.mpr ⟨now, first⟩)
    exact ⟨taken', Nat.le_trans (Nat.le_max_left _ _) (fired ▸ later), inTime⟩

theorem now_runOut_due (taken : t.outlet = none) {time : Nat} (now : t.now ≤ time) :
    (t.runOut (t.agenda.due time) time).state.now = time := by
  have early : ∀ timer ∈ t.agenda.due time, timer.due ≤ time := fun timer mem =>
    (Agenda.mem_due.mp mem).2
  obtain ⟨taken', -, now'⟩ := now_forEach_fire taken early now
  rw [runOut, Emission.state_andThen, Emission.state_andThen,
    goOn_of_taken (outlet_waitUntil taken' time), Emission.state_quiet, now_waitUntil taken']
  exact Nat.max_eq_right now'

theorem left_runOut_due (h : Regular tableId settings t) (time : Nat) :
    ∀ timer ∈ (t.runOut (t.agenda.due time) time).state.agenda.timers, time < timer.due := by
  obtain ⟨fired, left⟩ := ticks_forEach_fire h (inTurn_due h time)
  have taken := (fired.preserves (fun s h => h.ticks s) h).taken
  intro timer running
  rw [runOut, Emission.state_andThen, Emission.state_andThen,
    goOn_of_taken (outlet_waitUntil taken time), Emission.state_quiet,
    agenda_waitUntil taken] at running
  obtain ⟨before, notDue⟩ := left timer running
  by_contra early
  exact notDue (Agenda.mem_due.mpr ⟨before, Nat.le_of_not_lt early⟩)

theorem ticks_runOut_due (h : Regular tableId settings t) (time : Nat) :
    Chain Ticks t (t.runOut (t.agenda.due time) time) := by
  obtain ⟨fired, left⟩ := ticks_forEach_fire h (inTurn_due h time)
  have h' := fired.preserves (fun s h => h.ticks s) h
  have waits := ticks_waitUntil h'.taken time fun timer running => by
    obtain ⟨before, notDue⟩ := left timer running
    by_contra early
    exact notDue (Agenda.mem_due.mpr ⟨before, Nat.le_of_not_le early⟩)
  have h'' := waits.preserves (fun s h => h.ticks s) h'
  refine (fired.andThen waits).andThen ?_
  rw [goOn_of_taken (by exact h''.taken)]
  exact .refl _

theorem ticks_advance (h : Regular tableId settings t) (ms : Nat) :
    Chain Ticks t (t.perform (.advance ms)) := by
  have caught := ticks_runOut_due h t.now
  have h' := caught.preserves (fun s h => h.ticks s) h
  refine caught.andThen ?_
  rw [advance, advanceTo, goOn_of_taken h'.taken]
  exact ticks_runOut_due h' _

/-- After some milliseconds it is so much later, and all timers have run out that were due. -/
theorem now_advance (h : Regular tableId settings t) (ms : Nat) :
    (t.perform (.advance ms)).state.now = t.now + ms ∧
      ∀ timer ∈ (t.perform (.advance ms)).state.agenda.timers, t.now + ms < timer.due := by
  have caught : Chain Ticks t t.catchUp := ticks_runOut_due h t.now
  have now : t.catchUp.state.now = t.now := now_runOut_due h.taken (Nat.le_refl _)
  have h' := caught.preserves (fun s h => h.ticks s) h
  rw [perform, Emission.state_andThen, advance, advanceTo, goOn_of_taken h'.taken, now]
  exact ⟨now_runOut_due h'.taken (now ▸ Nat.le_add_right _ _), left_runOut_due h' _⟩

theorem ticks_fireSome (h : Regular tableId settings t) (count : Nat) :
    Chain Ticks t (t.fireSome count) := by
  obtain ⟨fired, -⟩ := ticks_forEach_fire h (inTurn_take_due h count)
  have h' := fired.preserves (fun s h => h.ticks s) h
  refine fired.andThen ?_
  split
  · rw [goOn_of_taken h'.taken]
    exact .refl _
  · exact .refl _

/-- A step in haste is one up to its end, at which only some timers run out. If no timer is due
before the end, then nothing happens before. -/
theorem hasten_eq (h : Regular tableId settings t) (count ms : Nat) :
    ∃ e : Emission TimedTable Stamped, Chain Ticks t e ∧ e.state.now = t.now + ms ∧
      ((∀ timer ∈ t.agenda.timers, t.now + ms ≤ timer.due) → e.out = []) ∧
      t.perform (.hasten count ms) = e.andThen (fireSome count) := by
  show ∃ e, _ ∧ _ ∧ _ ∧ t.hastenTo count (t.now + ms) = _
  unfold hastenTo
  split
  · rename_i atOnce
    simp only [Bool.and_eq_true, decide_eq_true_eq] at atOnce
    exact ⟨.quiet t, .refl t, show t.now = _ by omega, fun _ => rfl, rfl⟩
  · rename_i later
    have caught : Chain Ticks t t.catchUp := ticks_runOut_due h t.now
    have now₁ : t.catchUp.state.now = t.now := now_runOut_due h.taken (Nat.le_refl _)
    have h₁ := caught.preserves (fun s h => h.ticks s) h
    obtain ⟨fired, left⟩ := ticks_forEach_fire h₁ (inTurn_dueBefore h₁ (t.now + ms))
    have h₂ := fired.preserves (fun s h => h.ticks s) h₁
    have waits := ticks_waitUntil h₂.taken (t.now + ms) fun timer running => by
      obtain ⟨before, notDue⟩ := left timer running
      by_contra early
      exact notDue (Agenda.mem_dueBefore.mpr ⟨before, Nat.lt_of_not_le early⟩)
    refine ⟨_, (caught.andThen (f := fun t => Emission.forEach fire (t.agenda.dueBefore _) t)
      fired).andThen waits, ?_, fun idle => ?_, rfl⟩
    · have early : ∀ timer ∈ t.catchUp.state.agenda.dueBefore (t.now + ms),
          timer.due ≤ t.now + ms := fun timer mem => Nat.le_of_lt (Agenda.mem_dueBefore.mp mem).2
      obtain ⟨taken, -, now₂⟩ := now_forEach_fire h₁.taken early (now₁ ▸ Nat.le_add_right _ _)
      exact (now_waitUntil taken _).trans (Nat.max_eq_right now₂)
    · have noneDue : t.agenda.due t.now = [] := by
        refine List.eq_nil_iff_forall_not_mem.mpr fun timer mem => later ?_
        obtain ⟨running, isDue⟩ := Agenda.mem_due.mp mem
        have due := idle timer running
        have anyDue : (t.agenda.due t.now).isEmpty = false :=
          List.isEmpty_eq_false_iff.mpr (List.ne_nil_of_mem mem)
        rw [anyDue, Bool.not_false, Bool.and_true]
        exact decide_eq_true (by omega)
      have quiet : t.catchUp = .quiet t := by
        simp [catchUp, noneDue, runOut, waitUntil, goOn_of_taken h.taken, Emission.andThen,
          Emission.quiet]
      have noneBefore : t.agenda.dueBefore (t.now + ms) = [] := by
        refine List.eq_nil_iff_forall_not_mem.mpr fun timer mem => ?_
        obtain ⟨running, early⟩ := Agenda.mem_dueBefore.mp mem
        exact Nat.not_lt_of_le (idle timer running) early
      simp only [quiet, Emission.out_andThen, Emission.state_andThen, Emission.out_quiet,
        Emission.state_quiet, noneBefore, Emission.forEach_nil, List.append_nil,
        out_waitUntil h.taken]

theorem ticks_hasten (h : Regular tableId settings t) (count ms : Nat) :
    Chain Ticks t (t.perform (.hasten count ms)) := by
  obtain ⟨e, passes, -, -, same⟩ := hasten_eq h count ms
  rw [same]
  exact passes.andThen (ticks_fireSome (passes.preserves (fun s h => h.ticks s) h) count)

theorem now_fireSome (taken : t.outlet = none) (count : Nat) :
    (t.fireSome count).state.now = t.now := by
  have due : ∀ timer ∈ (t.agenda.due t.now).take count, timer.due ≤ t.now := fun timer mem =>
    (Agenda.mem_due.mp (List.mem_of_mem_take mem)).2
  obtain ⟨taken', later, inTime⟩ := now_forEach_fire taken due (Nat.le_refl _)
  rw [fireSome, Emission.state_andThen, goOn_of_taken taken', ite_self, Emission.state_quiet]
  exact Nat.le_antisymm inTime later

/-- Haste or not, it is so much later. -/
theorem now_hasten (h : Regular tableId settings t) (count ms : Nat) :
    (t.perform (.hasten count ms)).state.now = t.now + ms := by
  obtain ⟨e, passes, now, -, same⟩ := hasten_eq h count ms
  have h' := passes.preserves (fun s h => h.ticks s) h
  rw [same, Emission.state_andThen, now_fireSome h'.taken, now]

/-- Apart from turns that a table is asked to take, time passes. -/
theorem ticks_perform (h : Regular tableId settings t) {q : Request} (noTurn : q.turn? = none) :
    Chain Ticks t (t.perform q) := by
  cases q with
  | advance ms => exact ticks_advance h ms
  | hasten count ms => exact ticks_hasten h count ms
  | primary | secondary | health | snapshot | shutdown | abandon => cases noTurn

theorem Regular.perform (h : Regular tableId settings t) (q : Request) :
    Regular tableId settings (t.perform q).state := by
  cases turn : q.turn? with
  | none => exact (ticks_perform h turn).preserves (fun s h => h.ticks s) h
  | some u =>
    rw [perform_of_turn turn]
    split
    · exact h.takeTurn u
    · exact h

theorem Regular.run (h : Regular tableId settings t) (qs : List Request) :
    Regular tableId settings (run qs t).state := by
  induction qs generalizing t with
  | nil => exact h
  | cons q qs ih => exact ih (h.perform q)

end Showdown.TimedTable
