import Showdown.Proofs.Floor.Steps
import Showdown.Proofs.Table.Scope

/-!
# How time passes on a floor

While time passes, the clock goes from one timer to the next one. What the timers bring about does
not depend on that: it is what comes of them one after another if the clock stands still, and then
the clock is put forward (`advanceTo_eq`). Afterwards all timers that are left run out later
(`resting_advance`).

All this is about floors whose results are taken at once.
-/

namespace Showdown.Floor

variable {f : Floor}

/-- The same emission, but for the time that it is in the end. -/
def atTime (time : Nat) (e : Emission Floor Effect) : Emission Floor Effect :=
  ⟨{ e.state with now := time }, e.out⟩

theorem andThen_atTime {e : Emission Floor Effect} {g g' : Floor → Emission Floor Effect}
    {time time' : Nat} (h : g { e.state with now := time } = atTime time' (g' e.state)) :
    (atTime time e).andThen g = atTime time' (e.andThen g') := by
  rw [Emission.andThen, atTime, h]
  rfl

/-- A timer runs out, unless it was stopped, and the clock stands still. -/
def strike (timer : Timer) (f : Floor) : Emission Floor Effect :=
  if f.agenda.timers.contains timer then
    { f with agenda := f.agenda.stop timer.key }.deliver
      (.expired timer.key.hand timer.key.generation) timer.key.tableId
  else .quiet f

/-! ### The clock -/

theorem waitUntil_of_taken (taken : f.outlet = none) (time : Nat) :
    f.waitUntil time = .quiet { f with now := max f.now time } := by
  unfold waitUntil
  split
  · rename_i later
    rw [goOn_of_taken taken, Nat.max_eq_right (Nat.le_of_lt later)]
    rfl
  · rename_i past
    rw [Nat.max_eq_left (Nat.le_of_not_lt past)]

/-- What comes of a timer that runs out does not depend on the time. -/
theorem deliver_expired_now (taken : f.outlet = none) (hand : HandNumber) (generation : Nat)
    (tableId : TableId) (time : Nat) :
    { f with now := time }.deliver (.expired hand generation) tableId =
      atTime time (f.deliver (.expired hand generation) tableId) := by
  unfold deliver
  cases ht : f.tables[tableId]? with
  | none => rfl
  | some t =>
    obtain ⟨keep, same⟩ := Table.heed_expire hand generation t
    simp only [putOut, heed, atTime, taken, Outlet.offer?, Table.handle, same]

theorem strike_now (taken : f.outlet = none) (timer : Timer) (time : Nat) :
    strike timer { f with now := time } = atTime time (strike timer f) := by
  unfold strike
  by_cases running : f.agenda.timers.contains timer
  · simp only [running, ↓reduceIte]
    exact deliver_expired_now (f := { f with agenda := f.agenda.stop timer.key }) taken ..
  · simp only [running, Bool.false_eq_true, ↓reduceIte]
    rfl

theorem steps_strike (timer : Timer) (f : Floor) (taken : f.outlet = none) :
    Steps f (strike timer f) := by
  unfold strike
  split
  · have stopped : Step f (.quiet { f with agenda := f.agenda.stop timer.key }) :=
      .aside ⟨rfl, rfl, rfl, taken, rfl⟩
    refine .head stopped ?_
    exact steps_deliver (m := .expired timer.key.hand timer.key.generation) (by simp) _ _ taken
  · exact .refl f

theorem outlet_strike (taken : f.outlet = none) (timer : Timer) :
    (strike timer f).state.outlet = none :=
  (steps_strike timer f taken).outlet taken

theorem outlet_forEach_strike (taken : f.outlet = none) (timers : List Timer) :
    (Emission.forEach strike timers f).state.outlet = none := by
  induction timers generalizing f with
  | nil => exact taken
  | cons timer timers ih => exact ih (outlet_strike taken timer)

theorem forEach_strike_now (taken : f.outlet = none) (timers : List Timer) (time : Nat) :
    Emission.forEach strike timers { f with now := time } =
      atTime time (Emission.forEach strike timers f) := by
  induction timers generalizing f with
  | nil => rfl
  | cons timer timers ih =>
    rw [Emission.forEach_cons, strike_now taken timer time]
    exact andThen_atTime (ih (outlet_strike taken timer))

/-! ### Timers that run out -/

theorem fire_of_taken (taken : f.outlet = none) (timer : Timer) :
    f.fire timer = atTime (max f.now timer.due) (strike timer f) := by
  rw [fire, waitUntil_of_taken taken, ← strike_now taken]
  rfl

/-- Some timers run out, none of them after a given time. -/
theorem runOut_of_taken (taken : f.outlet = none) {timers : List Timer} {time : Nat}
    (due : ∀ timer ∈ timers, timer.due ≤ time) :
    f.runOut timers time = atTime (max f.now time) (Emission.forEach strike timers f) := by
  have waited : (Emission.forEach fire timers f).andThen (waitUntil time) =
      atTime (max f.now time) (Emission.forEach strike timers f) := by
    induction timers generalizing f with
    | nil =>
      rw [Emission.forEach_nil, Emission.andThen, Emission.state_quiet, waitUntil_of_taken taken]
      rfl
    | cons timer timers ih =>
      have taken' := outlet_strike taken timer
      have rest := ih (f := { (strike timer f).state with now := max f.now timer.due }) taken'
        (List.forall_mem_cons.mp due).2
      have clock : max (max f.now timer.due) time = max f.now time := by
        rw [Nat.max_assoc, Nat.max_eq_right (List.forall_mem_cons.mp due).1]
      rw [forEach_strike_now taken', clock] at rest
      rw [Emission.forEach_cons, fire_of_taken taken, Emission.andThen_assoc]
      exact andThen_atTime rest
  have taken' := outlet_forEach_strike taken timers
  rw [runOut, waited, Emission.andThen, goOn_of_taken (by exact taken')]
  simp [Emission.quiet]

/-- **Time passes as if the clock stood still until all timers have run out.** -/
theorem advanceTo_eq (taken : f.outlet = none) (time : Nat) :
    f.advanceTo time =
      atTime (max f.now time) (Emission.forEach strike (f.agenda.due time) f) := by
  have due : ∀ timer ∈ f.agenda.due time, timer.due ≤ time := by
    intro timer h
    simpa using (List.mem_filter.mp h).2
  rw [advanceTo, goOn_of_taken taken, ← runOut_of_taken taken due]
  rfl

/-! ### Rest -/

/-- All timers run out later. -/
def Resting (f : Floor) : Prop :=
  ∀ timer ∈ f.agenda.timers, f.now < timer.due

theorem mem_timers_deliver_expired (taken : f.outlet = none) {hand : HandNumber} {generation : Nat}
    {tableId : TableId} {u : Timer}
    (h : u ∈ (f.deliver (.expired hand generation) tableId).state.agenda.timers) :
    u ∈ f.agenda.timers := by
  unfold deliver at h
  split at h
  · exact h
  · rename_i t _
    obtain ⟨keep, same⟩ := Table.heed_expire hand generation t
    simp only [putOut, heed, taken, Outlet.offer?, Table.handle, same] at h
    exact List.mem_of_mem_filter h

/-- A timer that runs out is gone, and there is no new one. -/
theorem mem_timers_strike (taken : f.outlet = none) {timer u : Timer}
    (h : u ∈ (strike timer f).state.agenda.timers) : u ∈ f.agenda.timers ∧ u ≠ timer := by
  unfold strike at h
  split at h
  · have left := mem_timers_deliver_expired (f := { f with agenda := f.agenda.stop timer.key })
      taken h
    obtain ⟨running, other⟩ := List.mem_filter.mp left
    exact ⟨running, fun same => bne_iff_ne.mp other (congrArg Timer.key same)⟩
  · rename_i stopped
    refine ⟨h, ?_⟩
    rintro rfl
    exact stopped (by simpa using h)

theorem mem_timers_forEach_strike (taken : f.outlet = none) {timers : List Timer} {u : Timer}
    (h : u ∈ (Emission.forEach strike timers f).state.agenda.timers) :
    u ∈ f.agenda.timers ∧ u ∉ timers := by
  induction timers generalizing f with
  | nil => exact ⟨h, List.not_mem_nil⟩
  | cons timer timers ih =>
    obtain ⟨running, later⟩ := ih (outlet_strike taken timer) h
    obtain ⟨started, other⟩ := mem_timers_strike taken running
    exact ⟨started, by simp [other, later]⟩

/-- After time has passed, a floor is at rest. -/
theorem resting_advance (taken : f.outlet = none) (ms : Nat) : Resting (f.advance ms).state := by
  intro u h
  rw [advance, advanceTo_eq taken] at h
  obtain ⟨running, not_due⟩ := mem_timers_forEach_strike taken h
  have later : f.now + ms < u.due := by
    by_contra early
    exact not_due (List.mem_filter.mpr ⟨running, by simpa using Nat.le_of_not_lt early⟩)
  rw [advance, advanceTo_eq taken]
  exact Nat.max_lt.mpr ⟨by omega, later⟩

theorem resting_perform (taken : f.outlet = none) (rest : Resting f) (q : Request) :
    Resting (f.perform q).state := by
  unfold perform
  split
  · rename_i e he
    exact resting_advance ((steps_attempt taken he).outlet taken) 0
  · exact rest

end Showdown.Floor
