import Showdown.Proofs.Table.Clock

/-!
# The window for matching

A hand that is opened while the other source is taken to deliver waits for the length of the window
at most. Whether it is resolved before depends on three kinds of turns only: the other source
observes the hand, or is said to be silent, or the table comes to its end (`Turn.Disturbs`). If
there is none of them, the timer of the opening runs out exactly at the end of the window, and no
other timer does anything to the hand (`bounded_of_opened`), since the table compares the opening
that a timer was started for with the one that waits (`Waits.send_expired`).

No timer runs for more than thirty years, and so the window is never longer than that. And a table
that nobody can send messages to any more comes to its end just as one that is shut down
(`unlike_window`).
-/

namespace Showdown

/-! ### Turns that matter to a waiting hand -/

namespace Table

variable {hand : HandNumber} {u : Turn} {t : Table} {p : Pending} {source : Source}

/-- A turn that resolves a hand which waits for a source. -/
def Turn.Disturbs (hand : HandNumber) (source : Source) (u : Turn) : Prop :=
  u.source? hand = some source ∨ u.tells? source = some .stale ∨ u.ends = true

/-- A hand goes on waiting in a turn that does not disturb it, unless its timer runs out. -/
theorem waits_of_undisturbed (waited : t.pending[hand]? = some p)
    (awaited : p.awaited = some source) (undisturbed : ¬ u.Disturbs hand source)
    (running : u.expires? hand ≠ some p.generation) :
    ∃ q, (take u t).state.pending[hand]? = some q ∧ q.generation = p.generation ∧
      q.awaited = some source ∧ resultsOf hand (take u t).out = [] ∧
      TimersStay hand (take u t).out := by
  cases fate_take hand u t with
  | spared _ _ _ stands =>
    exact ⟨p, stands.pending.trans waited, rfl, awaited, stands.unresolved, stands.timers⟩
  | late _ closed _ _ | opened _ closed _ _ _ _ _ _ _ | cut _ closed _ _ _ =>
    rw [waited] at closed
    cases closed
  | replaced observed waited' held waits unresolved timers =>
    obtain rfl := Option.some.inj (waited.symm.trans waited')
    refine ⟨p.put hand u, waits, rfl, ?_, unresolved, timers⟩
    rw [Pending.awaited_put fun source' observed' => ?_, awaited]
    obtain rfl := Option.some.inj (observed.symm.trans observed')
    exact held
  | resolved waited' cause _ =>
    obtain rfl := Option.some.inj (waited.symm.trans waited')
    exfalso
    cases cause with
    | matched observed missing =>
      have awaited' := Pending.awaited_of_missing (by simp [awaited]) missing
      obtain rfl := Option.some.inj (awaited.symm.trans awaited')
      exact undisturbed (.inl observed)
    | expired runsOut => exact running runsOut
    | stale awaited' told =>
      obtain rfl := Option.some.inj (awaited.symm.trans awaited')
      exact undisturbed (.inr (.inl told))
  | givenUp _ ends _ => exact absurd (.inr (.inr ends)) undisturbed

/-- A hand is resolved in a turn that disturbs it, though not by its timer. -/
theorem goes_of_disturbs (waited : t.pending[hand]? = some p) (awaited : p.awaited = some source)
    (disturbs : u.Disturbs hand source) :
    ∃ r, Goes hand p r t (take u t) ∧ r.resolution ≠ .windowExpired := by
  rcases disturbs with observed | told | ends
  · have cause : Cause hand u p .matched := .matched observed (Pending.missing_of_awaited awaited)
    refine ⟨_, goes_of_cause waited cause, ?_⟩
    rw [fuse, Policy.resolution_decide]
    exact Resolution.noConfusion
  · have cause : Cause hand u p .sourceStale := .stale awaited told
    refine ⟨_, goes_of_cause waited cause, ?_⟩
    rw [fuse, Policy.resolution_decide]
    exact Resolution.noConfusion
  · exact ⟨_, goes_of_ends waited ends, Resolution.noConfusion⟩

end Table

namespace TimedTable

open Table (Turn take)

/-! ### Results and their times -/

/-- The results for a hand, each with its time, in order. -/
def resultsOf (hand : HandNumber) (out : List Stamped) : List (Nat × FusedHand) :=
  (out.filterMap fun o => o.output.fused?.map fun r => (o.time, r)).filter fun x =>
    x.2.handNumber == hand

@[simp] theorem resultsOf_append (hand : HandNumber) (out out' : List Stamped) :
    resultsOf hand (out ++ out') = resultsOf hand out ++ resultsOf hand out' := by
  simp [resultsOf]

theorem resultsOf_stamped (hand : HandNumber) (t : TimedTable) (out : List Table.Output) :
    resultsOf hand (t.stamped out) = (Table.resultsOf hand out).map fun r => (t.now, r) := by
  rw [resultsOf, stamped, List.filterMap_map, Table.resultsOf, Table.results]
  simp only [Function.comp_def, ← List.map_filterMap, List.filter_map]

theorem head?_resultsOf_append {hand : HandNumber} {out : List Stamped} {x : Nat × FusedHand}
    (h : (resultsOf hand out).head? = some x) (out' : List Stamped) :
    (resultsOf hand (out ++ out')).head? = some x := by
  rw [resultsOf_append, List.head?_append, h]
  rfl

theorem head?_of_unresolved {hand : HandNumber} {out out' : List Stamped} {x : Nat × FusedHand}
    (unresolved : resultsOf hand out = []) (h : resultsOf hand out' = [x]) :
    (resultsOf hand (out ++ out')).head? = some x := by
  rw [resultsOf_append, unresolved, h]
  rfl

/-! ### Openings -/

/-- A hand that was opened while the other source was taken to deliver. -/
structure Opening where
  /-- The table. -/
  tableId : TableId
  /-- The hand. -/
  hand : HandNumber
  /-- The number of the opening. -/
  generation : Nat
  /-- The other source. -/
  awaited : Source
  /-- The end of the window. -/
  due : Nat

/-- The key of the timer of an opening. -/
def Opening.key (o : Opening) : TimerKey :=
  ⟨o.tableId, o.hand, o.generation⟩

variable {o : Opening} {t : TimedTable} {settings : Table.Settings} {u : Turn}

/-- The hand waits, and its timer runs. -/
structure Opening.Waits (o : Opening) (t : TimedTable) : Prop where
  /-- Messages are accepted. -/
  accepting : t.accepting = true
  /-- The hand waits for the other source. -/
  pending : ∃ p, t.table.pending[o.hand]? = some p ∧ p.generation = o.generation ∧
    p.awaited = some o.awaited
  /-- The timer runs out at the end of the window. -/
  running : ⟨o.due, o.key⟩ ∈ t.agenda.timers
  /-- There is only one timer for this opening. -/
  alone : ∀ timer ∈ t.agenda.timers, timer.key = o.key → timer.due = o.due

/-- The hand was resolved. It may have been opened again. -/
structure Opening.Over (o : Opening) (t : TimedTable) : Prop where
  /-- The hand does not wait since this opening. -/
  gone : ∀ p, t.table.pending[o.hand]? = some p → p.generation ≠ o.generation
  /-- Whenever it is opened again, it will be another opening. -/
  past : o.generation ≤ t.table.generation

namespace Opening

theorem Waits.settle (w : o.Waits t) (taken : t.outlet = none)
    (undisturbed : ¬ u.Disturbs o.hand o.awaited)
    (running : u.expires? o.hand ≠ some o.generation) :
    o.Waits (t.settle (take u t.table)).state ∧
      resultsOf o.hand (t.settle (take u t.table)).out = [] := by
  obtain ⟨p, waited, generation, awaited⟩ := w.pending
  obtain ⟨q, waits, generation', awaited', unresolved, timers⟩ :=
    Table.waits_of_undisturbed waited awaited undisturbed (generation ▸ running)
  rw [settle_of_taken taken]
  refine ⟨⟨w.accepting, ⟨q, waits, generation'.trans generation, awaited'⟩, ?_,
    fun timer runs own => ?_⟩, ?_⟩
  · exact (timers _ _ ⟨o.due, o.key⟩ rfl).mpr w.running
  · exact w.alone timer ((timers _ _ timer (congrArg TimerKey.hand own)).mp runs) own
  · rw [resultsOf_stamped, unresolved]
    rfl

theorem Waits.stop (w : o.Waits t) {key : TimerKey} (other : key ≠ o.key) :
    o.Waits { t with agenda := t.agenda.stop key } where
  accepting := w.accepting
  pending := w.pending
  running := List.mem_filter.mpr ⟨w.running, bne_iff_ne.mpr other.symm⟩
  alone := fun timer runs own => w.alone timer (List.mem_of_mem_filter runs) own

/-- The hand is resolved in a turn. -/
theorem over_of_goes {p : Table.Pending} {r : FusedHand} (taken : t.outlet = none)
    (past : o.generation ≤ t.table.generation)
    (goes : Table.Goes o.hand p r t.table (take u t.table)) :
    o.Over (t.settle (take u t.table)).state ∧
      resultsOf o.hand (t.settle (take u t.table)).out = [(t.now, r)] := by
  rw [settle_of_taken taken]
  refine ⟨⟨fun q hq => ?_, Nat.le_trans past (Table.le_generation_take u t.table)⟩, ?_⟩
  · rw [goes.gone] at hq
    cases hq
  · rw [resultsOf_stamped, goes.results]
    rfl

theorem Over.settle (h : o.Over t) (taken : t.outlet = none) (u : Turn) :
    o.Over (t.settle (take u t.table)).state := by
  rw [settle_of_taken taken]
  refine ⟨fun q hq => ?_, Nat.le_trans h.past (Table.le_generation_take u t.table)⟩
  cases Table.fate_take o.hand u t.table with
  | spared _ _ _ stands | late _ _ _ stands => exact h.gone q (stands.pending.symm.trans hq)
  | opened _ _ _ _ waits _ _ _ _ =>
    obtain rfl := Option.some.inj (waits.symm.trans hq)
    exact Nat.ne_of_gt (Nat.lt_succ_of_le h.past)
  | replaced _ waited _ waits _ _ =>
    obtain rfl := Option.some.inj (waits.symm.trans hq)
    have before := h.gone _ waited
    exact before
  | cut _ _ _ _ goes | resolved _ _ goes | givenUp _ _ goes =>
    rw [goes.gone] at hq
    cases hq

theorem Waits.past {tableId : TableId} (w : o.Waits t) (h : Regular tableId settings t) :
    o.generation ≤ t.table.generation :=
  h.past _ w.running

/-- The timer of the opening runs out. -/
theorem Waits.expire {tableId : TableId} (w : o.Waits t) (h : Regular tableId settings t) :
    ∃ r, r.resolution = .windowExpired ∧
      o.Over ({ t with agenda := t.agenda.stop o.key }.send (.expired o.hand o.generation)).state ∧
      resultsOf o.hand ({ t with agenda := t.agenda.stop o.key }.send
        (.expired o.hand o.generation)).out = [(t.now, r)] := by
  obtain ⟨p, waited, generation, awaited⟩ := w.pending
  have cause : Table.Cause o.hand (.message (.expired o.hand o.generation)) p .windowExpired :=
    .expired (by simp [Turn.expires?, generation])
  obtain ⟨isOver, results⟩ := over_of_goes (t := { t with agenda := t.agenda.stop o.key }) h.taken
    (w.past h) (Table.goes_of_cause waited cause)
  exact ⟨_, Policy.resolution_decide .., isOver, results⟩

/-- A table hears that a timer has run out, but of another opening or of another hand. -/
theorem Waits.send_expired (w : o.Waits t) (taken : t.outlet = none) {expired : HandNumber}
    {generation : Nat} (other : ¬ (expired = o.hand ∧ generation = o.generation)) :
    o.Waits (t.send (.expired expired generation)).state ∧
      resultsOf o.hand (t.send (.expired expired generation)).out = [] := by
  have undisturbed : ¬ Turn.Disturbs o.hand o.awaited (.message (.expired expired generation)) := by
    rintro (observed | told | ends)
    · cases observed
    · cases told
    · cases ends
  have running : Turn.expires? o.hand (.message (.expired expired generation)) ≠
      some o.generation := by
    intro runsOut
    exact other (by simpa [Turn.expires?, Option.ite_none_right_eq_some] using runsOut)
  exact w.settle taken undisturbed running

/-- The timer of another opening, or of another hand, runs out. -/
theorem Waits.strike (w : o.Waits t) (h : Regular o.tableId settings t) {timer : Timer}
    (other : timer.key ≠ o.key) :
    o.Waits (t.strike timer).state ∧ resultsOf o.hand (t.strike timer).out = [] := by
  by_cases runs : timer ∈ t.agenda.timers
  · rw [strike_of_mem runs, if_pos w.accepting]
    refine (w.stop other).send_expired h.taken fun same => ?_
    refine other (?_ : timer.key = ⟨o.tableId, o.hand, o.generation⟩)
    rw [← same.1, ← same.2, ← h.own timer runs]
  · rw [strike_of_not_mem runs]
    exact ⟨w, rfl⟩

theorem Over.strike (c : o.Over t) (taken : t.outlet = none) (timer : Timer) :
    o.Over (t.strike timer).state := by
  have c' : o.Over { t with agenda := t.agenda.stop timer.key } := ⟨c.gone, c.past⟩
  unfold TimedTable.strike
  split
  · dsimp only
    split
    · exact c'.settle taken (.message (.expired timer.key.hand timer.key.generation))
    · exact c'
  · exact c

end Opening

/-! ### Courses -/

/-- A request for a turn that disturbs the hand. -/
def Request.Disturbs (o : Opening) (q : Request) : Prop :=
  ∃ u, q.turn? = some u ∧ u.Disturbs o.hand o.awaited

/-- The hand is disturbed before the end of the window. -/
def Disturbed (o : Opening) : List Request → TimedTable → Prop
  | [], _ => False
  | q :: qs, t => q.Disturbs o ∧ t.now < o.due ∨ Disturbed o qs (t.perform q).state

/-- The hand is not disturbed just at the end of the window. -/
def Calm (o : Opening) : List Request → TimedTable → Prop
  | [], _ => True
  | q :: qs, t => (q.Disturbs o → t.now ≠ o.due) ∧ Calm o qs (t.perform q).state

theorem calm_of_undisturbed {qs : List Request} (h : ∀ q ∈ qs, ¬ q.Disturbs o) (t : TimedTable) :
    Calm o qs t := by
  induction qs generalizing t with
  | nil => trivial
  | cons q qs ih =>
    obtain ⟨now, later⟩ := List.forall_mem_cons.mp h
    exact ⟨fun disturbs => absurd disturbs now, ih later _⟩

theorem not_disturbed_of_undisturbed {qs : List Request} (h : ∀ q ∈ qs, ¬ q.Disturbs o)
    (t : TimedTable) : ¬ Disturbed o qs t := by
  induction qs generalizing t with
  | nil => exact id
  | cons q qs ih =>
    obtain ⟨now, later⟩ := List.forall_mem_cons.mp h
    rintro (disturbs | disturbed)
    · exact now disturbs.1
    · exact ih later _ disturbed

/-- What has become of an opening, where the hand may have been disturbed in time. -/
inductive Course (o : Opening) (disturbed : Prop) (t : TimedTable) (out : List Stamped) : Prop where
  /-- The hand waits. -/
  | waits (undisturbed : ¬ disturbed) (unresolved : resultsOf o.hand out = []) (waits : o.Waits t)
  /-- The hand was resolved, by its timer if it was not disturbed in time. -/
  | resolved {time : Nat} {r : FusedHand} (first : (resultsOf o.hand out).head? = some (time, r))
    (isOver : o.Over t) (expired : r.resolution = .windowExpired ↔ ¬ disturbed)
    (inTime : r.resolution = .windowExpired → time = o.due ∧ o.due ≤ t.now)

/-- Nobody asks for a timer to run out. -/
theorem expires?_of_asked {q : Request} (asked : q.turn? = some u) (hand : HandNumber) :
    u.expires? hand = none := by
  cases q <;> cases asked <;> rfl

namespace Course

variable {disturbed : Prop} {out : List Stamped} {tableId : TableId}

/-- The hand was resolved before. -/
theorem of_over {time : Nat} {r : FusedHand} (first : (resultsOf o.hand out).head? = some (time, r))
    (expired : r.resolution = .windowExpired ↔ ¬ disturbed)
    (inTime : r.resolution = .windowExpired → time = o.due ∧ o.due ≤ t.now)
    {e : Emission TimedTable Stamped} (isOver : o.Over e.state) (later : t.now ≤ e.state.now) :
    Course o disturbed e.state (out ++ e.out) :=
  .resolved (head?_resultsOf_append first _) isOver expired fun isExpired =>
    (inTime isExpired).imp_right fun due => Nat.le_trans due later

/-- Once the window has ended, it is too late to disturb the hand in time. -/
theorem expired_iff {time : Nat} {r : FusedHand} {disturbs : Prop}
    (expired : r.resolution = .windowExpired ↔ ¬ disturbed)
    (inTime : r.resolution = .windowExpired → time = o.due ∧ o.due ≤ t.now) :
    r.resolution = .windowExpired ↔ ¬ (disturbed ∨ disturbs ∧ t.now < o.due) := by
  refine ⟨fun isExpired => ?_, fun undisturbed => ?_⟩
  · rintro (before | ⟨-, early⟩)
    · exact expired.mp isExpired before
    · exact Nat.not_lt_of_le (inTime isExpired).2 early
  · exact expired.mpr fun before => undisturbed (.inl before)

/-- Nothing that happens while time passes leads off the course. -/
theorem ticks (h : Regular o.tableId settings t) (c : Course o disturbed t out)
    {e : Emission TimedTable Stamped} (s : Ticks t e) :
    Course o disturbed e.state (out ++ e.out) := by
  cases c with
  | waits undisturbed unresolved w =>
    cases s with
    | pass later next =>
      rw [Emission.out_quiet, List.append_nil]
      exact .waits undisturbed unresolved ⟨w.accepting, w.pending, w.running, w.alone⟩
    | @strike timer runs due =>
      by_cases own : timer.key = o.key
      · -- the timer is the one of the opening, and so the window ends now
        have isDue := w.alone timer runs own
        have now : t.now = o.due := Nat.le_antisymm (isDue ▸ h.due timer runs) (isDue ▸ due)
        obtain ⟨r, isExpired, isOver, results⟩ := w.expire h
        rw [strike_of_mem runs, if_pos w.accepting, own]
        exact .resolved (head?_of_unresolved unresolved results) isOver
          ⟨fun _ => undisturbed, fun _ => isExpired⟩ fun _ => ⟨now, Nat.le_of_eq now.symm⟩
      · obtain ⟨waits, results⟩ := w.strike h own
        exact .waits undisturbed (by rw [resultsOf_append, unresolved, results]; rfl) waits
  | resolved first isOver expired inTime =>
    cases s with
    | pass later next => exact of_over first expired inTime ⟨isOver.gone, isOver.past⟩ later
    | strike runs due =>
      exact of_over first expired inTime (isOver.strike h.taken _)
        (Nat.le_of_eq (now_strike _ t).symm)

/-- A turn at a time other than the end of the window. -/
theorem turn (h : Regular o.tableId settings t) (c : Course o disturbed t out)
    (asked : u.expires? o.hand = none) (calm : u.Disturbs o.hand o.awaited → t.now ≠ o.due) :
    Course o (disturbed ∨ u.Disturbs o.hand o.awaited ∧ t.now < o.due) (t.takeTurn u).state
      (out ++ (t.takeTurn u).out) := by
  set t' : TimedTable := { t with accepting := t.accepting && !u.ends }
  cases c with
  | waits undisturbed unresolved w =>
    obtain ⟨p, waited, generation, awaited⟩ := w.pending
    by_cases disturbs : u.Disturbs o.hand o.awaited
    · have early : t.now < o.due :=
        Nat.lt_of_le_of_ne (h.due _ w.running) (calm disturbs)
      obtain ⟨r, goes, notExpired⟩ := Table.goes_of_disturbs waited awaited disturbs
      obtain ⟨isOver, results⟩ := Opening.over_of_goes (t := t') h.taken (w.past h) goes
      exact .resolved (head?_of_unresolved unresolved results) isOver
        ⟨fun isExpired => absurd isExpired notExpired,
          fun undisturbed => absurd (.inr ⟨disturbs, early⟩) undisturbed⟩
        fun isExpired => absurd isExpired notExpired
    · have goesOn : u.ends = false :=
        Bool.eq_false_iff.mpr fun ends => disturbs (.inr (.inr ends))
      have w' : o.Waits t' := ⟨by simp [t', w.accepting, goesOn], w.pending, w.running, w.alone⟩
      obtain ⟨waits, results⟩ := w'.settle h.taken disturbs (by simp [asked])
      refine .waits (fun now => now.elim undisturbed fun d => disturbs d.1) ?_ waits
      rw [resultsOf_append, unresolved]
      exact results
  | resolved first isOver expired inTime =>
    have isOver' : o.Over t' := ⟨isOver.gone, isOver.past⟩
    exact of_over first (expired_iff expired inTime) inTime (isOver'.settle h.taken u)
      (Nat.le_refl _)

theorem congr {disturbed' : Prop} (c : Course o disturbed t out) (same : disturbed ↔ disturbed') :
    Course o disturbed' t out :=
  propext same ▸ c

theorem passes (h : Regular o.tableId settings t) (c : Course o disturbed t out)
    {e : Emission TimedTable Stamped} (s : Chain Ticks t e) :
    Regular o.tableId settings e.state ∧ Course o disturbed e.state (out ++ e.out) :=
  Chain.keeps (P := fun t out => Regular o.tableId settings t ∧ Course o disturbed t out)
    (fun s c => ⟨c.1.ticks s, c.2.ticks c.1 s⟩) s ⟨h, c⟩

theorem perform (h : Regular o.tableId settings t) (c : Course o disturbed t out) (q : Request)
    (calm : q.Disturbs o → t.now ≠ o.due) :
    Course o (disturbed ∨ q.Disturbs o ∧ t.now < o.due) (t.perform q).state
      (out ++ (t.perform q).out) := by
  cases asked : q.turn? with
  | none =>
    refine (c.passes h (ticks_perform h asked)).2.congr (or_iff_left ?_).symm
    rintro ⟨⟨u, asked', _⟩, _⟩
    rw [asked] at asked'
    cases asked'
  | some u =>
    have disturbs : q.Disturbs o ↔ u.Disturbs o.hand o.awaited := by simp [Request.Disturbs, asked]
    rw [disturbs] at calm ⊢
    rw [perform_of_turn asked]
    by_cases accepting : t.accepting
    · rw [if_pos accepting]
      exact c.turn h (expires?_of_asked asked o.hand) calm
    · rw [if_neg accepting, Emission.out_quiet, List.append_nil]
      cases c with
      | waits _ _ w => exact absurd w.accepting accepting
      | resolved first isOver expired inTime =>
        exact .resolved first isOver (expired_iff expired inTime) inTime

theorem run (h : Regular o.tableId settings t) (c : Course o disturbed t out) (qs : List Request)
    (calm : Calm o qs t) :
    Course o (disturbed ∨ Disturbed o qs t) (run qs t).state (out ++ (run qs t).out) := by
  induction qs generalizing t out disturbed with
  | nil => exact (List.append_nil out).symm ▸ c.congr (or_iff_left id).symm
  | cons q qs ih =>
    have rest := ih (h.perform q) (c.perform h q calm.1) calm.2
    rw [List.append_assoc] at rest
    exact rest.congr or_assoc

end Course

/-! ### Bounded waiting -/

/-- A hand that is not known is opened by an observation. -/
theorem waits_opened (h : Regular o.tableId settings t)
    (due : o.due = t.now + Agenda.span settings.matchWindow)
    (generation : o.generation = t.table.generation + 1) {q : Request} (asked : q.turn? = some u)
    (observed : u.source? o.hand = some o.awaited.other) (accepting : t.accepting = true)
    (closed : t.table.pending[o.hand]? = none) (unknown : t.table.history.contains o.hand = false)
    (fresh : t.table.liveness o.awaited = .fresh) :
    o.Waits (t.perform q).state ∧ resultsOf o.hand (t.perform q).out = [] := by
  have other : o.awaited.other.other = o.awaited := by cases o.awaited <;> rfl
  obtain ⟨waits, unresolved, timers⟩ :=
    Table.waits_of_unknown observed closed unknown (other.symm ▸ fresh)
  have goesOn := Turn.ends_of_observed observed
  have tuned := (Table.settings_moves (Table.moves_take u t.table)).trans h.tuned
  have key : t.table.timerKey o.hand (t.table.generation + 1) = o.key := by
    rw [Table.timerKey, h.sameTable, Opening.key, generation]
  rw [perform_of_turn asked, if_pos accepting, takeTurn, settle_of_taken (by exact h.taken), tuned,
    ← due]
  rw [key] at timers
  refine ⟨⟨by simp [accepting, goesOn], ⟨_, waits, generation.symm, ?_⟩, ?_, ?_⟩, ?_⟩
  · rw [Table.Pending.awaited_of_observed observed, other]
  · exact (timers _ _ _ rfl).mpr (.inl rfl)
  · intro timer runs own
    rcases (timers _ _ timer (congrArg TimerKey.hand own)).mp runs with rfl | before
    · rfl
    · have past := h.past timer before
      have new : t.table.generation < o.generation := generation ▸ Nat.lt_succ_self _
      rw [own] at past
      exact absurd past (Nat.not_le_of_gt new)
  · rw [resultsOf_stamped, unresolved]
    rfl

/-- **A hand waits for the length of the window at most.** It is opened by an observation while the
other source is taken to deliver, and nothing disturbs it just when the window ends. Then it does
not wait any more when the window has ended and all timers that are due have run out. It was
resolved by its timer, exactly at the end of the window, unless it was disturbed before. While it
waits, it is not resolved by what the table hears of timers of other openings or other hands, be it
at any time and whether such a timer was running or not. -/
theorem bounded_of_opened {tableId : TableId} {settings : Table.Settings} {before : List Request}
    {t : TimedTable} (reached : (run before (opened tableId settings)).state = t)
    {q : Request} {u : Turn} (asked : q.turn? = some u) {hand : HandNumber} {awaited : Source}
    (observed : u.source? hand = some awaited.other) (accepting : t.accepting = true)
    (closed : t.table.pending[hand]? = none) (unknown : t.table.history.contains hand = false)
    (fresh : t.table.liveness awaited = .fresh) (after : List Request) :
    let o : Opening := ⟨tableId, hand, t.table.generation + 1, awaited,
      t.now + Agenda.span settings.matchWindow⟩
    let e := run (q :: after) t
    Calm o after (t.perform q).state →
      (o.due ≤ e.state.now → e.state.agenda.due e.state.now = [] →
        (∀ p, e.state.table.pending[hand]? = some p → p.generation ≠ o.generation) ∧
        ∃ time r, (resultsOf hand e.out).head? = some (time, r) ∧
          (r.resolution = .windowExpired ↔ ¬ Disturbed o after (t.perform q).state) ∧
          (r.resolution = .windowExpired → time = o.due)) ∧
      ∀ e', Chain Ticks e.state e' →
        ∀ p, e'.state.table.pending[hand]? = some p → p.generation = o.generation →
          (∀ (expired : HandNumber) (generation : Nat),
            ¬ (expired = hand ∧ generation = o.generation) →
              o.Waits (e'.state.send (.expired expired generation)).state ∧
                resultsOf hand (e'.state.send (.expired expired generation)).out = []) ∧
          ∀ timer, timer.key ≠ o.key →
            o.Waits (e'.state.strike timer).state ∧
              resultsOf hand (e'.state.strike timer).out = [] := by
  intro o e calm
  have h : Regular tableId settings t := reached ▸ (regular_opened tableId settings).run before
  obtain ⟨waits, unresolved⟩ := waits_opened (o := o) h rfl rfl asked observed accepting closed
    unknown fresh
  have start : Course o False (t.perform q).state (t.perform q).out :=
    .waits id unresolved waits
  have course := (start.run (h.perform q) after calm).congr (iff_of_eq (false_or _))
  have h' : Regular tableId settings e.state := h.run (q :: after)
  refine ⟨fun ended rest => ?_, fun e' passes p waited generation => ?_⟩
  · cases course with
    | waits _ _ w =>
      have isDue : ⟨o.due, o.key⟩ ∈ e.state.agenda.due e.state.now :=
        List.mem_filter.mpr ⟨w.running, by simpa using ended⟩
      rw [rest] at isDue
      cases isDue
    | resolved first isOver expired inTime =>
      exact ⟨isOver.gone, _, _, first, expired, fun isExpired => (inTime isExpired).1⟩
  · obtain ⟨h'', course'⟩ := course.passes h' passes
    cases course' with
    | waits _ _ w =>
      exact ⟨fun _ _ other => w.send_expired h''.taken other, fun _ other => w.strike h'' other⟩
    | resolved _ isOver _ _ => exact absurd generation (isOver.gone p waited)

/-- Time passes, and the video observes a hand once more. -/
def onceMore : List Request :=
  [.advance 600, .secondary Table.unnamed, .advance 400]

/-- The second observation does not start the window anew. -/
theorem bounded_of_onceMore : ∃ r,
    (resultsOf 7 (run (.secondary Table.unnamed :: onceMore)
      (opened "T1" ⟨.standard, 1000, 3⟩)).out).head? = some (1000, r) ∧
    r.resolution = .windowExpired := by
  have undisturbed : ∀ q ∈ onceMore, ¬ q.Disturbs ⟨"T1", 7, 1, .primary, 1000⟩ := by
    simp [onceMore, Request.Disturbs, Request.turn?, Turn.Disturbs, Turn.source?, Turn.tells?,
      Turn.ends]
  have reached : (run [] (opened "T1" ⟨.standard, 1000, 3⟩)).state =
      opened "T1" ⟨.standard, 1000, 3⟩ := rfl
  have asked : (Request.secondary Table.unnamed).turn? =
      some (.message (.secondary Table.unnamed)) := rfl
  have observed : Turn.source? 7 (.message (.secondary Table.unnamed)) =
      some Source.primary.other := rfl
  obtain ⟨inTime, -⟩ := bounded_of_opened reached asked observed rfl rfl rfl rfl onceMore
    (calm_of_undisturbed undisturbed _)
  obtain ⟨-, time, r, first, expired, atDue⟩ := inTime (by decide +kernel) (by decide +kernel)
  have isExpired := expired.mpr (not_disturbed_of_undisturbed undisturbed _)
  obtain rfl : time = 1000 := atDue isExpired
  exact ⟨r, first, isExpired⟩

/-- **A table that nobody can send messages to any more does not wait for the window to end**, and
no timer runs for more than thirty years, however long the window. -/
theorem unlike_window :
    ¬ (∀ (settings : Table.Settings) (s : Sighting) (after : List Request),
      (∀ q ∈ after, ∀ m, q.turn? = some (.message m) →
        ¬ Turn.Disturbs s.handNumber .primary (.message m)) →
      let e := run (.secondary s :: after) (opened "T1" settings)
      settings.matchWindow ≤ e.state.now → e.state.agenda.due e.state.now = [] →
        ∃ r, (resultsOf s.handNumber e.out).head? = some (settings.matchWindow, r) ∧
          r.resolution = .windowExpired) ∧
    (resultsOf 7 (run [.secondary Table.unnamed, .abandon, .advance 1000]
      (opened "T1" ⟨.standard, 1000, 3⟩)).out).map (fun x => (x.1, x.2.resolution)) =
        [(0, .shutdown)] ∧
    (resultsOf 7 (run [.secondary Table.unnamed, .advance 1000000000000]
      (opened "T1" ⟨.standard, 1000000000000, 3⟩)).out).map (fun x => (x.1, x.2.resolution)) =
        [(946080000000, .windowExpired)] := by
  have deserted : (resultsOf 7 (run [.secondary Table.unnamed, .abandon, .advance 1000]
      (opened "T1" ⟨.standard, 1000, 3⟩)).out).map (fun x => (x.1, x.2.resolution)) =
        [(0, .shutdown)] := by decide +kernel
  refine ⟨fun claim => ?_, deserted, by decide +kernel⟩
  have undisturbed : ∀ q ∈ [Request.abandon, .advance 1000], ∀ m, q.turn? = some (.message m) →
      ¬ Turn.Disturbs 7 .primary (.message m) := by
    simp [Request.turn?]
  obtain ⟨r, first, -⟩ := claim ⟨.standard, 1000, 3⟩ Table.unnamed [.abandon, .advance 1000]
    undisturbed (by decide +kernel) (by decide +kernel)
  have given := congrArg List.head? deserted
  rw [List.head?_map] at given
  cases given.symm.trans (congrArg (Option.map fun x => (x.1, x.2.resolution)) first)

end TimedTable

end Showdown
