import Showdown.Proofs.Table.Window

/-!
# A hand by itself

All that matters to one hand of a table is the time, whether messages are accepted, which sources
deliver, and how far the hand has come. A `Solo` is just that, a machine without other hands,
without openings and their numbers, and without timers. A table shows each of its hands as it is by
itself (`Solo.Shows`), and goes on doing so in every turn (`Solo.Shows.takeTurn`) and while time
passes (`Solo.Shows.ticks`). An observation may open a hand, and whether it does depends on the
hands that the table remembers; there the table must not have forgotten any.
-/

namespace Showdown.TimedTable

open Table (Turn take)

/-! ### A hand by itself -/

/-- How far a hand has come. -/
inductive Stage where
  /-- It has not been observed. -/
  | unseen
  /-- It waits, up to a given time. -/
  | waits (p : Table.Pending) (due : Nat)
  /-- It was resolved. -/
  | resolved

/-- A hand by itself, with all that matters to it. -/
structure Solo where
  /-- The table. -/
  tableId : TableId
  /-- What the table is tuned by. -/
  settings : Table.Settings
  /-- The hand. -/
  hand : HandNumber
  /-- The time. -/
  now : Nat
  /-- Messages are accepted. -/
  accepting : Bool
  /-- Whether a source delivers. -/
  liveness : Source → Liveness
  /-- How far the hand has come. -/
  stage : Stage

namespace Solo

/-- A hand of a table that is opened at time zero. -/
def opened (tableId : TableId) (settings : Table.Settings) (hand : HandNumber) : Solo :=
  ⟨tableId, settings, hand, 0, true, fun _ => .fresh, .unseen⟩

/-- What the policy makes of the hand. -/
def fuse (a : Solo) (p : Table.Pending) (resolution : Resolution) : FusedHand :=
  a.settings.policy.decide ⟨a.tableId, a.hand⟩ p.primary p.secondary resolution

/-- What becomes of the hand when it is observed for the first time. -/
def begin (u : Turn) (source : Source) (a : Solo) : Emission Stage FusedHand :=
  let p : Table.Pending := ⟨u.primary? a.hand, u.secondary? a.hand, 0, true⟩
  match a.liveness source.other with
  | .fresh => .quiet (.waits p (a.now + Agenda.span a.settings.matchWindow))
  | .stale => ⟨.resolved, [a.fuse p .sourceStale]⟩

/-- What becomes of the hand in a turn while it waits. -/
def goOn (u : Turn) (p : Table.Pending) (due : Nat) (a : Solo) : Emission Stage FusedHand :=
  match u.source? a.hand with
  | some source =>
    if p.has source then .quiet (.waits (p.put a.hand u) due)
    else ⟨.resolved, [a.fuse (p.put a.hand u) .matched]⟩
  | none =>
    if p.awaited.bind (u.tells? ·) = some .stale then ⟨.resolved, [a.fuse p .sourceStale]⟩
    else if u.ends then ⟨.resolved, [Policy.unclassified ⟨a.tableId, a.hand⟩ .shutdown]⟩
    else .quiet (.waits p due)

/-- What becomes of the hand in a turn. -/
def become (u : Turn) (a : Solo) : Emission Stage FusedHand :=
  match a.stage with
  | .unseen =>
    match u.source? a.hand with
    | some source => a.begin u source
    | none => .quiet .unseen
  | .waits p due => a.goOn u p due
  | .resolved => .quiet .resolved

/-- After a turn, in which something has become of the hand. -/
def after (u : Turn) (e : Emission Stage FusedHand) (a : Solo) : Emission Solo (Nat × FusedHand) :=
  ⟨{ a with
      accepting := a.accepting && !u.ends
      liveness := fun source => (u.tells? source).getD (a.liveness source)
      stage := e.state },
    e.out.map fun r => (a.now, r)⟩

/-- A turn is taken now. -/
def takeTurn (u : Turn) (a : Solo) : Emission Solo (Nat × FusedHand) :=
  a.after u (a.become u)

/-- It becomes a given time. A hand that waits up to a time before is resolved, and so is one that
waits up to just then, if the moment is over. -/
def pass (time : Nat) (isOver : Bool) (a : Solo) : Emission Solo (Nat × FusedHand) :=
  match a.stage with
  | .waits p due =>
    if due < time ∨ due = time ∧ isOver then
      ⟨{ a with now := time, stage := .resolved }, [(due, a.fuse p .windowExpired)]⟩
    else .quiet { a with now := time }
  | .unseen | .resolved => .quiet { a with now := time }

/-- What is asked of the table happens to the hand. In haste there is one timer, and so it runs out
if any are to do so. -/
def perform (q : Request) (a : Solo) : Emission Solo (Nat × FusedHand) :=
  match q, q.turn? with
  | .advance ms, _ => a.pass (a.now + ms) true
  | .hasten count ms, _ => a.pass (a.now + ms) (0 < count)
  | _, some u => if a.accepting then a.takeTurn u else .quiet a
  | _, none => .quiet a

/-- What is asked of the table happens to the hand, one request after another. -/
def run : List Request → Solo → Emission Solo (Nat × FusedHand) :=
  Emission.forEach perform

theorem perform_of_turn {q : Request} {u : Turn} (h : q.turn? = some u) (a : Solo) :
    a.perform q = if a.accepting then a.takeTurn u else .quiet a := by
  cases q <;> cases h <;> rfl

end Solo

/-! ### A hand of a table -/

/-- A table that has resolved some hands shows how far a hand has come. -/
inductive Stage.Shows (hand : HandNumber) (hands : List HandNumber) (t : TimedTable) :
    Stage → Prop where
  /-- It was never opened. -/
  | unseen (closed : t.table.pending[hand]? = none) (unresolved : hand ∉ hands)
    (untimed : ∀ timer ∈ t.agenda.timers, timer.key.hand ≠ hand) : Shows hand hands t .unseen
  /-- It waits, and its timer runs. The number of the opening does not matter. -/
  | waits {p : Table.Pending} {due generation : Nat} (accepting : t.accepting = true)
    (timed : p.timed = true)
    (waited : t.table.pending[hand]? = some { p with generation := generation })
    (timers : ∀ timer : Timer, timer.key.hand = hand →
      (timer ∈ t.agenda.timers ↔ timer = ⟨due, t.table.timerKey hand generation⟩)) :
    Shows hand hands t (.waits p due)
  /-- It is among the hands that were resolved. -/
  | resolved (closed : t.table.pending[hand]? = none) (mem : hand ∈ hands)
    (untimed : ∀ timer ∈ t.agenda.timers, timer.key.hand ≠ hand) : Shows hand hands t .resolved

/-- A table that has resolved some hands agrees with a hand by itself on all but the hand. -/
structure Solo.Fits (a : Solo) (hands : List HandNumber) (t : TimedTable) : Prop where
  /-- The table was opened as it should. -/
  regular : Regular a.tableId a.settings t
  /-- It remembers the hands as it should. -/
  remembers : t.table.Remembers hands
  /-- It is the same time. -/
  now : t.now = a.now
  /-- Messages are accepted. -/
  accepting : t.accepting = a.accepting
  /-- The same sources deliver. -/
  liveness : t.table.liveness = a.liveness

/-- A table that has resolved some hands shows one of its hands as it is by itself. -/
structure Solo.Shows (a : Solo) (hands : List HandNumber) (t : TimedTable) : Prop extends
    a.Fits hands t where
  /-- The hand has come as far. -/
  stage : a.stage.Shows a.hand hands t

theorem Solo.shows_opened (tableId : TableId) (settings : Table.Settings) (hand : HandNumber) :
    (Solo.opened tableId settings hand).Shows [] (TimedTable.opened tableId settings) where
  regular := regular_opened tableId settings
  remembers := Table.remembers_opened tableId settings
  now := rfl
  accepting := rfl
  liveness := by
    funext source
    cases source <;> rfl
  stage := .unseen Std.TreeMap.getElem?_emptyc List.not_mem_nil fun _ runs => nomatch runs

/-- The hands of the results among some outputs of a table in time, in order. -/
def resolved (out : List Stamped) : List HandNumber :=
  Table.resolved (out.map Stamped.output)

@[simp] theorem resolved_append (out out' : List Stamped) :
    resolved (out ++ out') = resolved out ++ resolved out' := by
  simp [resolved]

@[simp] theorem resolved_stamped (t : TimedTable) (out : List Table.Output) :
    resolved (t.stamped out) = Table.resolved out := by
  simp [resolved, stamped, Function.comp_def]

/-! ### Turns -/

theorem takeTurn_of_taken {t : TimedTable} (taken : t.outlet = none) (u : Turn) :
    t.takeTurn u =
      ⟨{ t with
          accepting := t.accepting && !u.ends
          table := (take u t.table).state
          agenda := (take u t.table).out.foldl
            (Agenda.heed (t.now + Agenda.span (take u t.table).state.settings.matchWindow))
            t.agenda },
        t.stamped (take u t.table).out⟩ :=
  settle_of_taken (t := { t with accepting := t.accepting && !u.ends }) taken _

/-- A timer that runs out is a turn. -/
theorem send_expired (t : TimedTable) (hand : HandNumber) (generation : Nat) :
    t.send (.expired hand generation) = t.takeTurn (.message (.expired hand generation)) := by
  simp [send, TimedTable.takeTurn, Turn.ends, take]

namespace Stage

variable {hand : HandNumber} {hands : List HandNumber} {t : TimedTable} {u : Turn}

/-- After a turn a table shows how far a hand has come, and has put out its results. -/
structure Follows (hand : HandNumber) (hands : List HandNumber) (u : Turn) (t : TimedTable)
    (e : Emission Stage FusedHand) : Prop where
  /-- How far the hand has come. -/
  stage : e.state.Shows hand (hands ++ Table.resolved (take u t.table).out) (t.takeTurn u).state
  /-- Its results. -/
  results : Table.resultsOf hand (take u t.table).out = e.out

theorem timerKey_takeTurn (taken : t.outlet = none) (generation : Nat) :
    (t.takeTurn u).state.table.timerKey hand generation = t.table.timerKey hand generation := by
  rw [takeTurn_of_taken taken, Table.timerKey, Table.timerKey,
    Table.tableId_moves (Table.moves_take u t.table)]

theorem accepting_takeTurn (taken : t.outlet = none) (accepting : t.accepting = true)
    (goesOn : u.ends = false) : (t.takeTurn u).state.accepting = true := by
  rw [takeTurn_of_taken taken]
  simp [accepting, goesOn]

/-- How far a hand has come is a matter of that hand, and of its timers. -/
theorem Shows.congr {stage : Stage} (h : stage.Shows hand hands t) {hands' : List HandNumber}
    {t' : TimedTable} (mem : hand ∈ hands' ↔ hand ∈ hands)
    (pending : t'.table.pending[hand]? = t.table.pending[hand]?)
    (accepting : t.table.pending[hand]?.isSome → t.accepting = true → t'.accepting = true)
    (timerKey : ∀ generation, t'.table.timerKey hand generation = t.table.timerKey hand generation)
    (timers : ∀ timer : Timer, timer.key.hand = hand →
      (timer ∈ t'.agenda.timers ↔ timer ∈ t.agenda.timers)) :
    stage.Shows hand hands' t' := by
  cases h with
  | unseen closed unresolved untimed =>
    exact .unseen (pending.trans closed) (mt mem.mp unresolved) fun timer runs own =>
      untimed timer ((timers timer own).mp runs) own
  | waits accepts timed waited timers' =>
    refine .waits (accepting (by simp [waited]) accepts) timed (pending.trans waited)
      fun timer own => ?_
    rw [timers timer own, timers' timer own, timerKey]
  | resolved closed among untimed =>
    exact .resolved (pending.trans closed) (mem.mpr among) fun timer runs own =>
      untimed timer ((timers timer own).mp runs) own

/-- A hand that stands has come no further. -/
theorem Shows.stand {stage : Stage} (h : stage.Shows hand hands t) (taken : t.outlet = none)
    (goesOn : t.table.pending[hand]?.isSome → u.ends = false)
    (stands : Table.Stands hand t.table (take u t.table)) :
    Follows hand hands u t (.quiet stage) := by
  have notNew : hand ∉ Table.resolved (take u t.table).out := fun mem =>
    (Table.mem_resolved_iff _ hand).mp mem stands.unresolved
  refine ⟨h.congr (List.mem_append.trans (or_iff_left notNew)) ?_
    (fun waits accepting => accepting_takeTurn taken accepting (goesOn waits))
    (timerKey_takeTurn taken) ?_, stands.unresolved⟩
  · rw [takeTurn_of_taken taken]
    exact stands.pending
  · rw [takeTurn_of_taken taken]
    exact fun timer own => stands.timers _ _ timer own

/-- A hand that leaves is resolved. -/
theorem follows_of_goes {p : Table.Pending} {r : FusedHand} (taken : t.outlet = none)
    (goes : Table.Goes hand p r t.table (take u t.table))
    (own : ∀ timer ∈ t.agenda.timers, timer.key.hand = hand →
      p.timed = true ∧ timer.key = t.table.timerKey hand p.generation) :
    Follows hand hands u t ⟨.resolved, [r]⟩ := by
  refine ⟨?_, goes.results⟩
  rw [takeTurn_of_taken taken]
  refine .resolved goes.gone (List.mem_append_right _ ?_) fun timer runs mine => ?_
  · exact (Table.mem_resolved_iff _ hand).mpr (by simp [goes.results])
  · obtain ⟨ran, kept⟩ := (goes.timers _ _ timer mine).mp runs
    exact kept (own timer ran mine)

end Stage

namespace Solo

variable {a : Solo} {hands : List HandNumber} {t : TimedTable} {u : Turn}

/-- What the policy makes of the hand is what the table makes of it, whatever the opening. -/
theorem Shows.fuse (h : a.Shows hands t) (p : Table.Pending) (resolution : Resolution) :
    t.table.fuse a.hand p resolution = a.fuse p resolution := by
  rw [Table.fuse, h.regular.tuned, Table.handId, h.regular.sameTable]
  rfl

/-- A hand that was not observed before. -/
theorem Shows.become_unseen (h : a.Shows hands t) (unseen : a.stage = .unseen)
    (accepting : t.accepting = true)
    (few : (u.source? a.hand).isSome → hands.length ≤ Table.History.capacity) :
    Stage.Follows a.hand hands u t (a.become u) := by
  have shown := h.stage
  rw [unseen] at shown
  obtain ⟨closed, unresolved, untimed⟩ := id shown
  have taken := h.regular.taken
  cases Table.fate_take a.hand u t.table with
  | spared unobserved _ _ stands =>
    have same : a.become u = .quiet .unseen := by simp [become, unseen, unobserved]
    exact same ▸ shown.stand taken (by simp [closed]) stands
  | late observed _ remembered _ =>
    exact absurd ((h.remembers.contains_iff (few (by simp [observed])) _).mp remembered) unresolved
  | opened observed _ _ fresh waits _ unresolved _ timers =>
    have same : a.become u = .quiet (.waits ⟨u.primary? a.hand, u.secondary? a.hand, 0, true⟩
        (a.now + Agenda.span a.settings.matchWindow)) := by
      simp [become, unseen, observed, begin, ← h.liveness, fresh]
    have goesOn := Turn.ends_of_observed observed
    have tuned := (Table.settings_moves (Table.moves_take u t.table)).trans h.regular.tuned
    have pending : (t.takeTurn u).state.table.pending[a.hand]? =
        some ⟨u.primary? a.hand, u.secondary? a.hand, t.table.generation + 1, true⟩ := by
      rw [takeTurn_of_taken taken]
      exact waits
    rw [same]
    refine ⟨.waits (Stage.accepting_takeTurn taken accepting goesOn) rfl pending
      fun timer own => ?_, unresolved⟩
    rw [Stage.timerKey_takeTurn taken, takeTurn_of_taken taken, timers _ _ timer own, tuned, h.now]
    exact or_iff_left fun runs => untimed timer runs own
  | cut observed _ _ stale goes =>
    have same : a.become u =
        ⟨.resolved, [a.fuse ⟨u.primary? a.hand, u.secondary? a.hand, 0, true⟩ .sourceStale]⟩ := by
      simp [become, unseen, observed, begin, ← h.liveness, stale]
    rw [h.fuse] at goes
    exact same ▸ Stage.follows_of_goes taken goes fun timer runs own =>
      absurd own (untimed timer runs)
  | replaced _ waited _ _ _ _ | resolved waited _ _ | givenUp waited _ _ =>
    rw [closed] at waited
    cases waited

/-- A hand that waits. -/
theorem Shows.become_waits (h : a.Shows hands t) {p : Table.Pending} {due : Nat}
    (waits : a.stage = .waits p due) (asked : u.expires? a.hand = none) :
    Stage.Follows a.hand hands u t (a.become u) := by
  have shown := h.stage
  rw [waits] at shown
  have taken := h.regular.taken
  have become : a.become u = a.goOn u p due := by simp [Solo.become, waits]
  rw [become]
  cases id shown with
  | @waits _ _ generation accepting timed waited timers =>
  have own : ∀ timer ∈ t.agenda.timers, timer.key.hand = a.hand →
      p.timed = true ∧ timer.key = t.table.timerKey a.hand generation := fun timer runs mine =>
    ⟨timed, congrArg Timer.key ((timers timer mine).mp runs)⟩
  cases Table.fate_take a.hand u t.table with
  | spared unobserved noCause goesOn stands =>
    have fresh : p.awaited.bind (u.tells? ·) ≠ some .stale := fun stale => by
      obtain ⟨source, awaited, told⟩ := Option.bind_eq_some_iff.mp stale
      exact noCause _ _ waited (.stale awaited told)
    have same : a.goOn u p due = .quiet (.waits p due) := by
      simp [goOn, unobserved, fresh, goesOn (by simp [waited])]
    exact same ▸ shown.stand taken goesOn stands
  | late _ closed _ _ | opened _ closed _ _ _ _ _ _ _ | cut _ closed _ _ _ =>
    rw [waited] at closed
    cases closed
  | @replaced source observed _ waited' held waits' unresolved timers' =>
    obtain rfl := Option.some.inj (waited.symm.trans waited')
    have held : p.has source = true := held
    have same : a.goOn u p due = .quiet (.waits (p.put a.hand u) due) := by
      simp [goOn, observed, held]
    have goesOn := Turn.ends_of_observed observed
    have pending : (t.takeTurn u).state.table.pending[a.hand]? =
        some { p.put a.hand u with generation := generation } := by
      rw [takeTurn_of_taken taken]
      exact waits'
    rw [same]
    refine ⟨.waits (Stage.accepting_takeTurn taken accepting goesOn) timed pending
      fun timer mine => ?_, unresolved⟩
    rw [Stage.timerKey_takeTurn taken, takeTurn_of_taken taken, timers' _ _ timer mine,
      timers timer mine]
  | resolved waited' cause goes =>
    obtain rfl := Option.some.inj (waited.symm.trans waited')
    rw [h.fuse] at goes
    cases cause with
    | @matched source observed missing =>
      have missing : p.has source = false := missing
      have same : a.goOn u p due = ⟨.resolved, [a.fuse (p.put a.hand u) .matched]⟩ := by
        simp [goOn, observed, missing]
      exact same ▸ Stage.follows_of_goes taken goes own
    | expired runsOut =>
      rw [asked] at runsOut
      cases runsOut
    | @stale source awaited told =>
      have awaited : p.awaited = some source := awaited
      have unobserved := Turn.source?_of_told told a.hand
      have same : a.goOn u p due = ⟨.resolved, [a.fuse p .sourceStale]⟩ := by
        simp [goOn, unobserved, awaited, told]
      rw [Table.Pending.put_of_unobserved unobserved] at goes
      exact same ▸ Stage.follows_of_goes taken goes own
  | givenUp waited' ends goes =>
    obtain rfl := Option.some.inj (waited.symm.trans waited')
    have same : a.goOn u p due =
        ⟨.resolved, [Policy.unclassified ⟨a.tableId, a.hand⟩ .shutdown]⟩ := by
      simp [goOn, Turn.source?_of_ends ends, funext (Turn.tells?_of_ends ends), ends]
    rw [Table.handId, h.regular.sameTable] at goes
    exact same ▸ Stage.follows_of_goes taken goes own

/-- A hand that was resolved. -/
theorem Shows.become_resolved (h : a.Shows hands t) (resolved : a.stage = .resolved)
    (few : (u.source? a.hand).isSome → hands.length ≤ Table.History.capacity) :
    Stage.Follows a.hand hands u t (a.become u) := by
  have shown := h.stage
  rw [resolved] at shown
  have same : a.become u = .quiet .resolved := by simp [become, resolved]
  rw [same]
  cases id shown with
  | resolved closed mem _ =>
  cases Table.fate_take a.hand u t.table with
  | spared _ _ _ stands | late _ _ _ stands =>
    exact shown.stand h.regular.taken (by simp [closed]) stands
  | opened observed _ unknown _ _ _ _ _ _ | cut observed _ unknown _ _ =>
    have known := (h.remembers.contains_iff (few (by simp [observed])) _).mpr mem
    rw [known] at unknown
    cases unknown
  | replaced _ waited _ _ _ _ | resolved waited _ _ | givenUp waited _ _ =>
    rw [closed] at waited
    cases waited

/-- A table has put out for a hand what the hand has put out by itself, and shows it as it is. -/
structure Mirrors (hand : HandNumber) (hands : List HandNumber) (e : Emission TimedTable Stamped)
    (b : Emission Solo (Nat × FusedHand)) : Prop where
  /-- The hand is shown. -/
  state : b.state.Shows (hands ++ resolved e.out) e.state
  /-- The results and their times are the same. -/
  results : resultsOf hand e.out = b.out

theorem mirrors_quiet (h : a.Shows hands t) (hand : HandNumber) :
    Mirrors hand hands (.quiet t) (.quiet a) :=
  ⟨(List.append_nil hands).symm ▸ h, rfl⟩

theorem Mirrors.andThen {hand : HandNumber} {e : Emission TimedTable Stamped}
    {b : Emission Solo (Nat × FusedHand)} {f : TimedTable → Emission TimedTable Stamped}
    {g : Solo → Emission Solo (Nat × FusedHand)} (m : Mirrors hand hands e b)
    (m' : Mirrors hand (hands ++ resolved e.out) (f e.state) (g b.state)) :
    Mirrors hand hands (e.andThen f) (b.andThen g) where
  state := by
    rw [Emission.out_andThen, resolved_append, ← List.append_assoc]
    exact m'.state
  results := by rw [Emission.out_andThen, resultsOf_append, m.results, m'.results]; rfl

theorem Fits.after (h : a.Fits hands t) {e : Emission Stage FusedHand}
    (follows : Stage.Follows a.hand hands u t e) :
    Mirrors a.hand hands (t.takeTurn u) (a.after u e) := by
  have regular := h.regular.takeTurn u
  have stage := follows.stage
  rw [takeTurn_of_taken h.regular.taken] at regular stage ⊢
  refine ⟨?_, ?_⟩
  · rw [resolved_stamped]
    refine ⟨⟨regular, h.remembers.moves (Table.moves_take u t.table), h.now, ?_, ?_⟩, stage⟩
    · exact congrArg (· && !u.ends) h.accepting
    · funext source
      exact (Table.liveness_take u t.table source).trans (by rw [h.liveness]; rfl)
  · rw [resultsOf_stamped, follows.results, h.now]
    rfl

/-- **A turn does to a hand of a table what it does to the hand by itself.** -/
theorem Shows.takeTurn (h : a.Shows hands t) (accepting : t.accepting = true)
    (asked : u.expires? a.hand = none)
    (few : (u.source? a.hand).isSome → hands.length ≤ Table.History.capacity) :
    Mirrors a.hand hands (t.takeTurn u) (a.takeTurn u) := by
  refine h.after ?_
  cases stage : a.stage with
  | unseen => exact h.become_unseen stage accepting few
  | waits p due => exact h.become_waits stage asked
  | resolved => exact h.become_resolved stage few

/-! ### Time that passes -/

/-- A turn in which nothing happens to a hand, nor to the table as a whole. -/
structure Spares (hand : HandNumber) (u : Turn) : Prop where
  /-- The hand is not observed. -/
  unobserved : u.source? hand = none
  /-- Nothing is said of the sources. -/
  untold : ∀ source, u.tells? source = none
  /-- It is not the last turn. -/
  goesOn : u.ends = false

theorem takeTurn_of_spares (spares : Spares a.hand u) : a.takeTurn u = .quiet a := by
  obtain ⟨tableId, settings, hand, now, accepting, liveness, stage⟩ := a
  obtain ⟨unobserved, untold, goesOn⟩ := spares
  cases stage <;>
    simp [takeTurn, Solo.after, become, Solo.goOn, unobserved, untold, goesOn, Emission.quiet]

theorem spares_expired (hand other : HandNumber) (generation : Nat) :
    Spares hand (.message (.expired other generation)) :=
  ⟨rfl, fun _ => rfl, rfl⟩

/-- While a hand waits, its timer runs. -/
theorem Shows.running (h : a.Shows hands t) {p : Table.Pending} {due : Nat}
    (waits : a.stage = .waits p due) : ∃ key, ⟨due, key⟩ ∈ t.agenda.timers := by
  have shown := h.stage
  rw [waits] at shown
  cases shown with
  | waits _ _ _ timers => exact ⟨_, (timers _ rfl).mpr rfl⟩

/-- The timer of another hand is stopped. -/
theorem Shows.stop (h : a.Shows hands t) {key : TimerKey} (other : key.hand ≠ a.hand) :
    a.Shows hands { t with agenda := t.agenda.stop key } := by
  refine ⟨⟨h.regular.stop key, h.remembers, h.now, h.accepting, h.liveness⟩,
    h.stage.congr Iff.rfl rfl (fun _ => id) (fun _ => rfl) fun timer own => ?_⟩
  refine List.mem_filter.trans (and_iff_left (bne_iff_ne.mpr fun same => other ?_))
  rw [← same, own]

/-- The clock goes on, but not past a timer. -/
theorem Shows.wait (h : a.Shows hands t) {time : Nat}
    (next : ∀ timer ∈ t.agenda.timers, time ≤ timer.due) :
    { a with now := time }.Shows hands { t with now := time } :=
  ⟨⟨⟨h.regular.sameTable, h.regular.tuned, h.regular.taken, h.regular.ordered, next,
      h.regular.own, h.regular.past⟩, h.remembers, rfl, h.accepting, h.liveness⟩,
    h.stage.congr Iff.rfl rfl (fun _ => id) (fun _ => rfl) fun _ _ => Iff.rfl⟩

/-- The timer of another hand runs out. -/
theorem Shows.strike_other (h : a.Shows hands t) {timer : Timer} (runs : timer ∈ t.agenda.timers)
    (other : timer.key.hand ≠ a.hand) : Mirrors a.hand hands (t.strike timer) (.quiet a) := by
  have stopped := h.stop other
  rw [strike_of_mem runs]
  split
  · rename_i accepting
    have spares := spares_expired a.hand timer.key.hand timer.key.generation
    have turn := stopped.takeTurn accepting
      (u := .message (.expired timer.key.hand timer.key.generation))
      (by simp [Turn.expires?, other]) (by simp [spares.unobserved])
    rw [takeTurn_of_spares spares] at turn
    rw [send_expired]
    exact turn
  · exact mirrors_quiet stopped a.hand

/-- The timer of the hand runs out. -/
theorem Shows.strike_own (h : a.Shows hands t) {timer : Timer} (runs : timer ∈ t.agenda.timers)
    (own : timer.key.hand = a.hand) (due : timer.due ≤ t.now) :
    ∃ p, a.stage = .waits p a.now ∧ Mirrors a.hand hands (t.strike timer)
      ⟨{ a with stage := .resolved }, [(a.now, a.fuse p .windowExpired)]⟩ := by
  have shown := h.stage
  generalize stage : a.stage = stage' at shown
  cases shown with
  | unseen _ _ untimed | resolved _ _ untimed => exact absurd own (untimed timer runs)
  | @waits p due' generation accepting timed waited timers =>
  obtain rfl := (timers timer own).mp runs
  obtain rfl : due' = a.now := h.now ▸ Nat.le_antisymm due (h.regular.due _ runs)
  set key := t.table.timerKey a.hand generation
  set u : Turn := .message (.expired a.hand generation)
  have cause : Table.Cause a.hand u { p with generation := generation } .windowExpired :=
    .expired (by simp [u, Turn.expires?])
  have goes := Table.goes_of_cause waited cause
  rw [h.fuse, Table.Pending.put_of_unobserved rfl] at goes
  have fits : a.Fits hands { t with agenda := t.agenda.stop key } :=
    ⟨h.regular.stop key, h.remembers, h.now, h.accepting, h.liveness⟩
  have follows : Stage.Follows a.hand hands u { t with agenda := t.agenda.stop key }
      ⟨.resolved, [a.fuse p .windowExpired]⟩ :=
    Stage.follows_of_goes h.regular.taken goes fun timer runs mine =>
      ⟨timed, congrArg Timer.key ((timers timer mine).mp (List.mem_of_mem_filter runs))⟩
  have resolves : a.after u ⟨.resolved, [a.fuse p .windowExpired]⟩ =
      ⟨{ a with stage := .resolved }, [(a.now, a.fuse p .windowExpired)]⟩ := by
    simp [Solo.after, u, Turn.ends, Turn.tells?]
  have turn := fits.after follows
  rw [resolves] at turn
  refine ⟨p, rfl, ?_⟩
  rw [strike_of_mem runs, if_pos accepting, send_expired]
  exact turn

/-- What becomes of the hand while it becomes a given time. -/
inductive Passes (time : Nat) (a : Solo) : Emission Solo (Nat × FusedHand) → Prop where
  /-- It does not wait, or waits on. -/
  | stays (early : ∀ p due, a.stage = .waits p due → time ≤ due) :
    Passes time a (.quiet { a with now := time })
  /-- It has waited long enough. -/
  | expires {p : Table.Pending} {due : Nat} (waited : a.stage = .waits p due) (past : due ≤ time) :
    Passes time a ⟨{ a with now := time, stage := .resolved }, [(due, a.fuse p .windowExpired)]⟩

/-- **While time passes, a hand of a table fares as it would by itself.** -/
theorem Shows.ticks (h : a.Shows hands t) {e : Emission TimedTable Stamped}
    (s : Chain Ticks t e) : ∃ b, a.Passes e.state.now b ∧ Mirrors a.hand hands e b := by
  refine Chain.ensures (P := fun t out => ∃ b, a.Passes t.now b ∧ Mirrors a.hand hands ⟨t, out⟩ b)
    (fun {t e out} s ⟨b, passes, mirrors⟩ => ?_) s ?_
  · have shown := mirrors.state
    cases s with
    | @pass time later next =>
      refine ⟨⟨{ b.state with now := time }, b.out⟩, ?_, ?_⟩
      · cases passes with
        | stays early =>
          refine .stays fun p due waits => ?_
          obtain ⟨key, running⟩ := shown.running waits
          exact next _ running
        | expires waited past => exact .expires waited (Nat.le_trans past later)
      · rw [Emission.out_quiet, List.append_nil]
        exact ⟨shown.wait next, mirrors.results⟩
    | @strike timer runs due =>
      rw [now_strike]
      by_cases own : timer.key.hand = b.state.hand
      · obtain ⟨p, waits, now⟩ := shown.strike_own runs own due
        cases passes with
        | stays _ =>
          exact ⟨_, .expires waits (Nat.le_refl _), mirrors.andThen (f := strike timer)
            (g := fun a => ⟨{ a with stage := .resolved }, [(a.now, a.fuse p .windowExpired)]⟩) now⟩
        | expires _ _ => cases waits
      · have now := shown.strike_other runs own
        refine ⟨b, passes,
          b.andThen_quiet ▸ mirrors.andThen (f := strike timer) (g := .quiet) ?_⟩
        cases passes <;> exact now
  · refine ⟨.quiet a, ?_, mirrors_quiet h a.hand⟩
    have stays : a.Passes a.now (.quiet { a with now := a.now }) := .stays fun p due waits => by
      obtain ⟨key, running⟩ := h.running waits
      exact h.now ▸ h.regular.due _ running
    exact h.now ▸ stays

theorem pass_of_early {time : Nat} {isOver : Bool}
    (early : ∀ p due, a.stage = .waits p due → time < due ∨ due = time ∧ isOver = false) :
    a.pass time isOver = .quiet { a with now := time } := by
  cases stage : a.stage with
  | unseen | resolved => simp [pass, stage]
  | waits p due =>
    have waits : ¬ (due < time ∨ due = time ∧ isOver = true) := by
      rcases early p due stage with later | ⟨rfl, goesOn⟩
      · omega
      · simp [goesOn]
    simp [pass, stage, waits]

theorem pass_of_past {time : Nat} {isOver : Bool} {p : Table.Pending} {due : Nat}
    (waited : a.stage = .waits p due) (past : due < time ∨ due = time ∧ isOver = true) :
    a.pass time isOver =
      ⟨{ a with now := time, stage := .resolved }, [(due, a.fuse p .windowExpired)]⟩ := by
  simp [pass, waited, past]

/-- A hand waits on until the moment is over. -/
theorem pass_false {time : Nat} (early : ∀ p due, a.stage = .waits p due → time ≤ due) :
    a.pass time false = .quiet { a with now := time } :=
  pass_of_early fun p due waits =>
    (Nat.lt_or_eq_of_le (early p due waits)).imp_right fun same => ⟨same.symm, rfl⟩

/-- A hand does not wait any more once the moment is over. -/
theorem pass_true {time : Nat} {p : Table.Pending} {due : Nat} (waited : a.stage = .waits p due)
    (past : due ≤ time) :
    a.pass time true =
      ⟨{ a with now := time, stage := .resolved }, [(due, a.fuse p .windowExpired)]⟩ :=
  pass_of_past waited ((Nat.lt_or_eq_of_le past).imp_right fun same => ⟨same, rfl⟩)

namespace Passes

variable {time : Nat} {b : Emission Solo (Nat × FusedHand)}

theorem hand (passes : a.Passes time b) : b.state.hand = a.hand := by
  cases passes <;> rfl

/-- Either the moment is over for the hand, or it is not. -/
theorem eq_pass (passes : a.Passes time b) : ∃ isOver, b = a.pass time isOver := by
  cases passes with
  | stays early => exact ⟨false, (pass_false early).symm⟩
  | expires waited past => exact ⟨true, (pass_true waited past).symm⟩

/-- The moment is over if the hand does not wait any more that waited up to then. -/
theorem eq_pass_true (passes : a.Passes time b) (left : ∀ p, b.state.stage ≠ .waits p time) :
    b = a.pass time true := by
  cases passes with
  | stays early =>
    refine (pass_of_early fun p due waits => .inl ?_).symm
    refine Nat.lt_of_le_of_ne (early p due waits) ?_
    rintro rfl
    exact left p waits
  | expires waited past => exact (pass_true waited past).symm

/-- The moment is not over if nothing happens to the hand that waits up to then. -/
theorem eq_pass_false (passes : a.Passes time b)
    (idle : ∀ p, a.stage = .waits p time → b.out = []) : b = a.pass time false := by
  cases passes with
  | stays early => exact (pass_false early).symm
  | @expires p due waited past =>
    refine (pass_of_past waited (.inl (Nat.lt_of_le_of_ne past ?_))).symm
    rintro rfl
    cases idle p waited

end Passes

end Solo

end Showdown.TimedTable
