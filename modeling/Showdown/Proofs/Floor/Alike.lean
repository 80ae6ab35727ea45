import Showdown.Proofs.Floor.Clock
import Showdown.Proofs.Monitor

/-!
# Floors that are alike for one table

Two floors are alike for a table (`Alike`) if whatever concerns this table is the same on both: the
table itself, what the monitor knows of it, its timers, the time, and what all tables are tuned by.
For all else they may differ.

What is done on a floor either respects this, so that floors that are alike stay alike and the same
comes of it for the table (`Respects`), or it even spares the table, so that nothing comes of it for
the table at all (`Spares`). A message to a table, its opening and its closing do the one if it is
the table that we look at, and the other if not, and all else a floor does is put together from
these.
-/

namespace Showdown.Floor

variable {observed tableId : TableId} {f f' f'' : Floor} {e e' e'' : Emission Floor Effect}

/-! ### Alike floors -/

/-- A floor as it always is if its results are taken at once. -/
structure Regular (f : Floor) : Prop where
  /-- Results are taken at once. -/
  outlet : f.outlet = none
  /-- Each open table goes by its name. -/
  tableId : ∀ {tableId : TableId} {t : Table}, f.tables[tableId]? = some t → t.tableId = tableId
  /-- The timers are in order. -/
  ordered : f.agenda.Ordered

/-- All that concerns a table is the same on two floors. -/
structure Alike (observed : TableId) (f f' : Floor) : Prop where
  /-- The first floor is a regular one. -/
  left : Regular f
  /-- And so is the second one. -/
  right : Regular f'
  /-- Tables are tuned in the same way. -/
  settings : f.settings = f'.settings
  /-- A table may stay disconnected for the same time. -/
  grace : f.grace = f'.grace
  /-- The clock stands for the same instants. -/
  calendar : f.calendar = f'.calendar
  /-- It is the same time. -/
  now : f.now = f'.now
  /-- A source may be silent for the same time. -/
  window : f.monitor.window = f'.monitor.window
  /-- The table is in the same state, or open on neither floor. -/
  table : f.tables[observed]? = f'.tables[observed]?
  /-- The monitor knows the same of the table. -/
  channel : f.monitor.channel? observed = f'.monitor.channel? observed
  /-- The same timers run for the table. -/
  timers : f.agenda.ofTable observed = f'.agenda.ofTable observed

theorem Alike.refl (regular : Regular f) : Alike observed f f :=
  ⟨regular, regular, rfl, rfl, rfl, rfl, rfl, rfl, rfl, rfl⟩

theorem Alike.symm (a : Alike observed f f') : Alike observed f' f :=
  ⟨a.right, a.left, a.settings.symm, a.grace.symm, a.calendar.symm, a.now.symm, a.window.symm,
    a.table.symm, a.channel.symm, a.timers.symm⟩

theorem Alike.trans (a : Alike observed f f') (b : Alike observed f' f'') : Alike observed f f'' :=
  ⟨a.left, b.right, a.settings.trans b.settings, a.grace.trans b.grace,
    a.calendar.trans b.calendar, a.now.trans b.now, a.window.trans b.window,
    a.table.trans b.table, a.channel.trans b.channel, a.timers.trans b.timers⟩

/-- Two emissions agree on a table: they lead to floors that are alike for it, with the same results
and events of the table. -/
structure Agrees (observed : TableId) (e e' : Emission Floor Effect) : Prop where
  /-- The floors are alike. -/
  state : Alike observed e.state e'.state
  /-- The same is put out about the table. -/
  out : Effect.ofTable observed e.out = Effect.ofTable observed e'.out

theorem Alike.quiet (a : Alike observed f f') : Agrees observed (.quiet f) (.quiet f') :=
  ⟨a, rfl⟩

theorem Agrees.symm (a : Agrees observed e e') : Agrees observed e' e :=
  ⟨a.state.symm, a.out.symm⟩

theorem Agrees.trans (a : Agrees observed e e') (b : Agrees observed e' e'') :
    Agrees observed e e'' :=
  ⟨a.state.trans b.state, a.out.trans b.out⟩

theorem Agrees.andThen {g g' : Floor → Emission Floor Effect} (a : Agrees observed e e')
    (b : Agrees observed (g e.state) (g' e'.state)) :
    Agrees observed (e.andThen g) (e'.andThen g') := by
  refine ⟨b.state, ?_⟩
  rw [Emission.out_andThen, Emission.out_andThen, Effect.ofTable_append, Effect.ofTable_append,
    a.out, b.out]

/-- Only one of two emissions goes on, with something that is nothing to the table. -/
theorem Agrees.andThen_spared {g : Floor → Emission Floor Effect} (a : Agrees observed e e')
    (b : Agrees observed (.quiet e'.state) (g e'.state)) : Agrees observed e (e'.andThen g) := by
  refine ⟨a.state.trans b.state, ?_⟩
  rw [Emission.out_andThen, Effect.ofTable_append, ← b.out, a.out]
  exact (List.append_nil _).symm

theorem Agrees.after {said said' : List Effect}
    (same : Effect.ofTable observed said = Effect.ofTable observed said')
    (a : Agrees observed e e') : Agrees observed (e.after said) (e'.after said') := by
  refine ⟨a.state, ?_⟩
  rw [Emission.out_after, Emission.out_after, Effect.ofTable_append, Effect.ofTable_append, same,
    a.out]

theorem Agrees.say {said : List Effect} (silent : Effect.ofTable observed said = [])
    (a : Agrees observed e e') : Agrees observed e (e'.after said) := by
  refine ⟨a.state, ?_⟩
  rw [Emission.out_after, Effect.ofTable_append, silent, a.out, List.nil_append]

/-! ### Respect -/

/-- The same comes of it for a table on floors that are alike for the table. -/
def Respects (observed : TableId) (g : Floor → Emission Floor Effect) : Prop :=
  ∀ f f', Alike observed f f' → Agrees observed (g f) (g f')

/-- Nothing comes of it for a table. -/
def Spares (observed : TableId) (g : Floor → Emission Floor Effect) : Prop :=
  ∀ f, Regular f → Agrees observed (.quiet f) (g f)

theorem Spares.respects {g : Floor → Emission Floor Effect} (h : Spares observed g) :
    Respects observed g :=
  fun f f' a => (h f a.left).symm.trans (a.quiet.trans (h f' a.right))

theorem Respects.andThen {g g' : Floor → Emission Floor Effect} (h : Respects observed g)
    (h' : Respects observed g') : Respects observed fun f => (g f).andThen g' :=
  fun f f' a => (h f f' a).andThen (h' _ _ (h f f' a).state)

theorem Spares.andThen {g g' : Floor → Emission Floor Effect} (h : Spares observed g)
    (h' : Spares observed g') : Spares observed fun f => (g f).andThen g' := by
  intro f regular
  have first := h f regular
  exact first.andThen_spared (h' (g f).state first.state.right)

/-- Of steps that respect a table, those that even spare it may be left out. -/
theorem agrees_forEach_filter {α : Type} {g : α → Floor → Emission Floor Effect} (key : α → TableId)
    (respects : ∀ a, Respects observed (g a))
    (spares : ∀ a, key a ≠ observed → Spares observed (g a)) (as : List α)
    (alike : Alike observed f f') : Agrees observed (Emission.forEach g as f)
      (Emission.forEach g (as.filter fun a => key a == observed) f') := by
  induction as generalizing f f' with
  | nil => exact alike.quiet
  | cons a as ih =>
    by_cases mine : key a = observed
    · rw [List.filter_cons_of_pos (by simpa using mine)]
      have now := respects a f f' alike
      exact now.andThen (ih now.state)
    · rw [List.filter_cons_of_neg (by simpa using mine)]
      have now := (spares a mine f alike.left).symm.trans alike.quiet
      show Agrees observed _ ((Emission.quiet f').andThen
        (Emission.forEach g (as.filter fun a => key a == observed)))
      exact now.andThen (ih now.state)

/-- Steps for the items of two lists come to the same for a table if the items that concern the
table are the same. -/
theorem agrees_forEach {α : Type} {g : α → Floor → Emission Floor Effect} (key : α → TableId)
    (respects : ∀ a, Respects observed (g a))
    (spares : ∀ a, key a ≠ observed → Spares observed (g a)) {as bs : List α}
    (same : as.filter (fun a => key a == observed) = bs.filter fun a => key a == observed)
    (alike : Alike observed f f') :
    Agrees observed (Emission.forEach g as f) (Emission.forEach g bs f') := by
  have first := agrees_forEach_filter key respects spares as alike
  have second := agrees_forEach_filter key respects spares bs (.refl alike.right)
  exact first.trans (same ▸ second.symm)

theorem spares_forEach {α : Type} {g : α → Floor → Emission Floor Effect} (key : α → TableId)
    (spares : ∀ a, key a ≠ observed → Spares observed (g a)) {as : List α}
    (others : ∀ a ∈ as, key a ≠ observed) : Spares observed (Emission.forEach g as) := by
  induction as with
  | nil => exact fun f regular => (Alike.refl regular).quiet
  | cons a as ih =>
    obtain ⟨first, rest⟩ := List.forall_mem_cons.mp others
    exact (spares a first).andThen (ih rest)

/-! ### Tables -/

theorem Regular.put (regular : Regular f) {t : Table} (own : t.tableId = tableId)
    (out : List Table.Output) :
    Regular { f with tables := f.tables.insert tableId t, agenda := f.heed out } where
  outlet := regular.outlet
  tableId := by
    intro other u hu
    rcases (getElem?_insert_eq_some_iff ..).mp hu with ⟨rfl, rfl⟩ | ⟨-, hu⟩
    · exact own
    · exact regular.tableId hu
  ordered := regular.ordered.heed _ _

theorem Regular.drop (regular : Regular f) (tableId : TableId) (closedTally : Tally)
    (out : List Table.Output) : Regular { f with
      tables := f.tables.erase tableId, closedTally := closedTally, agenda := f.heed out } where
  outlet := regular.outlet
  tableId := fun hu => regular.tableId ((getElem?_erase_eq_some_iff ..).mp hu).2
  ordered := regular.ordered.heed _ _

/-- The table handles a message. -/
theorem respects_deliver_own (m : Table.Message) (observed : TableId) :
    Respects observed (deliver m observed) := by
  intro f f' a
  cases ht : f.tables[observed]? with
  | none =>
    rw [deliver_of_notOpen ht, deliver_of_notOpen (a.table ▸ ht)]
    exact a.quiet
  | some t =>
    have own := (Table.tableId_handle m t).trans (a.left.tableId ht)
    have mine := Table.own_handle m t
    rw [a.left.tableId ht] at mine
    rw [deliver_of_open a.left.outlet ht, deliver_of_open a.right.outlet (a.table ▸ ht)]
    refine ⟨⟨a.left.put own _, a.right.put own _, a.settings, a.grace, a.calendar, a.now, a.window,
      ?_, a.channel, ?_⟩, rfl⟩
    · simp
    · simp only [heed, a.now, a.settings]
      exact Table.ofTable_heed_of_own mine a.left.ordered a.right.ordered a.timers _

/-- Another table handles a message. -/
theorem spares_deliver (m : Table.Message) (other : tableId ≠ observed) :
    Spares observed (deliver m tableId) := by
  intro f regular
  cases ht : f.tables[tableId]? with
  | none =>
    rw [deliver_of_notOpen ht]
    exact (Alike.refl regular).quiet
  | some t =>
    have own := (Table.tableId_handle m t).trans (regular.tableId ht)
    have theirs := Table.own_handle m t
    rw [regular.tableId ht] at theirs
    rw [deliver_of_open regular.outlet ht]
    refine ⟨⟨regular, regular.put own _, rfl, rfl, rfl, rfl, rfl, ?_, rfl, ?_⟩, ?_⟩
    · exact (getElem?_insert_of_ne _ other.symm _).symm
    · exact (Table.ofTable_heed_of_ne theirs other regular.ordered _).symm
    · exact (Table.ofTable_of_own theirs other).symm

theorem respects_deliver (m : Table.Message) (tableId : TableId) :
    Respects observed (deliver m tableId) := by
  by_cases own : tableId = observed
  · exact own ▸ respects_deliver_own m tableId
  · exact (spares_deliver m own).respects

/-- The table is opened. -/
theorem respects_openTable_own (observed : TableId) : Respects observed (openTable observed) := by
  intro f f' a
  cases ht : f.tables[observed]? with
  | none =>
    rw [openTable_of_notOpen ht, openTable_of_notOpen (a.table ▸ ht)]
    refine ⟨⟨a.left.put (t := .opened observed f.settings) rfl [],
      a.right.put (t := .opened observed f'.settings) rfl [], a.settings, a.grace, a.calendar,
      a.now, a.window, ?_, a.channel, a.timers⟩, rfl⟩
    simp [a.settings]
  | some t =>
    have isOpen : (f.tables[observed]?).isSome := by rw [ht]; rfl
    rw [openTable_of_open isOpen, openTable_of_open (a.table ▸ isOpen)]
    exact a.quiet

/-- Another table is opened. -/
theorem spares_openTable (other : tableId ≠ observed) : Spares observed (openTable tableId) := by
  intro f regular
  cases ht : f.tables[tableId]? with
  | none =>
    rw [openTable_of_notOpen ht]
    refine ⟨⟨regular, regular.put (t := .opened tableId f.settings) rfl [], rfl, rfl, rfl, rfl,
      rfl, ?_, rfl, rfl⟩, rfl⟩
    exact (getElem?_insert_of_ne _ other.symm _).symm
  | some t =>
    rw [openTable_of_open (by rw [ht]; rfl)]
    exact (Alike.refl regular).quiet

theorem respects_openTable (tableId : TableId) : Respects observed (openTable tableId) := by
  by_cases own : tableId = observed
  · exact own ▸ respects_openTable_own tableId
  · exact (spares_openTable own).respects

/-- The table is closed. -/
theorem respects_closeTable_own (observed : TableId) : Respects observed (closeTable observed) := by
  intro f f' a
  cases ht : f.tables[observed]? with
  | none =>
    rw [closeTable_of_notOpen ht, closeTable_of_notOpen (a.table ▸ ht)]
    exact a.quiet
  | some t =>
    have mine := Table.own_handle .shutdown t
    rw [a.left.tableId ht] at mine
    rw [closeTable_of_open a.left.outlet ht, closeTable_of_open a.right.outlet (a.table ▸ ht)]
    refine ⟨⟨a.left.drop _ _ _, a.right.drop _ _ _, a.settings, a.grace, a.calendar, a.now,
      a.window, ?_, a.channel, ?_⟩, rfl⟩
    · simp
    · simp only [heed, a.now, a.settings]
      exact Table.ofTable_heed_of_own mine a.left.ordered a.right.ordered a.timers _

/-- Another table is closed. -/
theorem spares_closeTable (other : tableId ≠ observed) : Spares observed (closeTable tableId) := by
  intro f regular
  cases ht : f.tables[tableId]? with
  | none =>
    rw [closeTable_of_notOpen ht]
    exact (Alike.refl regular).quiet
  | some t =>
    have theirs := Table.own_handle .shutdown t
    rw [regular.tableId ht] at theirs
    rw [closeTable_of_open regular.outlet ht]
    refine ⟨⟨regular, regular.drop _ _ _, rfl, rfl, rfl, rfl, rfl, ?_, rfl, ?_⟩, ?_⟩
    · exact (getElem?_erase_of_ne _ other.symm).symm
    · exact (Table.ofTable_heed_of_ne theirs other regular.ordered _).symm
    · exact (Table.ofTable_of_own theirs other).symm

theorem respects_closeTable (tableId : TableId) : Respects observed (closeTable tableId) := by
  by_cases own : tableId = observed
  · exact own ▸ respects_closeTable_own tableId
  · exact (spares_closeTable own).respects

/-! ### Arrivals -/

theorem Regular.note (regular : Regular f) (monitor : Monitor) :
    Regular { f with monitor := monitor } :=
  ⟨regular.outlet, regular.tableId, regular.ordered⟩

/-- What the monitors note is the same as far as the table is concerned. -/
theorem Alike.note (a : Alike observed f f') {m m' : Monitor} (window : m.window = m'.window)
    (channel : m.channel? observed = m'.channel? observed) :
    Alike observed { f with monitor := m } { f' with monitor := m' } :=
  ⟨a.left.note m, a.right.note m', a.settings, a.grace, a.calendar, a.now, window, a.table, channel,
    a.timers⟩

theorem Alike.published (a : Alike observed f f') : f.published = f'.published := by
  funext c
  rw [Floor.published, Floor.published, a.calendar, a.now]

theorem ofTable_published_of_ne {c : StatusChange} (other : c.tableId ≠ observed) :
    Effect.ofTable observed [f.published c] = [] := by
  simpa [Effect.ofTable, Floor.published, Event.tableId] using other

/-- Whatever is heard of the table, the monitors then know the same of it. -/
theorem Alike.hear (a : Alike observed f f') (tableId : TableId) (source : Source) :
    Alike observed { f with monitor := (f.monitor.observe tableId source f.now).1 }
      { f' with monitor := (f'.monitor.observe tableId source f'.now).1 } := by
  refine a.note a.window ?_
  by_cases own : tableId = observed
  · rw [← own, Monitor.channel?_observe, Monitor.channel?_observe, own, a.channel, a.now]
  · rw [Monitor.channel?_observe_of_ne _ (Ne.symm own), a.channel,
      Monitor.channel?_observe_of_ne _ (Ne.symm own)]

/-- What is heard of another table is no news of this one. -/
theorem Alike.hear_other (regular : Regular f) (other : tableId ≠ observed) (source : Source) :
    Alike observed f { f with monitor := (f.monitor.observe tableId source f.now).1 } :=
  Alike.note (Alike.refl regular) rfl
    (Monitor.channel?_observe_of_ne _ other.symm source f.now).symm

theorem respects_arrive_own (source : Source) (observed : TableId) :
    Respects observed (arrive source observed) := by
  intro f f' a
  have heard := a.hear observed source
  have change : (f.monitor.observe observed source f.now).2 =
      (f'.monitor.observe observed source f'.now).2 := by
    rw [Monitor.change_observe, Monitor.change_observe, a.channel, a.now]
  unfold arrive
  simp only [change]
  cases (f'.monitor.observe observed source f'.now).2 with
  | none => exact heard.quiet
  | some c =>
    refine Agrees.after ?_ (respects_deliver_own _ observed _ _ heard)
    rw [heard.published]

theorem spares_arrive (source : Source) (other : tableId ≠ observed) :
    Spares observed (arrive source tableId) := by
  intro f regular
  have heard := Alike.hear_other regular other source
  unfold arrive
  cases change : (f.monitor.observe tableId source f.now).2 with
  | none =>
    simp only [change]
    exact heard.quiet
  | some c =>
    simp only [change]
    have about := Monitor.tableId_of_observe change
    have sent := spares_deliver (.health c.primary c.secondary) other _ heard.right
    exact (heard.quiet.trans sent).say (ofTable_published_of_ne (about ▸ other))

theorem respects_arrive (source : Source) (tableId : TableId) :
    Respects observed (arrive source tableId) := by
  by_cases own : tableId = observed
  · exact own ▸ respects_arrive_own source tableId
  · exact (spares_arrive source own).respects

theorem respects_receiveHand (r : RankedHand) : Respects observed (receiveHand r) :=
  ((respects_openTable _).andThen (respects_arrive _ _)).andThen (respects_deliver _ _)

theorem spares_receiveHand {r : RankedHand} (other : r.tableId ≠ observed) :
    Spares observed (receiveHand r) :=
  ((spares_openTable other).andThen (spares_arrive _ other)).andThen (spares_deliver _ other)

theorem respects_receiveSighting (r : Sighting) : Respects observed (receiveSighting r) :=
  ((respects_openTable _).andThen (respects_arrive _ _)).andThen (respects_deliver _ _)

theorem spares_receiveSighting {r : Sighting} (other : r.tableId ≠ observed) :
    Spares observed (receiveSighting r) :=
  ((spares_openTable other).andThen (spares_arrive _ other)).andThen (spares_deliver _ other)

theorem spares_hear (source : Source) (other : tableId ≠ observed) :
    Spares observed (hear source tableId) := by
  intro f regular
  unfold hear
  split
  · exact spares_arrive source other f regular
  · exact (Alike.hear_other regular other source).quiet

theorem respects_hear (source : Source) (tableId : TableId) :
    Respects observed (hear source tableId) := by
  by_cases own : tableId = observed
  · intro f f' a
    subst own
    unfold hear
    rw [contains_iff_isSome, contains_iff_isSome, a.table]
    split
    · exact respects_arrive_own source tableId f f' a
    · exact (a.hear tableId source).quiet
  · exact (spares_hear source own).respects

/-! ### Checks of health -/

/-- Of the findings of a sweep, those about the table are made known of it. -/
theorem ofTable_changes (f : Floor) (changes : List StatusChange) :
    Effect.ofTable observed
        (changes.map (fun c => noted (.statusChanged c)) ++ changes.map f.published) =
      (changes.filter fun c => c.tableId == observed).map f.published := by
  have silent : Effect.ofTable observed (changes.map fun c => noted (.statusChanged c)) = [] := by
    refine List.filter_eq_nil_iff.mpr fun e he => ?_
    obtain ⟨c, -, rfl⟩ := List.mem_map.mp he
    simp [noted]
  rw [Effect.ofTable_append, silent, List.nil_append, Effect.ofTable, List.filter_map]
  rfl

theorem respects_sweep (time : Nat) : Respects observed (sweep time) := by
  intro f f' a
  have found : f.monitor.found? time observed = f'.monitor.found? time observed := by
    rw [Monitor.found?, Monitor.found?, a.channel, a.window]
  have changes : (f.monitor.sweep time).2.filter (fun c => c.tableId == observed) =
      (f'.monitor.sweep time).2.filter fun c => c.tableId == observed := by
    rw [Monitor.filter_sweep, Monitor.filter_sweep, found]
  have swept : Alike observed { f with monitor := (f.monitor.sweep time).1 }
      { f' with monitor := (f'.monitor.sweep time).1 } := by
    refine a.note a.window ?_
    rw [Monitor.channel?_sweep, Monitor.channel?_sweep, a.channel, a.window]
  refine Agrees.after ?_ (agrees_forEach StatusChange.tableId
    (fun c => respects_deliver _ _) (fun c other => spares_deliver _ other) changes swept)
  refine (ofTable_changes f _).trans (Eq.trans ?_ (ofTable_changes f' _).symm)
  rw [a.published]
  exact congrArg (List.map f'.published) changes

/-- The table is removed. -/
theorem respects_remove_own (observed : TableId) : Respects observed (remove observed) := by
  intro f f' a
  have forgotten : Alike observed { f with monitor := f.monitor.forget observed }
      { f' with monitor := f'.monitor.forget observed } := by
    refine a.note a.window ?_
    rw [Monitor.channel?_forget, Monitor.channel?_forget]
  unfold remove
  simp only [contains_iff_isSome, a.table]
  split
  · exact (respects_closeTable_own observed _ _ forgotten).after rfl
  · exact forgotten.quiet

theorem spares_remove (other : tableId ≠ observed) : Spares observed (remove tableId) := by
  intro f regular
  have forgotten : Alike observed f { f with monitor := f.monitor.forget tableId } :=
    Alike.note (Alike.refl regular) rfl
      (Monitor.channel?_forget_of_ne _ other.symm).symm
  unfold remove
  simp only
  split
  · exact (forgotten.quiet.trans (spares_closeTable other _ forgotten.right)).say rfl
  · exact forgotten.quiet

theorem respects_remove (tableId : TableId) : Respects observed (remove tableId) := by
  by_cases own : tableId = observed
  · exact own ▸ respects_remove_own tableId
  · exact (spares_remove own).respects

theorem respects_check (time : Nat) : Respects observed (check time) := by
  refine (respects_sweep time).andThen fun f f' a => ?_
  refine agrees_forEach id respects_remove (fun _ other => spares_remove other) ?_ a
  simp only [id, overdue]
  rw [Monitor.filter_overdue, Monitor.filter_overdue, a.channel, a.grace]

theorem respects_closeAll : Respects observed closeAll := by
  intro f f' a
  refine Agrees.after rfl (agrees_forEach id respects_closeTable
    (fun _ other => spares_closeTable other) ?_ a)
  simp only [id]
  rw [filter_keys_eq, filter_keys_eq, a.table]

/-! ### Time -/

theorem Alike.stop (a : Alike observed f f') (key : TimerKey) :
    Alike observed { f with agenda := f.agenda.stop key }
      { f' with agenda := f'.agenda.stop key } := by
  refine ⟨⟨a.left.outlet, a.left.tableId, a.left.ordered.stop key⟩,
    ⟨a.right.outlet, a.right.tableId, a.right.ordered.stop key⟩, a.settings, a.grace, a.calendar,
    a.now, a.window, a.table, a.channel, ?_⟩
  rw [Agenda.ofTable_stop, Agenda.ofTable_stop, a.timers]

theorem spares_strike {timer : Timer} (other : timer.key.tableId ≠ observed) :
    Spares observed (strike timer) := by
  intro f regular
  have stopped : Alike observed f { f with agenda := f.agenda.stop timer.key } := by
    refine ⟨regular, ⟨regular.outlet, regular.tableId, regular.ordered.stop _⟩, rfl, rfl, rfl, rfl,
      rfl, rfl, rfl, ?_⟩
    exact (Agenda.ofTable_stop_of_ne f.agenda other).symm
  unfold strike
  split
  · exact stopped.quiet.trans (spares_deliver _ other _ stopped.right)
  · exact (Alike.refl regular).quiet

theorem respects_strike (timer : Timer) : Respects observed (strike timer) := by
  by_cases own : timer.key.tableId = observed
  · intro f f' a
    have running : f.agenda.timers.contains timer = f'.agenda.timers.contains timer := by
      have mine (a : Agenda) : timer ∈ a.timers ↔ timer ∈ a.ofTable observed := by
        simp [Agenda.mem_ofTable, own]
      rw [Bool.eq_iff_iff, List.contains_iff_mem, List.contains_iff_mem, mine f.agenda,
        mine f'.agenda, a.timers]
    unfold strike
    rw [running]
    split
    · exact respects_deliver _ _ _ _ (a.stop timer.key)
    · exact a.quiet
  · exact (spares_strike own).respects

theorem Alike.atTime {e e' : Emission Floor Effect} (a : Agrees observed e e') (time : Nat) :
    Agrees observed (atTime time e) (atTime time e') :=
  ⟨⟨⟨a.state.left.outlet, a.state.left.tableId, a.state.left.ordered⟩,
    ⟨a.state.right.outlet, a.state.right.tableId, a.state.right.ordered⟩, a.state.settings,
    a.state.grace, a.state.calendar, rfl, a.state.window, a.state.table, a.state.channel,
    a.state.timers⟩, a.out⟩

theorem respects_advance (ms : Nat) : Respects observed (advance ms) := by
  intro f f' a
  rw [advance, advance, advanceTo_eq a.left.outlet, advanceTo_eq a.right.outlet, a.now]
  refine Alike.atTime (agrees_forEach (fun timer => timer.key.tableId) respects_strike
    (fun _ other => spares_strike other) ?_ a) _
  rw [Agenda.ofTable_due, Agenda.ofTable_due, a.timers]

end Showdown.Floor
