import Showdown.Floor.Request
import Showdown.Proofs.Chain
import Showdown.Proofs.Table.Moves

/-!
# Requests as sequences of steps

As far as tables and results are concerned, whatever is asked of a floor is done in steps of four
kinds: a table is opened, a message is sent to an open table, a table is closed, and anything else,
which touches no table and hands on no result (`steps_attempt`). So what is to be said about tables
and results has to be checked for these four steps only. The messages are those that the floor sends
by itself and the observation that it is asked to take in, so what is so of all these can be assumed
of a message that is sent (`stepsOf_act`).

All this is about floors whose results are taken at once.
-/

namespace Showdown.Floor

/-! ### Steps -/

/-- A step that touches no table and hands on no result. -/
structure Aside (f : Floor) (e : Emission Floor Effect) : Prop where
  /-- No table is touched. -/
  tables : e.state.tables = f.tables
  /-- The counters of closed tables stay. -/
  closedTally : e.state.closedTally = f.closedTally
  /-- Tables are tuned as before. -/
  settings : e.state.settings = f.settings
  /-- Results are still taken at once. -/
  outlet : e.state.outlet = none
  /-- No result is handed on, and nothing else of note comes of it. -/
  idle : e.out.all Effect.isIdle = true

/-- A message is sent to an open table. -/
structure Sends (m : Table.Message) (tableId : TableId) (t : Table) (f : Floor)
    (e : Emission Floor Effect) : Prop where
  /-- The table is open. -/
  isOpen : f.tables[tableId]? = some t
  /-- The table handles the message. -/
  tables : e.state.tables = f.tables.insert tableId (t.handle m).state
  /-- The counters of closed tables stay. -/
  closedTally : e.state.closedTally = f.closedTally
  /-- Tables are tuned as before. -/
  settings : e.state.settings = f.settings
  /-- Results are still taken at once. -/
  outlet : e.state.outlet = none
  /-- The table puts out what comes of it. -/
  out : e.out = (t.handle m).out.filterMap Table.Output.effect?

/-- A table is opened. -/
structure Opens (tableId : TableId) (f : Floor) (e : Emission Floor Effect) : Prop where
  /-- The table is not open. -/
  notOpen : f.tables[tableId]? = none
  /-- The table is opened. -/
  tables : e.state.tables = f.tables.insert tableId (.opened tableId f.settings)
  /-- The counters of closed tables stay. -/
  closedTally : e.state.closedTally = f.closedTally
  /-- Tables are tuned as before. -/
  settings : e.state.settings = f.settings
  /-- Results are still taken at once. -/
  outlet : e.state.outlet = none
  /-- This is said. -/
  out : e.out = [.note (.tableOpened tableId)]

/-- A table is closed. -/
structure Closes (tableId : TableId) (t : Table) (f : Floor) (e : Emission Floor Effect) :
    Prop where
  /-- The table is open. -/
  isOpen : f.tables[tableId]? = some t
  /-- The table is closed. -/
  tables : e.state.tables = f.tables.erase tableId
  /-- Its counters are kept. -/
  closedTally : e.state.closedTally = f.closedTally.merge (t.handle .shutdown).state.tally
  /-- Tables are tuned as before. -/
  settings : e.state.settings = f.settings
  /-- Results are still taken at once. -/
  outlet : e.state.outlet = none
  /-- The table puts out what comes of it. -/
  out : e.out = (t.handle .shutdown).out.filterMap Table.Output.effect?

/-- A step of a floor that sends only messages of a kind, apart from the last one of a table. -/
inductive StepOf (kind : Table.Message → Prop) (f : Floor) (e : Emission Floor Effect) : Prop where
  /-- No table is touched. -/
  | aside (h : Aside f e)
  /-- A message is sent to an open table. -/
  | send {m : Table.Message} {tableId : TableId} {t : Table} (hm : kind m)
    (h : Sends m tableId t f e)
  /-- A table is opened. -/
  | opening {tableId : TableId} (h : Opens tableId f e)
  /-- A table is closed. -/
  | closing {tableId : TableId} {t : Table} (h : Closes tableId t f e)

/-- A finite sequence of steps that send only messages of a kind. -/
abbrev StepsOf (kind : Table.Message → Prop) : Floor → Emission Floor Effect → Prop :=
  Chain (StepOf kind)

/-- A step of a floor. -/
abbrev Step : Floor → Emission Floor Effect → Prop := StepOf (· ≠ .shutdown)

/-- A finite sequence of steps. -/
abbrev Steps : Floor → Emission Floor Effect → Prop := StepsOf (· ≠ .shutdown)

/-- A kind of messages to which those belong that the floor sends by itself. -/
class Routine (kind : Table.Message → Prop) : Prop where
  /-- What is told of the sources. -/
  health : ∀ primary secondary, kind (.health primary secondary)
  /-- That a timer has run out. -/
  expired : ∀ hand generation, kind (.expired hand generation)

instance : Routine (· ≠ .shutdown) where
  health _ _ := Table.Message.noConfusion
  expired _ _ := Table.Message.noConfusion

section Chains

variable {kind : Table.Message → Prop} {f : Floor} {e : Emission Floor Effect}

theorem StepOf.outlet (s : StepOf kind f e) : f.outlet = none → e.state.outlet = none := by
  cases s with
  | aside h => exact fun _ => h.outlet
  | send _ h => exact fun _ => h.outlet
  | opening h => exact fun _ => h.outlet
  | closing h => exact fun _ => h.outlet

theorem StepsOf.outlet (s : StepsOf kind f e) (h : f.outlet = none) : e.state.outlet = none :=
  Chain.preserves (P := fun f => f.outlet = none) StepOf.outlet s h

/-- One request after another, where the second one too is made to a floor whose results are taken
at once. -/
theorem StepsOf.andThen {g : Floor → Emission Floor Effect} (s : StepsOf kind f e)
    (h : f.outlet = none) (hg : ∀ f' : Floor, f'.outlet = none → StepsOf kind f' (g f')) :
    StepsOf kind f (e.andThen g) :=
  Chain.andThen s (hg e.state (s.outlet h))

theorem StepsOf.forEach {α : Type} {g : α → Floor → Emission Floor Effect}
    (hg : ∀ a (f : Floor), f.outlet = none → StepsOf kind f (g a f)) (as : List α) (f : Floor)
    (h : f.outlet = none) : StepsOf kind f (Emission.forEach g as f) :=
  Chain.forEach_of (P := fun f => f.outlet = none) StepOf.outlet hg as f h

theorem Steps.outlet (s : Steps f e) (h : f.outlet = none) : e.state.outlet = none :=
  StepsOf.outlet s h

end Chains

/-! ### Results that are taken at once -/

section Taken

variable {f : Floor} {tableId : TableId}

/-- Nothing is ever under way if results are taken at once. -/
theorem goOn_of_taken (taken : f.outlet = none) : f.goOn = .quiet f := by
  obtain ⟨_, _, _, _, _, _, _, _, outlet⟩ := f
  cases taken
  rfl

theorem deliver_of_open (taken : f.outlet = none) {t : Table} (ht : f.tables[tableId]? = some t)
    (m : Table.Message) : f.deliver m tableId =
      ⟨{ f with
          tables := f.tables.insert tableId (t.handle m).state
          agenda := f.heed (t.handle m).out },
        (t.handle m).out.filterMap Table.Output.effect?⟩ := by
  obtain ⟨_, _, _, _, tables, _, _, _, outlet⟩ := f
  cases taken
  simp only at ht
  simp only [deliver, ht, putOut, Outlet.offer?, heed]

theorem deliver_of_notOpen (ht : f.tables[tableId]? = none) (m : Table.Message) :
    f.deliver m tableId = .quiet f := by
  rw [deliver, ht]

theorem closeTable_of_open (taken : f.outlet = none) {t : Table}
    (ht : f.tables[tableId]? = some t) : f.closeTable tableId =
      ⟨{ f with
          tables := f.tables.erase tableId
          closedTally := f.closedTally.merge (t.handle .shutdown).state.tally
          agenda := f.heed (t.handle .shutdown).out },
        (t.handle .shutdown).out.filterMap Table.Output.effect?⟩ := by
  obtain ⟨_, _, _, _, tables, _, _, _, outlet⟩ := f
  cases taken
  simp only at ht
  simp only [closeTable, ht, putOut, Outlet.offer?, heed, Emission.andThen]
  rw [goOn_of_taken rfl]
  simp only [Emission.quiet, List.append_nil]

theorem closeTable_of_notOpen (ht : f.tables[tableId]? = none) :
    f.closeTable tableId = .quiet f := by
  rw [closeTable, ht]

theorem openTable_of_open (ht : (f.tables[tableId]?).isSome) : f.openTable tableId = .quiet f := by
  rw [openTable, Std.TreeMap.contains_eq_isSome_getElem?, if_pos ht]

theorem openTable_of_notOpen (ht : f.tables[tableId]? = none) : f.openTable tableId =
    ⟨{ f with tables := f.tables.insert tableId (.opened tableId f.settings) },
      [noted (.tableOpened tableId)]⟩ := by
  rw [openTable, Std.TreeMap.contains_eq_isSome_getElem?, ht]
  rfl

theorem contains_iff_isSome (f : Floor) (tableId : TableId) :
    f.tables.contains tableId = (f.tables[tableId]?).isSome :=
  Std.TreeMap.contains_eq_isSome_getElem?

end Taken

variable {kind : Table.Message → Prop}

/-! ### Tables -/

theorem stepsOf_deliver {m : Table.Message} (hm : kind m) (tableId : TableId) (f : Floor)
    (h : f.outlet = none) : StepsOf kind f (f.deliver m tableId) := by
  unfold deliver
  split
  · exact .refl f
  · rename_i t ht
    rw [h]
    exact .single (.send hm ⟨ht, rfl, rfl, rfl, rfl, rfl⟩)

theorem stepsOf_openTable (tableId : TableId) (f : Floor) (h : f.outlet = none) :
    StepsOf kind f (f.openTable tableId) := by
  unfold openTable
  split
  · exact .refl f
  · rename_i hn
    have unknown : f.tables[tableId]? = none :=
      Std.TreeMap.getElem?_eq_none_of_contains_eq_false (by simpa only [Bool.not_eq_true] using hn)
    exact .single (.opening ⟨unknown, rfl, rfl, rfl, h, rfl⟩)

theorem stepsOf_goOn (f : Floor) (h : f.outlet = none) : StepsOf kind f f.goOn :=
  goOn_of_taken h ▸ .refl f

theorem stepsOf_closeTable (tableId : TableId) (f : Floor) (h : f.outlet = none) :
    StepsOf kind f (f.closeTable tableId) := by
  unfold closeTable
  split
  · exact .refl f
  · rename_i t ht
    rw [h]
    exact Chain.andThen (.single (.closing ⟨ht, rfl, rfl, rfl, rfl, rfl⟩)) (stepsOf_goOn _ rfl)

/-! ### Arrivals -/

/-- The monitor takes note of something first. -/
theorem StepsOf.noting {f : Floor} (h : f.outlet = none) (monitor : Monitor)
    {e : Emission Floor Effect} (s : StepsOf kind { f with monitor := monitor } e) :
    StepsOf kind f e := by
  have noted : StepOf kind f (.quiet { f with monitor := monitor }) :=
    .aside ⟨rfl, rfl, rfl, h, rfl⟩
  exact .head noted s

/-- Something is said that is of no note. -/
theorem aside_said {f : Floor} (h : f.outlet = none) {out : List Effect}
    (idle : out.all Effect.isIdle = true) : StepOf kind f ⟨f, out⟩ :=
  .aside ⟨rfl, rfl, rfl, h, idle⟩

variable [Routine kind]

theorem stepsOf_arrive (source : Source) (tableId : TableId) (f : Floor) (h : f.outlet = none) :
    StepsOf kind f (f.arrive source tableId) := by
  unfold arrive
  refine StepsOf.noting h (f.monitor.observe tableId source f.now).1 ?_
  simp only
  split
  · exact .refl _
  · refine .after ?_ (stepsOf_deliver (Routine.health _ _) _ _ h)
    exact .aside ⟨rfl, rfl, rfl, h, rfl⟩

theorem stepsOf_receiveHand {r : RankedHand} (hm : kind (.primary r)) (f : Floor)
    (h : f.outlet = none) : StepsOf kind f (f.receiveHand r) := by
  unfold receiveHand
  exact ((stepsOf_openTable _ f h).andThen h (stepsOf_arrive _ _)).andThen h (stepsOf_deliver hm _)

theorem stepsOf_receiveSighting {r : Sighting} (hm : kind (.secondary r)) (f : Floor)
    (h : f.outlet = none) : StepsOf kind f (f.receiveSighting r) := by
  unfold receiveSighting
  exact ((stepsOf_openTable _ f h).andThen h (stepsOf_arrive _ _)).andThen h (stepsOf_deliver hm _)

theorem stepsOf_hear (source : Source) (tableId : TableId) (f : Floor) (h : f.outlet = none) :
    StepsOf kind f (f.hear source tableId) := by
  unfold hear
  split
  · exact stepsOf_arrive source tableId f h
  · exact StepsOf.noting h _ (.refl _)

theorem stepsOf_tellHealth (primary secondary : Liveness) (tableId : TableId) (f : Floor)
    (h : f.outlet = none) : StepsOf kind f (f.tellHealth primary secondary tableId) :=
  stepsOf_deliver (Routine.health _ _) tableId f h

/-! ### Checks of health -/

theorem stepsOf_forward (c : StatusChange) (f : Floor) (h : f.outlet = none) :
    StepsOf kind f (f.forward c) :=
  stepsOf_deliver (Routine.health _ _) c.tableId f h

/-- What is said of some changes is of no note. -/
theorem idle_changes (f : Floor) (changes : List StatusChange) :
    (changes.map (fun c => noted (.statusChanged c)) ++ changes.map f.published).all
      Effect.isIdle = true := by
  rw [List.all_append, List.all_map, List.all_map, Bool.and_eq_true]
  exact ⟨List.all_eq_true.mpr fun _ _ => rfl, List.all_eq_true.mpr fun _ _ => rfl⟩

theorem stepsOf_sweep (time : Nat) (f : Floor) (h : f.outlet = none) :
    StepsOf kind f (f.sweep time) := by
  unfold sweep
  refine .after (aside_said h (idle_changes f _)) (StepsOf.noting h (f.monitor.sweep time).1 ?_)
  exact StepsOf.forEach stepsOf_forward _ _ h

omit [Routine kind] in
theorem stepsOf_remove (tableId : TableId) (f : Floor) (h : f.outlet = none) :
    StepsOf kind f (f.remove tableId) := by
  unfold remove
  simp only
  split
  · refine .after (aside_said h rfl) (StepsOf.noting h (f.monitor.forget tableId) ?_)
    exact stepsOf_closeTable tableId _ h
  · exact StepsOf.noting h _ (.refl _)

theorem stepsOf_check (time : Nat) (f : Floor) (h : f.outlet = none) :
    StepsOf kind f (f.check time) :=
  (stepsOf_sweep time f h).andThen h fun f' h' =>
    StepsOf.forEach stepsOf_remove (f'.overdue time) f' h'

/-! ### Time -/

omit [Routine kind] in
theorem stepsOf_waitUntil (time : Nat) (f : Floor) (h : f.outlet = none) :
    StepsOf kind f (f.waitUntil time) := by
  unfold waitUntil
  split
  · exact (stepsOf_goOn f h).andThen h fun f' h' => .single (.aside ⟨rfl, rfl, rfl, h', rfl⟩)
  · exact .refl f

theorem stepsOf_fire (timer : Timer) (f : Floor) (h : f.outlet = none) :
    StepsOf kind f (f.fire timer) := by
  refine (stepsOf_waitUntil timer.due f h).andThen h fun f' h' => ?_
  split
  · have stopped : StepOf kind f' (.quiet { f' with agenda := f'.agenda.stop timer.key }) :=
      .aside ⟨rfl, rfl, rfl, h', rfl⟩
    refine .head stopped ?_
    exact stepsOf_deliver (Routine.expired _ _) _ _ h'
  · exact .refl f'

theorem stepsOf_runOut (timers : List Timer) (time : Nat) (f : Floor) (h : f.outlet = none) :
    StepsOf kind f (f.runOut timers time) :=
  ((StepsOf.forEach stepsOf_fire timers f h).andThen h (stepsOf_waitUntil time)).andThen h
    stepsOf_goOn

theorem stepsOf_advanceTo (time : Nat) (f : Floor) (h : f.outlet = none) :
    StepsOf kind f (f.advanceTo time) :=
  (stepsOf_goOn f h).andThen h fun f' h' => stepsOf_runOut (f'.agenda.due time) time f' h'

omit [Routine kind] in
theorem stepsOf_closeAll (f : Floor) (h : f.outlet = none) : StepsOf kind f f.closeAll :=
  .after (aside_said h rfl) (StepsOf.forEach stepsOf_closeTable _ f h)

/-! ### Haste -/

theorem stepsOf_catchUp (f : Floor) (h : f.outlet = none) : StepsOf kind f f.catchUp :=
  stepsOf_runOut (f.agenda.due f.now) f.now f h

theorem stepsOf_fireSome (count : Nat) (f : Floor) (h : f.outlet = none) :
    StepsOf kind f (f.fireSome count) := by
  refine (StepsOf.forEach stepsOf_fire _ f h).andThen h fun f' h' => ?_
  split
  · exact stepsOf_goOn f' h'
  · exact .refl f'

theorem stepsOf_hastenTo (count time : Nat) (f : Floor) (h : f.outlet = none) :
    StepsOf kind f (f.hastenTo count time) := by
  unfold hastenTo
  split
  · exact stepsOf_fireSome count f h
  · refine (((stepsOf_catchUp f h).andThen h fun f' h' => ?_).andThen h
      (stepsOf_waitUntil time)).andThen h (stepsOf_fireSome count)
    exact StepsOf.forEach stepsOf_fire _ f' h'

/-! ### Requests -/

/-- The observation that a request brings to a table, unless it is refused. -/
def Request.message? : Request → Option Table.Message
  | .hand r => some (.primary r)
  | .sighting r => if r.validate.isOk then some (.secondary r) else none
  | _ => none

/-- **Every request is a sequence of steps**, which send what it brings and what the floor sends by
itself. -/
theorem stepsOf_attempt {q : Request} (hm : ∀ m ∈ q.message?, kind m) {f : Floor}
    (h : f.outlet = none) {e : Emission Floor Effect} (carried : f.attempt q = .ok e) :
    StepsOf kind f e := by
  cases q <;> simp only [attempt, Except.ok.injEq] at carried
  case hand r => exact carried ▸ stepsOf_receiveHand (hm _ rfl) f h
  case sighting r =>
    unfold admitSighting at carried
    split at carried
    · rename_i valid
      obtain rfl := Except.ok.inj carried
      exact stepsOf_receiveSighting (hm _ (by simp [Request.message?, valid, Except.isOk,
        Except.toBool])) f h
    · cases carried
  case hear tableId source => exact carried ▸ stepsOf_hear source tableId f h
  case tellHealth tableId primary secondary =>
    exact carried ▸ stepsOf_tellHealth primary secondary tableId f h
  case advance ms => exact carried ▸ stepsOf_advanceTo _ f h
  case check time => exact carried ▸ stepsOf_check time f h
  case remove tableId => exact carried ▸ stepsOf_remove tableId f h
  case closeAll => exact carried ▸ stepsOf_closeAll f h

theorem stepsOf_act {q : Request} (hm : ∀ m ∈ q.message?, kind m) (f : Floor)
    (h : f.outlet = none) : StepsOf kind f (f.act q) := by
  unfold act
  split
  · rename_i e he
    exact stepsOf_attempt hm h he
  · exact .refl f

/-! ### Whatever is sent -/

theorem steps_deliver {m : Table.Message} (hm : m ≠ .shutdown) (tableId : TableId) (f : Floor)
    (h : f.outlet = none) : Steps f (f.deliver m tableId) :=
  @stepsOf_deliver (· ≠ .shutdown) m hm tableId f h

theorem steps_openTable (tableId : TableId) (f : Floor) (h : f.outlet = none) :
    Steps f (f.openTable tableId) :=
  stepsOf_openTable tableId f h

theorem steps_closeTable (tableId : TableId) (f : Floor) (h : f.outlet = none) :
    Steps f (f.closeTable tableId) :=
  stepsOf_closeTable tableId f h

theorem steps_arrive (source : Source) (tableId : TableId) (f : Floor) (h : f.outlet = none) :
    Steps f (f.arrive source tableId) :=
  stepsOf_arrive source tableId f h

theorem steps_hear (source : Source) (tableId : TableId) (f : Floor) (h : f.outlet = none) :
    Steps f (f.hear source tableId) :=
  stepsOf_hear source tableId f h

theorem steps_forward (c : StatusChange) (f : Floor) (h : f.outlet = none) :
    Steps f (f.forward c) :=
  stepsOf_forward c f h

theorem steps_sweep (time : Nat) (f : Floor) (h : f.outlet = none) : Steps f (f.sweep time) :=
  stepsOf_sweep time f h

theorem steps_remove (tableId : TableId) (f : Floor) (h : f.outlet = none) :
    Steps f (f.remove tableId) :=
  stepsOf_remove tableId f h

theorem steps_check (time : Nat) (f : Floor) (h : f.outlet = none) : Steps f (f.check time) :=
  stepsOf_check time f h

theorem steps_advanceTo (time : Nat) (f : Floor) (h : f.outlet = none) :
    Steps f (f.advanceTo time) :=
  stepsOf_advanceTo time f h

theorem steps_closeAll (f : Floor) (h : f.outlet = none) : Steps f f.closeAll :=
  stepsOf_closeAll f h

/-- No request brings the last message of a table. -/
theorem Request.message_ne_shutdown (q : Request) : ∀ m ∈ q.message?, m ≠ .shutdown := by
  intro m hm
  cases q <;> simp only [message?, Option.mem_def] at hm
  case hand r => exact Option.some.inj hm ▸ Table.Message.noConfusion
  case sighting r =>
    split at hm
    · exact Option.some.inj hm ▸ Table.Message.noConfusion
    · cases hm
  all_goals cases hm

theorem steps_attempt {q : Request} {f : Floor} (h : f.outlet = none)
    {e : Emission Floor Effect} (carried : f.attempt q = .ok e) : Steps f e :=
  stepsOf_attempt q.message_ne_shutdown h carried

theorem steps_act (q : Request) (f : Floor) (h : f.outlet = none) : Steps f (f.act q) :=
  stepsOf_act q.message_ne_shutdown f h

/-- A request is carried out and what runs out at once follows, or it is refused. -/
theorem perform_eq_or_refused (q : Request) (f : Floor) :
    f.perform q = (f.act q).andThen (advance 0) ∨ f.act q = .quiet f ∧ f.perform q = .quiet f := by
  unfold perform act
  cases f.attempt q with
  | ok e => exact .inl rfl
  | error => exact .inr ⟨rfl, rfl⟩

theorem steps_perform (q : Request) (f : Floor) (h : f.outlet = none) :
    Steps f (f.perform q) := by
  unfold perform
  split
  · rename_i e he
    exact StepsOf.andThen (steps_attempt h he) h fun f' h' => steps_advanceTo _ f' h'
  · exact .refl f

theorem steps_run (qs : List Request) (f : Floor) (h : f.outlet = none) : Steps f (f.run qs) :=
  StepsOf.forEach steps_perform qs f h

theorem run_concat (qs : List Request) (q : Request) (f : Floor) :
    (run (qs ++ [q]) f).state = ((run qs f).state.perform q).state := by
  rw [run, Emission.forEach_append]
  rfl

end Showdown.Floor
