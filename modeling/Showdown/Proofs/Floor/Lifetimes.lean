import Showdown.Proofs.Floor.Steps
import Showdown.Proofs.Table.Memory

/-!
# Results between two openings of a table

A table that is removed and opened again starts without any memory. So what a table remembers says
something about its results since it was last opened only (`Lifetimes`). Of these, two results for
one hand are far apart, and so they are whenever the table is not opened in between
(`apart_of_run`).
-/

namespace Showdown

namespace Effect

/-- The effect says that a table was opened. -/
def opens (tableId : TableId) : Effect → Bool
  | note (.tableOpened opened) => opened == tableId
  | _ => false

theorem opens_iff {tableId : TableId} {e : Effect} :
    e.opens tableId = true ↔ e = .note (.tableOpened tableId) := by
  unfold opens
  split <;> simp_all

/-- The hands of the results of a table, in order. -/
def handsOf (tableId : TableId) (out : List Effect) : List HandNumber :=
  ((fusedOf out).filter (·.tableId = tableId)).map FusedHand.handNumber

@[simp] theorem handsOf_nil (tableId : TableId) : handsOf tableId [] = [] := rfl

@[simp] theorem handsOf_append (tableId : TableId) (out out' : List Effect) :
    handsOf tableId (out ++ out') = handsOf tableId out ++ handsOf tableId out' := by
  simp [handsOf]

theorem handsOf_fused (r : FusedHand) : handsOf r.tableId [.fused r] = [r.handNumber] := by
  simp [handsOf, fusedOf, fused?]

theorem handsOf_of_idle {out : List Effect} (h : out.all isIdle = true) (tableId : TableId) :
    handsOf tableId out = [] := by
  rw [handsOf, fusedOf_of_idle h, List.filter_nil, List.map_nil]

/-- The hands of the results of a table since it was last opened, in order. -/
def handsSinceOpening (tableId : TableId) (out : List Effect) : List HandNumber :=
  handsOf tableId (out.rtakeWhile fun e => !e.opens tableId)

theorem handsSinceOpening_append {tableId : TableId} {more : List Effect}
    (h : note (.tableOpened tableId) ∉ more) (out : List Effect) :
    handsSinceOpening tableId (out ++ more) =
      handsSinceOpening tableId out ++ handsOf tableId more := by
  have others : ∀ e ∈ more.reverse, (!e.opens tableId) = true := by
    intro e he
    rw [Bool.not_eq_true', ← Bool.not_eq_true, opens_iff]
    rintro rfl
    exact h (List.mem_reverse.mp he)
  rw [handsSinceOpening, List.rtakeWhile, List.reverse_append, List.takeWhile_append_of_pos others,
    List.reverse_append, List.reverse_reverse, handsOf_append]
  rfl

theorem handsSinceOpening_opening (tableId : TableId) (out : List Effect) :
    handsSinceOpening tableId (out ++ [note (.tableOpened tableId)]) = [] := by
  rw [handsSinceOpening, List.rtakeWhile_concat_neg _ _ _ (by simp [opens]), handsOf_nil]

end Effect

open Effect

namespace Table

/-- The effects of a table hold its own results. -/
theorem handsOf_handle (m : Message) (t : Table) :
    handsOf t.tableId ((t.handle m).out.filterMap Output.effect?) = resolved (t.handle m).out := by
  rw [handsOf, fusedOf_effects, List.filter_eq_self.mpr, resolved]
  simpa using tableId_of_mem_results m t

theorem handsOf_handle_of_ne (m : Message) {t : Table} {tableId : TableId}
    (h : t.tableId ≠ tableId) :
    handsOf tableId ((t.handle m).out.filterMap Output.effect?) = [] := by
  rw [handsOf, fusedOf_effects, List.filter_eq_nil_iff.mpr, List.map_nil]
  intro r hr
  simpa [tableId_of_mem_results m t r hr] using h

end Table

namespace Floor

/-- Whenever a list is cut in two, in the first part the results of each table since it was opened
are far apart. -/
def Apart (out : List Effect) : Prop :=
  ∀ tableId prior later, out = prior ++ later →
    Table.Spaced Table.History.capacity (handsSinceOpening tableId prior)

theorem Apart.append {out more : List Effect} (a : Apart out)
    (h : ∀ tableId prior later, more = prior ++ later →
      Table.Spaced Table.History.capacity (handsSinceOpening tableId (out ++ prior))) :
    Apart (out ++ more) := by
  intro tableId prior later cut
  rcases List.append_eq_append_iff.mp cut with ⟨rest, rfl, rfl⟩ | ⟨rest, rfl, rfl⟩
  · exact h tableId rest later rfl
  · exact a tableId prior rest rfl

/-- If all is well after results of tables, then it was so at each of them. -/
theorem Apart.append_of_onlyFused {out more : List Effect} (a : Apart out)
    (only : OnlyFused more)
    (h : ∀ tableId, Table.Spaced Table.History.capacity (handsSinceOpening tableId (out ++ more))) :
    Apart (out ++ more) := by
  refine a.append fun tableId prior later cut => ?_
  have spaced := h tableId
  have hp := only.no_opening tableId
  rw [cut, List.mem_append, not_or] at hp
  rw [cut, ← List.append_assoc, handsSinceOpening_append hp.2] at spaced
  exact spaced.of_append

/-- Each open table remembers the hands it has resolved since it was opened, and all results are
far apart. -/
structure Lifetimes (f : Floor) (out : List Effect) : Prop where
  /-- Each open table goes by its name. -/
  tableId : ∀ {tableId : TableId} {t : Table}, f.tables[tableId]? = some t → t.tableId = tableId
  /-- Each open table remembers what it should. -/
  remembers : ∀ {tableId : TableId} {t : Table}, f.tables[tableId]? = some t →
    t.Remembers (handsSinceOpening tableId out)
  /-- The results of each table since it was opened are far apart, at any time. -/
  apart : Apart out

theorem lifetimes_opened (s : Settings) (calendar : Nat → UtcTime) :
    Lifetimes (opened s calendar) [] where
  tableId := by simp [opened]
  remembers := by simp [opened]
  apart := by
    intro tableId prior later cut
    obtain ⟨rfl, -⟩ := List.append_eq_nil_iff.mp cut.symm
    exact Table.spaced_nil _

/-- What an open table remembers after a message. -/
theorem Lifetimes.remembers_handle {f : Floor} {out : List Effect} (l : Lifetimes f out)
    {tableId : TableId} {t : Table} (ht : f.tables[tableId]? = some t) (m : Table.Message) :
    (t.handle m).state.Remembers
      (handsSinceOpening tableId (out ++ (t.handle m).out.filterMap Table.Output.effect?)) := by
  have own := Table.handsOf_handle m t
  rw [l.tableId ht] at own
  rw [handsSinceOpening_append ((Table.onlyFused_handle m t).no_opening tableId), own]
  exact (l.remembers ht).handle m

/-- The results of other tables are as before. -/
theorem Lifetimes.others_handle {f : Floor} {out : List Effect} (l : Lifetimes f out)
    {tableId other : TableId} {t : Table} (ht : f.tables[tableId]? = some t) (h : other ≠ tableId)
    (m : Table.Message) :
    handsSinceOpening other (out ++ (t.handle m).out.filterMap Table.Output.effect?) =
      handsSinceOpening other out := by
  rw [handsSinceOpening_append ((Table.onlyFused_handle m t).no_opening other),
    Table.handsOf_handle_of_ne m ((l.tableId ht).trans_ne h.symm), List.append_nil]

theorem Lifetimes.apart_handle {f : Floor} {out : List Effect} (l : Lifetimes f out)
    {tableId : TableId} {t : Table} (ht : f.tables[tableId]? = some t) (m : Table.Message) :
    Apart (out ++ (t.handle m).out.filterMap Table.Output.effect?) := by
  refine l.apart.append_of_onlyFused (Table.onlyFused_handle m t) fun other => ?_
  by_cases h : other = tableId
  · rw [h]
    exact (l.remembers_handle ht m).spaced
  · rw [l.others_handle ht h]
    exact l.apart other out [] (List.append_nil out).symm

/-! ### Every step keeps this up -/

theorem Lifetimes.aside {f : Floor} {out : List Effect} {e : Emission Floor Effect}
    (l : Lifetimes f out) (a : Aside f e) : Lifetimes e.state (out ++ e.out) := by
  have same (tableId : TableId) :
      handsSinceOpening tableId (out ++ e.out) = handsSinceOpening tableId out := by
    rw [handsSinceOpening_append ((onlyFused_of_idle a.idle).no_opening tableId),
      handsOf_of_idle a.idle, List.append_nil]
  refine ⟨fun {tableId t} ht => ?_, fun {tableId t} ht => ?_, ?_⟩
  · exact l.tableId (a.tables ▸ ht)
  · rw [same]
    exact l.remembers (a.tables ▸ ht)
  · refine l.apart.append_of_onlyFused (onlyFused_of_idle a.idle) fun tableId => ?_
    rw [same]
    exact l.apart tableId out [] (List.append_nil out).symm

theorem Lifetimes.send {f : Floor} {out : List Effect} {e : Emission Floor Effect}
    (l : Lifetimes f out) {m : Table.Message} {tableId : TableId} {t : Table}
    (s : Sends m tableId t f e) : Lifetimes e.state (out ++ e.out) := by
  refine ⟨fun {other u} hu => ?_, fun {other u} hu => ?_, ?_⟩
  · rw [s.tables, getElem?_insert_eq_some_iff] at hu
    rcases hu with ⟨rfl, rfl⟩ | ⟨-, hu⟩
    · exact (Table.tableId_handle m t).trans (l.tableId s.isOpen)
    · exact l.tableId hu
  · rw [s.tables, getElem?_insert_eq_some_iff] at hu
    rw [s.out]
    rcases hu with ⟨rfl, rfl⟩ | ⟨ne, hu⟩
    · exact l.remembers_handle s.isOpen m
    · rw [l.others_handle s.isOpen ne]
      exact l.remembers hu
  · rw [s.out]
    exact l.apart_handle s.isOpen m

theorem Lifetimes.opening {f : Floor} {out : List Effect} {e : Emission Floor Effect}
    (l : Lifetimes f out) {tableId : TableId} (o : Opens tableId f e) :
    Lifetimes e.state (out ++ e.out) := by
  have same {other : TableId} (h : other ≠ tableId) :
      handsSinceOpening other (out ++ e.out) = handsSinceOpening other out := by
    rw [o.out, handsSinceOpening_append (by simpa using h)]
    exact List.append_nil _
  refine ⟨fun {other u} hu => ?_, fun {other u} hu => ?_, ?_⟩
  · rw [o.tables, getElem?_insert_eq_some_iff] at hu
    rcases hu with ⟨rfl, rfl⟩ | ⟨-, hu⟩
    · rfl
    · exact l.tableId hu
  · rw [o.tables, getElem?_insert_eq_some_iff] at hu
    rcases hu with ⟨rfl, rfl⟩ | ⟨ne, hu⟩
    · rw [o.out, handsSinceOpening_opening]
      exact Table.remembers_opened ..
    · rw [same ne]
      exact l.remembers hu
  · refine l.apart.append fun other prior later cut => ?_
    rcases prior with _ | ⟨x, prior⟩
    · rw [List.append_nil]
      exact l.apart other out [] (List.append_nil out).symm
    · rw [o.out] at cut
      obtain ⟨rfl, rest⟩ := List.cons.inj cut
      obtain ⟨rfl, -⟩ := List.append_eq_nil_iff.mp rest.symm
      by_cases h : other = tableId
      · rw [h, handsSinceOpening_opening]
        exact Table.spaced_nil _
      · rw [← o.out, same h]
        exact l.apart other out [] (List.append_nil out).symm

theorem Lifetimes.closing {f : Floor} {out : List Effect} {e : Emission Floor Effect}
    (l : Lifetimes f out) {tableId : TableId} {t : Table} (c : Closes tableId t f e) :
    Lifetimes e.state (out ++ e.out) := by
  refine ⟨fun {other u} hu => ?_, fun {other u} hu => ?_, ?_⟩
  · rw [c.tables, getElem?_erase_eq_some_iff] at hu
    exact l.tableId hu.2
  · rw [c.tables, getElem?_erase_eq_some_iff] at hu
    rw [c.out, l.others_handle c.isOpen hu.1]
    exact l.remembers hu.2
  · rw [c.out]
    exact l.apart_handle c.isOpen .shutdown

theorem Lifetimes.steps {f : Floor} {out : List Effect} {e : Emission Floor Effect}
    (l : Lifetimes f out) (s : Steps f e) : Lifetimes e.state (out ++ e.out) := by
  refine Chain.keeps (P := Lifetimes) (fun step l => ?_) s l
  cases step with
  | aside h => exact l.aside h
  | send _ h => exact l.send h
  | opening h => exact l.opening h
  | closing h => exact l.closing h

/-! ### Runs -/

/-- **Between two results for one hand of a table, the table is opened anew, or results for at
least 512 other hands of the table are handed on.** -/
theorem apart_of_run (s : Settings) (calendar : Nat → UtcTime) (qs : List Request)
    {before between after : List Effect} {r r' : FusedHand}
    (h : (run qs (opened s calendar)).out = before ++ .fused r :: (between ++ .fused r' :: after))
    (same : r.id = r'.id) :
    .note (.tableOpened r.tableId) ∈ between ∨
      Table.History.capacity ≤
        ((handsOf r.tableId between).filter (· ≠ r.handNumber)).dedup.length := by
  refine or_iff_not_imp_left.mpr fun no_opening => ?_
  have table : r.tableId = r'.tableId := congrArg HandId.tableId same
  have number : r.handNumber = r'.handNumber := congrArg HandId.handNumber same
  have lifetimes := (lifetimes_opened s calendar).steps (steps_run qs (opened s calendar) rfl)
  have spaced := lifetimes.apart r.tableId (before ++ ([.fused r] ++ between ++ [.fused r'])) after
    (by rw [List.nil_append, h]; simp)
  rw [handsSinceOpening_append (by simpa using no_opening), handsOf_append, handsOf_append,
    handsOf_fused, table, handsOf_fused, ← table, ← number] at spaced
  exact spaced (handsSinceOpening r.tableId before) r.handNumber (handsOf r.tableId between) []
    (by simp)

/-- Two results among some effects, one before the other. -/
theorem exists_append_of_fusedOf {out : List Effect} {r r' : FusedHand}
    (h : fusedOf out = [r, r']) :
    ∃ before between after, out = before ++ .fused r :: (between ++ .fused r' :: after) := by
  have only {e : Effect} {r : FusedHand} (h : e.fused? = some r) : e = .fused r := by
    cases e <;> simp_all [fused?]
  obtain ⟨before, _, rest, rfl, -, he, hrest⟩ := List.filterMap_eq_cons_iff.mp h
  obtain ⟨between, _, after, rfl, -, he', -⟩ := List.filterMap_eq_cons_iff.mp hrest
  exact ⟨before, between, after, by rw [only he, only he']⟩

/-- An observation of the card readers. -/
def reading : RankedHand :=
  { tableId := "T1", handNumber := 7, player := "A", seat := 1
    holeCards := (⟨.clubs, .two⟩, ⟨.clubs, .seven⟩), communityCards := [], strength := 7462
    category := .highCard, confidence := 1.0, durationSeconds := none, boardCategory := none }

/-- A table is removed while a hand waits, and both happens once more. -/
def removedTwice : List Request := [.hand reading, .remove "T1", .hand reading, .remove "T1"]

/-- The hand has two results, and the table is opened anew in between. -/
theorem apart_of_removedTwice : ∃ before r between r' after,
    (run removedTwice (opened (.usual 1000 2000) fun _ => .epoch)).out =
      before ++ .fused r :: (between ++ .fused r' :: after) ∧ r.id = r'.id ∧
    (.note (.tableOpened r.tableId) ∈ between ∨
      Table.History.capacity ≤
        ((handsOf r.tableId between).filter (· ≠ r.handNumber)).dedup.length) := by
  have ids : (fusedOf (run removedTwice (opened (.usual 1000 2000) fun _ => .epoch)).out).map
      FusedHand.id = [⟨"T1", 7⟩, ⟨"T1", 7⟩] := by decide +kernel
  obtain ⟨r, _, two, id, rest⟩ := List.map_eq_cons_iff.mp ids
  obtain ⟨r', _, rfl, id', rest⟩ := List.map_eq_cons_iff.mp rest
  obtain rfl := List.map_eq_nil_iff.mp rest
  obtain ⟨before, between, after, h⟩ := exists_append_of_fusedOf two
  have same : r.id = r'.id := id.trans id'.symm
  exact ⟨before, r, between, r', after, h, same, apart_of_run _ _ _ h same⟩

end Floor

end Showdown
