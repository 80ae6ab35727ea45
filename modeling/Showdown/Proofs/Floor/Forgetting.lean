import Showdown.Proofs.Floor.Lifetimes

/-!
# Hands that are forgotten

Both ways in which a hand can have a second result are real. A table that is removed and opened
again has forgotten everything, and a table that stays open has forgotten a hand after results for
512 others (`forgotten_of_run`). To see the latter we look at a table that has no video any more, so
that each of its hands is resolved at once.
-/

namespace Showdown

open Effect

/-! ### Tables without video -/

namespace Table

/-- A table has no video, and no hand waits. -/
structure Unseen (t : Table) : Prop where
  /-- The video is silent. -/
  silent : t.secondary = .stale
  /-- No hand waits. -/
  alone : ∀ hand : HandNumber, t.pending[hand]? = none

/-- Without video, a hand that is not remembered is resolved at once. -/
theorem Unseen.handle_primary {t : Table} (u : Unseen t) {r : RankedHand}
    (unknown : t.history.contains r.handNumber = false) :
    Unseen (t.handle (.primary r)).state ∧
      (t.handle (.primary r)).state.history = t.history.push r.handNumber ∧
      resolved (t.handle (.primary r)).out = [r.handNumber] ∧
      ∀ due a, (t.handle (.primary r)).out.foldl (Agenda.heed due) a = a := by
  have silent : ¬ t.liveness Source.primary.other = .fresh := by
    simp [Source.other, liveness, u.silent]
  set p : Pending := ⟨some r, none, t.generation + 1, false⟩ with hp
  have opened : t.handle (.primary r) =
      ({ t with
        generation := t.generation + 1
        pending := t.pending.insert r.handNumber p }.resolve .sourceStale r.handNumber).after
          [noted (.waiting t.tableId r.handNumber .primary)] := by
    rw [handle, observePrimary_eq, observe_of_unknown (u.alone r.handNumber), openHand]
    simp [unknown, silent, hp]
  have waits : { t with
      generation := t.generation + 1
      pending := t.pending.insert r.handNumber p }.pending[r.handNumber]? = some p := by simp
  have left := resolve_leaves waits .sourceStale
  rw [opened]
  refine ⟨⟨?_, fun hand => ?_⟩, left.history, ?_, fun due a => ?_⟩
  · exact (congrFun left.liveness .secondary).trans u.silent
  · rw [Emission.state_after, left.pending]
    by_cases own : hand = r.handNumber
    · simp [own]
    · rw [getElem?_erase_of_ne _ own, getElem?_insert_of_ne _ own, u.alone]
  · rw [Emission.out_after, resolved, results_append, left.results, List.map_append]
    exact congrArg ([·]) (congrArg HandId.handNumber left.id)
  · rw [Emission.out_after, List.foldl_append, left.agenda]
    rfl

end Table

namespace Floor

/-- A table of a floor has no video, while its card readers deliver, and no timer is running. -/
structure Unseen (tableId : TableId) (t : Table) (f : Floor) : Prop where
  /-- Results are taken at once. -/
  outlet : f.outlet = none
  /-- The table is open. -/
  isOpen : f.tables[tableId]? = some t
  /-- The table has no video. -/
  table : t.Unseen
  /-- No timer is running. -/
  timers : f.agenda.timers = []
  /-- The card readers deliver. -/
  heard : (f.monitor.channel? tableId).any (·.primary.liveness == .fresh) = true

/-- Nothing happens at once if no timer is running. -/
theorem advance_zero_of_idle {f : Floor} (taken : f.outlet = none) (idle : f.agenda.timers = []) :
    f.advance 0 = .quiet f := by
  have no_due : f.agenda.due (f.now + 0) = [] := by simp [Agenda.due, idle]
  have no_wait : f.waitUntil (f.now + 0) = .quiet f := by simp [waitUntil]
  simp only [advance, advanceTo, goOn_of_taken taken, runOut, Emission.andThen, Emission.quiet,
    no_due, Emission.forEach_nil, no_wait, List.append_nil]

/-- If the card readers deliver already, then nothing comes of it that they do so again. -/
theorem arrive_of_heard {f : Floor} {tableId : TableId}
    (heard : (f.monitor.channel? tableId).any (·.primary.liveness == .fresh) = true) :
    ∃ monitor : Monitor, f.arrive .primary tableId = .quiet { f with monitor := monitor } ∧
      (monitor.channel? tableId).any (·.primary.liveness == .fresh) = true := by
  obtain ⟨c, hc, fresh⟩ := Option.any_eq_true _ _ |>.mp heard
  have unchanged : Channel.change? tableId c (c.observe .primary f.now) = none := by
    simp_all [Channel.change?, Channel.status, Channel.observe, Feed.seenAt]
  refine ⟨(f.monitor.observe tableId .primary f.now).1, ?_, ?_⟩
  · simp [arrive, Monitor.observe, hc, unchanged]
  · simp [Monitor.observe, Monitor.channel?, Channel.observe, Feed.seenAt]

/-- At a table without video, a hand that is not remembered has a result at once. -/
theorem Unseen.perform_hand {r : RankedHand} {t : Table} {f : Floor} (u : Unseen r.tableId t f)
    (unknown : t.history.contains r.handNumber = false) :
    Unseen r.tableId (t.handle (.primary r)).state (f.perform (.hand r)).state ∧
      (f.perform (.hand r)).out = (t.handle (.primary r)).out.filterMap Table.Output.effect? := by
  obtain ⟨table, -, -, agenda⟩ := u.table.handle_primary unknown
  obtain ⟨monitor, arrives, heard⟩ := arrive_of_heard u.heard
  have opens : f.openTable r.tableId = .quiet f := by
    simp [openTable, Std.TreeMap.contains_eq_isSome_getElem?, u.isOpen]
  have received : f.receiveHand r = ⟨{ f with
      monitor := monitor
      tables := f.tables.insert r.tableId (t.handle (.primary r)).state },
      (t.handle (.primary r)).out.filterMap Table.Output.effect?⟩ := by
    simp [receiveHand, opens, arrives, Emission.andThen, Emission.quiet, deliver, u.isOpen,
      u.outlet, putOut, Outlet.offer?, heed, agenda]
  have settled : (f.perform (.hand r)) = (f.receiveHand r).andThen (advance 0) := rfl
  have idle := advance_zero_of_idle (f := (f.receiveHand r).state)
    (by rw [received]; exact u.outlet) (by rw [received]; exact u.timers)
  rw [settled, Emission.andThen, idle, received]
  refine ⟨⟨u.outlet, ?_, table, u.timers, heard⟩, List.append_nil _⟩
  simp

/-! ### Many hands -/

/-- Observations of the card readers for hands of a table. -/
def observations (r : RankedHand) (hands : List HandNumber) : List Request :=
  hands.map fun hand => .hand { r with handNumber := hand }

/-- At a table without video, all hands have results at once that are not remembered when they are
observed. -/
theorem Unseen.run_observations {r : RankedHand} (hands : List HandNumber) {t : Table} {f : Floor}
    (u : Unseen r.tableId t f) (own : t.tableId = r.tableId) {past : List HandNumber}
    (remembers : t.Remembers past)
    (anew : ∀ before hand after, hands = before ++ hand :: after →
      hand ∉ (past ++ before).rtake Table.History.capacity) :
    handsOf r.tableId (run (observations r hands) f).out = hands ∧
      OnlyFused (run (observations r hands) f).out := by
  induction hands generalizing t f past with
  | nil => exact ⟨rfl, onlyFused_nil⟩
  | cons hand hands ih =>
    set q : RankedHand := { r with handNumber := hand } with hq
    have unknown : t.history.contains q.handNumber = false := by
      rw [← Bool.not_eq_true, remembers.sound.contains_iff, remembers.order_eq]
      simpa using anew [] hand hands rfl
    obtain ⟨u', out⟩ := Unseen.perform_hand (r := q) u unknown
    have resolved := (u.table.handle_primary unknown).2.2.1
    have remembers' := remembers.handle (.primary q)
    rw [resolved] at remembers'
    obtain ⟨rest, only⟩ := ih u' ((Table.tableId_handle _ t).trans own) remembers'
      fun before later after cut => by
        simpa using anew (hand :: before) later after (by rw [cut, List.cons_append])
    have first : handsOf r.tableId (f.perform (.hand q)).out = [hand] := by
      rw [out, ← own, Table.handsOf_handle, resolved]
    have now : OnlyFused (f.perform (.hand q)).out := out ▸ Table.onlyFused_handle _ t
    rw [observations, List.map_cons, run, Emission.forEach_cons, Emission.out_andThen,
      handsOf_append, first]
    exact ⟨congrArg (hand :: ·) rest, now.append only⟩

/-! ### Second results -/

/-- A hand that is observed again after enough other ones is not remembered. -/
theorem anew_of_nodup {first : HandNumber} {others : List HandNumber}
    (nodup : (first :: others).Nodup) (many : others.length = Table.History.capacity)
    (before : List HandNumber) (hand : HandNumber) (after : List HandNumber)
    (cut : others ++ [first] = before ++ hand :: after) :
    hand ∉ ([first] ++ before).rtake Table.History.capacity := by
  rcases List.eq_nil_or_concat after with rfl | ⟨after, last, rfl⟩
  · -- it is the hand that was observed first, and all others come after that
    obtain ⟨rfl, rest⟩ := List.append_inj' cut rfl
    obtain rfl : first = hand := List.singleton_inj.mp rest
    have forgotten : ([first] ++ others).rtake Table.History.capacity = others := by
      simp [List.rtake, many]
    rw [forgotten]
    exact (List.nodup_cons.mp nodup).1
  · rw [List.concat_eq_append, ← List.cons_append, ← List.append_assoc] at cut
    obtain rfl := List.append_inj_left' cut rfl
    have apart : ([first] ++ before ++ hand :: after).Nodup := by simpa using nodup
    exact fun mem => (List.nodup_append.mp apart).2.2 hand (List.mem_of_mem_drop mem) hand
      List.mem_cons_self rfl

/-- The number of results for a hand. -/
def resultsFor (hand : HandId) (out : List Effect) : Nat :=
  (fusedOf out).countP (·.id = hand)

theorem resultsFor_eq (hand : HandId) (out : List Effect) :
    resultsFor hand out = (handsOf hand.tableId out).count hand.handNumber := by
  rw [resultsFor, handsOf, List.count, List.countP_map, List.countP_filter]
  refine List.countP_congr fun r _ => ?_
  obtain ⟨tableId, handNumber⟩ := hand
  simp [FusedHand.id, and_comm]

/-- A hand is resolved, the table loses its video, and its card readers go on. -/
def videoLost : List Request :=
  [.hand reading, .advance 2000, .check 2000, .hear "T1" .primary]

/-- The floor after that. -/
def floorWithoutVideo : Emission Floor Effect :=
  run videoLost (opened (.usual 1000 2000) fun _ => .epoch)

theorem unseen_floorWithoutVideo : ∃ t, Unseen "T1" t floorWithoutVideo.state := by
  have outlet : floorWithoutVideo.state.outlet.isNone = true := by decide +kernel
  have table : floorWithoutVideo.state.tables["T1"]?.any
      (fun t => t.secondary == .stale && t.pending.isEmpty) = true := by decide +kernel
  have timers : floorWithoutVideo.state.agenda.timers = [] := by decide +kernel
  have heard : (floorWithoutVideo.state.monitor.channel? "T1").any
      (·.primary.liveness == .fresh) = true := by decide +kernel
  obtain ⟨t, ht, found⟩ := Option.any_eq_true _ _ |>.mp table
  rw [Bool.and_eq_true, beq_iff_eq] at found
  exact ⟨t, Option.isNone_iff_eq_none.mp outlet, ht, ⟨found.1, fun hand =>
    Std.TreeMap.getElem?_of_isEmpty found.2⟩, timers, heard⟩

/-- After 512 other hands, the first one has a second result. -/
theorem resultsFor_after {others : List HandNumber} (nodup : (7 :: others).Nodup)
    (many : others.length = Table.History.capacity) :
    ∃ out, (run (videoLost ++ observations reading (others ++ [7]))
        (opened (.usual 1000 2000) fun _ => .epoch)).out = out ∧
      out.countP (opens "T1") = 1 ∧ resultsFor ⟨"T1", 7⟩ out = 2 := by
  obtain ⟨t, unseen⟩ := unseen_floorWithoutVideo
  have lifetimes := (lifetimes_opened (.usual 1000 2000) fun _ => .epoch).steps
    (steps_run videoLost _ rfl)
  have past : handsSinceOpening "T1" ([] ++ floorWithoutVideo.out) = [7] := by decide +kernel
  have remembers : t.Remembers [7] := past ▸ lifetimes.remembers unseen.isOpen
  obtain ⟨hands, only⟩ := Unseen.run_observations (r := reading) (others ++ [7]) unseen
    (lifetimes.tableId unseen.isOpen) remembers (anew_of_nodup nodup many)
  have openings : floorWithoutVideo.out.countP (opens "T1") = 1 := by decide +kernel
  have results : (handsOf "T1" floorWithoutVideo.out).count 7 = 1 := by decide +kernel
  have absent : others.count 7 = 0 := List.count_eq_zero.mpr (List.nodup_cons.mp nodup).1
  refine ⟨floorWithoutVideo.out ++
    (run (observations reading (others ++ [7])) floorWithoutVideo.state).out, ?_, ?_, ?_⟩
  · rw [run, Emission.forEach_append]
    rfl
  · have no_opening := List.countP_eq_zero.mpr fun e he opening =>
      only.no_opening "T1" (opens_iff.mp opening ▸ he)
    rw [List.countP_append, openings]
    exact congrArg (1 + ·) no_opening
  · have again : (handsOf "T1"
        (run (observations reading (others ++ [7])) floorWithoutVideo.state).out).count 7 = 1 := by
      refine (congrArg (List.count 7) hands).trans ?_
      rw [List.count_append, absent]
      rfl
    rw [resultsFor_eq, handsOf_append, List.count_append, results, again]

/-- Hands other than the one that is resolved first. -/
def others : List HandNumber :=
  (List.range' 8 Table.History.capacity).map UInt32.ofNat

theorem nodup_others : (7 :: others).Nodup := by
  have all : 7 :: others = (List.range' 7 (Table.History.capacity + 1)).map UInt32.ofNat := rfl
  rw [all]
  refine List.Nodup.map_on (fun x hx y hy same => ?_) List.nodup_range'
  rw [List.mem_range'_1, Table.History.capacity] at hx hy
  have same' : x % 2 ^ 32 = y % 2 ^ 32 := congrArg UInt32.toNat same
  rwa [Nat.mod_eq_of_lt (by omega), Nat.mod_eq_of_lt (by omega)] at same'

/-- **A hand may have a second result**, and it may even have one if its table is opened only
once. -/
theorem forgotten_of_run :
    ¬ (∀ (s : Settings) (calendar : Nat → UtcTime) (qs : List Request) (hand : HandId),
      resultsFor hand (run qs (opened s calendar)).out ≤ 1) ∧
    ¬ (∀ (s : Settings) (calendar : Nat → UtcTime) (qs : List Request) (hand : HandId),
      (run qs (opened s calendar)).out.countP (opens hand.tableId) ≤ 1 →
        resultsFor hand (run qs (opened s calendar)).out ≤ 1) := by
  constructor
  · intro h
    have once := h (.usual 1000 2000) (fun _ => .epoch) removedTwice ⟨"T1", 7⟩
    exact absurd once (by decide +kernel)
  · intro h
    obtain ⟨out, ran, openings, results⟩ := resultsFor_after nodup_others (by simp [others])
    have once := h _ _ _ ⟨"T1", 7⟩ (ran ▸ openings.le)
    rw [ran] at once
    omega

end Floor

end Showdown
