import Showdown.Proofs.Table.Journal

/-!
# Tables follow the policy

What a table keeps of a hand that waits is what its journal tells of it (`Pictures`), and with each
turn this remains so (`Mirrors.take`). So every result of a run is the one that is due by the
journal alone (`refines_of_run`): the policy decides on the last observations since the hand was
opened, and how the hand is resolved depends on the turn only. In particular, results that rest on
the same observations differ at most in how they came about.
-/

namespace Showdown

/-! ### The policy -/

/-- The resolution is put down in a result, and changes nothing else of it. -/
theorem Policy.decide_with (policy : Policy) (hand : HandId) (primary : Option RankedHand)
    (secondary : Option Sighting) (resolution other : Resolution) :
    { policy.decide hand primary secondary resolution with resolution := other } =
      policy.decide hand primary secondary other := by
  unfold decide
  split
  · rfl
  · split
    · split
      · split <;> rfl
      · rfl
    · rfl

namespace Table

variable {tableId : TableId} {settings : Settings} {hand : HandNumber} {log : List Entry}
  {t : Table} {e : Entry} {u : Turn} {p : Pending} {w : Wait}

/-! ### What is held of a hand -/

/-- A hand waits as its journal tells. -/
structure Pictures (tableId : TableId) (hand : HandNumber) (p : Pending) (w : Wait) : Prop where
  /-- The last card readings are held. -/
  primary : p.primary = w.primary? hand
  /-- The last video observation is held. -/
  secondary : p.secondary = w.secondary? hand
  /-- One of the two is missing. -/
  awaits : p.awaited.isSome
  /-- The opening is the one for which a timer was started. -/
  generation : ∀ generation,
    .startTimer ⟨tableId, hand, generation⟩ ∈ w.opening.out ↔ generation = p.generation

namespace Pictures

theorem has_iff_sees (h : Pictures tableId hand p w) (source : Source) :
    p.has source = true ↔ w.Sees hand source := by
  cases source with
  | primary =>
    simp only [Pending.has, h.primary, Wait.primary?, List.findSome?_isSome_iff, Wait.Sees,
      Turn.source?_eq_primary_iff]
  | secondary =>
    simp only [Pending.has, h.secondary, Wait.secondary?, List.findSome?_isSome_iff, Wait.Sees,
      Turn.source?_eq_secondary_iff]

theorem awaited_iff_lacks (h : Pictures tableId hand p w) (source : Source) :
    p.awaited = some source ↔ w.Lacks hand source := by
  rw [Pending.awaited_eq_some_iff, Wait.Lacks, ← h.has_iff_sees, ← h.has_iff_sees,
    Bool.not_eq_true]

theorem lacks_of_missing (h : Pictures tableId hand p w) {source : Source}
    (missing : p.has source = false) : w.Lacks hand source :=
  (h.awaited_iff_lacks source).mp (Pending.awaited_of_missing h.awaits missing)

theorem primary_add (h : Pictures tableId hand p w) (e : Entry) :
    (p.put hand e.turn).primary = (w.add e).primary? hand := by
  rw [Wait.primary?, Wait.entries_add, List.findSome?_cons, Pending.put, h.primary]
  cases e.turn.primary? hand <;> rfl

theorem secondary_add (h : Pictures tableId hand p w) (e : Entry) :
    (p.put hand e.turn).secondary = (w.add e).secondary? hand := by
  rw [Wait.secondary?, Wait.entries_add, List.findSome?_cons, Pending.put, h.secondary]
  cases e.turn.secondary? hand <;> rfl

/-- A turn that brings nothing from the source that is missing leaves the hand waiting. -/
theorem add (h : Pictures tableId hand p w) (e : Entry)
    (unchanged : ∀ source, e.turn.source? hand = some source → p.has source = true) :
    Pictures tableId hand (p.put hand e.turn) (w.add e) where
  primary := h.primary_add e
  secondary := h.secondary_add e
  awaits := by
    rw [Pending.awaited_put unchanged]
    exact h.awaits
  generation := h.generation

end Pictures

theorem pictures_opening (e : Entry) {source : Source}
    (observed : e.turn.source? hand = some source) {generation : Nat}
    (started : ∀ g, .startTimer ⟨tableId, hand, g⟩ ∈ e.out ↔ g = generation) (timed : Bool) :
    Pictures tableId hand ⟨e.turn.primary? hand, e.turn.secondary? hand, generation, timed⟩
      ⟨e, []⟩ where
  primary := (Wait.primary?_opening e hand).symm
  secondary := (Wait.secondary?_opening e hand).symm
  awaits := by simp [Pending.awaited_of_observed observed]
  generation := started

/-! ### Waiting -/

theorem wait?_of_resolved {r : FusedHand} (h : resultsOf hand e.out = [r]) :
    wait? hand (e :: log) = none := by
  simp [wait?, mem_resolved_iff, h]

theorem wait?_of_waits (h : resultsOf hand e.out = []) (waits : wait? hand log = some w) :
    wait? hand (e :: log) = some (w.add e) := by
  simp [wait?, mem_resolved_iff, h, waits]

theorem wait?_of_closed (h : resultsOf hand e.out = []) (closed : wait? hand log = none) :
    wait? hand (e :: log) = if Opens hand log e then some ⟨e, []⟩ else none := by
  simp [wait?, mem_resolved_iff, h, closed]

/-! ### Reasons -/

theorem Reason.resolution?_eq {resolution : Resolution}
    (h : Reason tableId hand log e resolution) :
    e.turn.resolution? (wait? hand log).isSome = some resolution := by
  cases resolution with
  | matched =>
    obtain ⟨w, waits, _, _, observed⟩ := h
    rw [Turn.resolution?_of_observed observed, waits]
    rfl
  | windowExpired =>
    obtain ⟨_, _, _, _, runsOut⟩ := h
    exact Turn.resolution?_of_runsOut runsOut _
  | sourceStale =>
    rcases h with ⟨closed, _, _, observed, _⟩ | ⟨_, _, _, _, told⟩
    · rw [Turn.resolution?_of_observed observed, closed]
      rfl
    · exact Turn.resolution?_of_told told _
  | shutdown => exact Turn.resolution?_of_ends h _

/-- There is only one way in which a hand is resolved. -/
theorem Reason.unique {a b : Resolution} (ha : Reason tableId hand log e a)
    (hb : Reason tableId hand log e b) : a = b :=
  Option.some.inj (ha.resolution?_eq.symm.trans hb.resolution?_eq)

theorem Cause.reason {resolution : Resolution} (cause : Cause hand e.turn p resolution)
    (waits : wait? hand log = some w) (pictured : Pictures tableId hand p w) :
    Reason tableId hand log e resolution := by
  cases cause with
  | matched observed missing =>
    exact ⟨w, waits, _, pictured.lacks_of_missing missing, observed⟩
  | expired runsOut => exact ⟨w, waits, _, (pictured.generation _).mpr rfl, runsOut⟩
  | stale awaited told =>
    exact .inr ⟨w, waits, _, (pictured.awaited_iff_lacks _).mp awaited, told⟩

theorem Explained.of_unclassified {r : FusedHand} {policy : Policy}
    (is : r = Policy.unclassified ⟨tableId, hand⟩ .shutdown)
    (reason : Reason tableId hand log e .shutdown) : Explained tableId policy log e r := by
  subst is
  exact ⟨fun other => ⟨fun same => same ▸ reason, fun r' => reason.unique r'⟩,
    fun notEnd => absurd rfl notEnd, fun _ => rfl⟩

theorem Explained.of_decided {r : FusedHand} {policy : Policy} {primary : Option RankedHand}
    {secondary : Option Sighting} {resolution : Resolution}
    (is : r = policy.decide ⟨tableId, hand⟩ primary secondary resolution)
    (reason : Reason tableId hand log e resolution) (notEnd : resolution ≠ .shutdown)
    (first : primary = (waitUpTo hand log e).primary? hand)
    (second : secondary = (waitUpTo hand log e).secondary? hand) :
    Explained tableId policy log e r := by
  have number : r.handNumber = hand := by
    rw [is]
    exact congrArg HandId.handNumber (Policy.id_decide ..)
  have resolution : r.resolution = resolution := by rw [is, Policy.resolution_decide]
  subst first second resolution
  rw [← number] at reason is
  refine ⟨fun other => ⟨fun same => same ▸ reason, fun r' => reason.unique r'⟩, fun _ => is, ?_⟩
  exact fun isEnd => absurd isEnd notEnd

/-! ### Turns -/

/-- A journal and a table go together. -/
structure Mirrors (tableId : TableId) (settings : Settings) (log : List Entry) (t : Table) :
    Prop where
  /-- It is the same table. -/
  sameTable : t.tableId = tableId
  /-- It is tuned as before. -/
  tuned : t.settings = settings
  /-- The table remembers the hands that were resolved of late. -/
  remembers : Remembers t (resolved (outputs log))
  /-- The table takes its sources to deliver or not as was heard. -/
  liveness : ∀ source, t.liveness source = heard source log
  /-- Each hand waits as the journal tells. -/
  waits : ∀ hand : HandNumber, Option.Rel (Pictures tableId hand) t.pending[hand]? (wait? hand log)
  /-- Every result is the one that was due. -/
  explained : ∀ e earlier, e :: earlier <:+ log → ∀ r ∈ results e.out,
    Explained tableId settings.policy earlier e r

theorem mirrors_opened (tableId : TableId) (settings : Settings) :
    Mirrors tableId settings [] (opened tableId settings) where
  sameTable := rfl
  tuned := rfl
  remembers := remembers_opened tableId settings
  liveness := fun source => by cases source <;> rfl
  waits := fun hand => by
    rw [opened, Std.TreeMap.getElem?_emptyc]
    exact .none
  explained := fun e earlier h => by simp at h

namespace Mirrors

theorem contains_iff (m : Mirrors tableId settings log t) (hand : HandNumber) :
    t.history.contains hand = true ↔
      hand ∈ (resolved (outputs log)).rtake History.capacity := by
  rw [m.remembers.sound.contains_iff, m.remembers.order_eq]

theorem wait_of_pending (m : Mirrors tableId settings log t) (hp : t.pending[hand]? = some p) :
    ∃ w, wait? hand log = some w ∧ Pictures tableId hand p w := by
  have rel := m.waits hand
  rw [hp] at rel
  cases hw : wait? hand log with
  | none => rw [hw] at rel; cases rel
  | some w =>
    rw [hw] at rel
    cases rel with
    | some pictured => exact ⟨w, rfl, pictured⟩

theorem closed_of_not_pending (m : Mirrors tableId settings log t)
    (hp : t.pending[hand]? = none) : wait? hand log = none := by
  have rel := m.waits hand
  rw [hp] at rel
  cases hw : wait? hand log with
  | none => rfl
  | some w => rw [hw] at rel; cases rel

/-- An observation opens a hand that the table does not know. -/
theorem opens_of_unknown (m : Mirrors tableId settings log t) {source : Source}
    (observed : e.turn.source? hand = some source) (unknown : t.history.contains hand = false) :
    Opens hand log e := by
  refine ⟨by simp [observed], fun mem => ?_⟩
  rw [← m.contains_iff, unknown] at mem
  cases mem

/-- The journal tells how a hand waits after a turn. -/
theorem waits_take (m : Mirrors tableId settings log t) (u : Turn) (hand : HandNumber) :
    Option.Rel (Pictures tableId hand) (take u t).state.pending[hand]?
      (wait? hand (⟨u, (take u t).out⟩ :: log)) := by
  set e : Entry := ⟨u, (take u t).out⟩ with he
  cases fate_take hand u t with
  | spared unobserved _ _ stands =>
    rw [stands.pending]
    cases hp : t.pending[hand]? with
    | none =>
      have notOpened : ¬ Opens hand log e := by simp [Opens, he, unobserved]
      rw [wait?_of_closed stands.unresolved (m.closed_of_not_pending hp), if_neg notOpened]
      exact .none
    | some p =>
      obtain ⟨w, waits, pictured⟩ := m.wait_of_pending hp
      rw [wait?_of_waits stands.unresolved waits, ← Pending.put_of_unobserved unobserved p]
      refine .some (pictured.add e fun source observed => ?_)
      cases unobserved.symm.trans observed
  | late observed closed known stands =>
    have notOpened : ¬ Opens hand log e :=
      fun opens => opens.2 ((m.contains_iff hand).mp known)
    rw [stands.pending, closed, wait?_of_closed stands.unresolved (m.closed_of_not_pending closed),
      if_neg notOpened]
    exact .none
  | opened observed closed unknown _ waits _ unresolved started _ =>
    have opens : Opens hand log e := m.opens_of_unknown observed unknown
    rw [waits, wait?_of_closed unresolved (m.closed_of_not_pending closed), if_pos opens]
    refine .some (pictures_opening e observed (fun generation => ?_) true)
    rw [← started generation, timerKey, m.sameTable]
  | replaced observed waited held waits unresolved _ =>
    obtain ⟨w, waits', pictured⟩ := m.wait_of_pending waited
    rw [waits, wait?_of_waits unresolved waits']
    refine .some (pictured.add e fun source observed' => ?_)
    obtain rfl := Option.some.inj (observed.symm.trans observed')
    exact held
  | cut _ _ _ _ goes | resolved _ _ goes | givenUp _ _ goes =>
    rw [goes.gone, wait?_of_resolved (e := e) goes.results]
    exact .none

/-- The results of a turn are those that are due. -/
theorem explained_take (m : Mirrors tableId settings log t) (u : Turn) {r : FusedHand}
    (hr : r ∈ results (take u t).out) :
    Explained tableId settings.policy log ⟨u, (take u t).out⟩ r := by
  set e : Entry := ⟨u, (take u t).out⟩ with he
  generalize number : r.handNumber = hand
  have own : r ∈ resultsOf hand (take u t).out := by simp [resultsOf, hr, number]
  have handId : t.handId hand = ⟨tableId, hand⟩ := by rw [Table.handId, m.sameTable]
  cases fate_take hand u t with
  | spared _ _ _ stands | late _ _ _ stands => simp [stands.unresolved] at own
  | opened _ _ _ _ _ _ unresolved _ _ | replaced _ _ _ _ unresolved _ => simp [unresolved] at own
  | @cut source observed closed unknown stale goes =>
    rw [goes.results, List.mem_singleton, fuse, handId, m.tuned] at own
    have waits := m.closed_of_not_pending closed
    have upTo : waitUpTo hand log e = ⟨e, []⟩ := by rw [waitUpTo, waits]
    have opens : Opens hand log e := m.opens_of_unknown observed unknown
    have silent : heard source.other log = .stale := (m.liveness source.other).symm.trans stale
    have reason : Reason tableId hand log e .sourceStale := by
      refine .inl ⟨waits, opens, source.other, ?_, silent⟩
      cases source <;> exact observed
    refine .of_decided own reason Resolution.noConfusion ?_ ?_
    · rw [upTo, Wait.primary?_opening]
    · rw [upTo, Wait.secondary?_opening]
  | @resolved p waited resolution cause goes =>
    rw [goes.results, List.mem_singleton, fuse, handId, m.tuned] at own
    obtain ⟨w, waits, pictured⟩ := m.wait_of_pending waited
    have upTo : waitUpTo hand log e = w.add e := by rw [waitUpTo, waits]
    have notEnd : resolution ≠ .shutdown := by cases cause <;> exact Resolution.noConfusion
    refine .of_decided own (cause.reason (e := e) waits pictured) notEnd ?_ ?_
    · rw [upTo, ← pictured.primary_add e]
    · rw [upTo, ← pictured.secondary_add e]
  | givenUp waited ends goes =>
    rw [goes.results, List.mem_singleton, handId] at own
    exact .of_unclassified own (e := e) ends

theorem take (m : Mirrors tableId settings log t) (u : Turn) :
    Mirrors tableId settings (⟨u, (take u t).out⟩ :: log) (take u t).state where
  sameTable := (tableId_moves (moves_take u t)).trans m.sameTable
  tuned := (settings_moves (moves_take u t)).trans m.tuned
  remembers := by
    rw [outputs, resolved_append]
    exact m.remembers.moves (moves_take u t)
  liveness := fun source => by rw [liveness_take, heard, m.liveness]
  waits := m.waits_take u
  explained := by
    intro e earlier h r hr
    rcases List.suffix_cons_iff.mp h with same | h
    · obtain ⟨rfl, rfl⟩ := List.cons.inj same
      exact m.explained_take u hr
    · exact m.explained e earlier h r hr

end Mirrors

theorem mirrors_journalOf (tableId : TableId) (settings : Settings) (ms : List Message) :
    ∃ t, Mirrors tableId settings (journalOf tableId settings ms) t :=
  journal_keeps (fun _ _ u m => m.take u) (turns ms) [] _ (mirrors_opened tableId settings)

/-! ### Hands that are not known -/

/-- What comes of a hand depends on its observations, but not on when they arrive. -/
structure Settles (hand : HandNumber) (t : Table) : Prop where
  /-- If the other source is known to be silent, the hand is resolved at once. -/
  atOnce : ∀ u source, u.source? hand = some source → t.liveness source.other = .stale →
    resultsOf hand (take u t).out = [t.settings.policy.decide (t.handId hand) (u.primary? hand)
      (u.secondary? hand) .sourceStale]
  /-- Otherwise its timer can run out, and the result is the same but for the resolution. -/
  inTime : ∀ u source, u.source? hand = some source → t.liveness source.other = .fresh →
    resultsOf hand (Emission.forEach take
      [u, .message (.expired hand (t.generation + 1))] t).out =
    [{ t.settings.policy.decide (t.handId hand) (u.primary? hand) (u.secondary? hand) .sourceStale
        with resolution := .windowExpired }]
  /-- If both sources deliver, it does not matter which one is the first. -/
  inAnyOrder : ∀ r s, r.handNumber = hand → s.handNumber = hand →
    (∀ source, t.liveness source = .fresh) →
    ∀ us, us = [.message (.primary r), .message (.secondary s)] ∨
        us = [.message (.secondary s), .message (.primary r)] →
      resultsOf hand (Emission.forEach take us t).out =
        [t.settings.policy.decide (t.handId hand) (some r) (some s) .matched]

/-- A hand that waits is resolved in the next turn. -/
theorem resultsOf_two {v : Turn} {source : Source} {resolution : Resolution}
    (observed : u.source? hand = some source) (closed : t.pending[hand]? = none)
    (unknown : t.history.contains hand = false) (fresh : t.liveness source.other = .fresh)
    (cause : Cause hand v ⟨u.primary? hand, u.secondary? hand, t.generation + 1, true⟩ resolution) :
    resultsOf hand (Emission.forEach take [u, v] t).out =
      [t.settings.policy.decide (t.handId hand) ((v.primary? hand).or (u.primary? hand))
        ((v.secondary? hand).or (u.secondary? hand)) resolution] := by
  obtain ⟨waits, unresolved, -⟩ := waits_of_unknown observed closed unknown fresh
  have moves := moves_take u t
  have goes := goes_of_cause waits cause
  rw [fuse_congr (tableId_moves moves) (settings_moves moves)] at goes
  simp only [Emission.forEach_cons, Emission.forEach_nil, Emission.out_andThen, Emission.out_quiet,
    List.append_nil, resultsOf_append, unresolved, goes.results, List.nil_append]
  rfl

theorem settles_of_unknown (closed : t.pending[hand]? = none)
    (unknown : t.history.contains hand = false) : Settles hand t where
  atOnce := fun u source observed stale => goes_of_unknown observed closed unknown stale
  inTime := by
    intro u source observed fresh
    have cause : Cause hand (.message (.expired hand (t.generation + 1)))
        ⟨u.primary? hand, u.secondary? hand, t.generation + 1, true⟩ .windowExpired :=
      .expired (by simp [Turn.expires?])
    rw [resultsOf_two observed closed unknown fresh cause, Policy.decide_with]
    rfl
  inAnyOrder := by
    intro r s hr hs fresh us order
    have first : (Turn.message (.primary r)).source? hand = some .primary := by
      simp [Turn.source?, hr]
    have second : (Turn.message (.secondary s)).source? hand = some .secondary := by
      simp [Turn.source?, hs]
    rcases order with rfl | rfl
    · have missing : Pending.has ⟨(Turn.message (.primary r)).primary? hand,
          (Turn.message (.primary r)).secondary? hand, t.generation + 1, true⟩ .secondary = false :=
        rfl
      have two := resultsOf_two first closed unknown (fresh _) (.matched second missing)
      simpa [Turn.primary?, Turn.secondary?, hr, hs] using two
    · have missing : Pending.has ⟨(Turn.message (.secondary s)).primary? hand,
          (Turn.message (.secondary s)).secondary? hand, t.generation + 1, true⟩ .primary = false :=
        rfl
      have two := resultsOf_two second closed unknown (fresh _) (.matched first missing)
      simpa [Turn.primary?, Turn.secondary?, hr, hs] using two

/-! ### Runs -/

/-- A result is handed on in a turn of a run, and there are the turns before it. -/
structure HandedOn (tableId : TableId) (settings : Settings) (ms : List Message)
    (log : List Entry) (e : Entry) (r : FusedHand) : Prop where
  /-- The turn is one of the run, and these are the ones before it. -/
  journal : e :: log <:+ journalOf tableId settings ms
  /-- The result is handed on in it. -/
  result : r ∈ results e.out

/-- Every result of a run is handed on in one of its turns. -/
theorem handedOn_of_mem_results {ms : List Message} {r : FusedHand}
    (h : r ∈ results ((opened tableId settings).run ms).out) :
    ∃ log e, HandedOn tableId settings ms log e r := by
  rw [← outputs_journalOf] at h
  obtain ⟨e, log, journal, result⟩ := exists_of_mem_outputs h
  exact ⟨log, e, journal, result⟩

theorem HandedOn.explained {ms : List Message} {r : FusedHand}
    (h : HandedOn tableId settings ms log e r) : Explained tableId settings.policy log e r := by
  obtain ⟨_, m⟩ := mirrors_journalOf tableId settings ms
  exact m.explained e log h.journal r h.result

/-- The last observations of a hand are the same. -/
structure SameReadings (hand : HandNumber) (w w' : Wait) : Prop where
  /-- The card readings. -/
  primary : w'.primary? hand = w.primary? hand
  /-- The video observation. -/
  secondary : w'.secondary? hand = w.secondary? hand

/-- **A table follows the policy.** Whatever messages a table handles, every result is the one that
is due by what the table has heard since the hand was opened. Results for a hand that rest on the
same observations, in runs of one policy, differ at most in how they came about. -/
theorem refines_of_run (tableId : TableId) (settings : Settings) (ms : List Message) :
    outputs (journalOf tableId settings ms) = ((opened tableId settings).run ms).out ∧
    (∀ log e r, HandedOn tableId settings ms log e r →
      Explained tableId settings.policy log e r) ∧
    (∀ settings' ms' log e r log' e' r', settings'.policy = settings.policy →
      HandedOn tableId settings ms log e r → HandedOn tableId settings' ms' log' e' r' →
      r.handNumber = r'.handNumber → r.resolution ≠ .shutdown → r'.resolution ≠ .shutdown →
      SameReadings r.handNumber (waitUpTo r.handNumber log e) (waitUpTo r.handNumber log' e') →
      r' = { r with resolution := r'.resolution }) ∧
    ∀ (t : Table) (hand : HandNumber), t.pending[hand]? = none →
      t.history.contains hand = false → Settles hand t := by
  refine ⟨outputs_journalOf tableId settings ms, fun _ _ _ h => h.explained, ?_,
    fun _ _ => settles_of_unknown⟩
  intro settings' ms' log e r log' e' r' policy h h' number notEnd notEnd' same
  have left := h.explained.decided notEnd
  have right := h'.explained.decided notEnd'
  rw [← number, policy, same.primary, same.secondary] at right
  calc r' = _ := right
    _ = { r with resolution := r'.resolution } := by rw [left, Policy.decide_with, ← left]

/-- The timer runs out that was started when the video observed the hand. -/
theorem refines_of_unnamed : ∃ log e r,
    HandedOn "T1" ⟨.standard, 1000, 3⟩ [.secondary unnamed, .expired 7 1] log e r ∧
      r.handNumber = 7 ∧ Reason "T1" 7 log e .windowExpired ∧
      r = Policy.standard.decide ⟨"T1", 7⟩ ((waitUpTo 7 log e).primary? 7)
        ((waitUpTo 7 log e).secondary? 7) .windowExpired := by
  have results : (results ((opened "T1" ⟨.standard, 1000, 3⟩).run
      [.secondary unnamed, .expired 7 1]).out).map (fun r => (r.handNumber, r.resolution)) =
        [(7, .windowExpired)] := by decide +kernel
  obtain ⟨r, hr, is⟩ := List.mem_map.mp (results ▸ List.mem_singleton_self _)
  obtain ⟨number, resolution⟩ := Prod.mk.inj is
  obtain ⟨log, e, given⟩ := handedOn_of_mem_results hr
  obtain ⟨_, explained, _⟩ := refines_of_run "T1" ⟨.standard, 1000, 3⟩
    [.secondary unnamed, .expired 7 1]
  have due := explained log e r given
  refine ⟨log, e, r, given, number, ?_, ?_⟩
  · exact number ▸ (due.resolution .windowExpired).mp resolution
  · have decided := due.decided (by simp [resolution])
    rwa [number, resolution] at decided

end Table

end Showdown
