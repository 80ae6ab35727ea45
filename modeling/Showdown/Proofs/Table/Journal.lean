import Showdown.Proofs.Table.Fate

/-!
# The journal of a table

Whatever a table does can be told from what it has heard and put out: the journal lists its turns,
each with the outputs of that turn, and knows nothing of the state. `wait?` reads off it how a hand
waits, that is, the turns since the one that opened it, and `heard` whether a source delivers. In
terms of these, `Reason` says for each of the four ways in which a hand is resolved when that is,
and `Explained` says what the result must be.

The entries of a journal stand in the order in which it is read, the latest one first.
-/

namespace Showdown.Table

/-- A turn of a table, and what was put out in it. -/
structure Entry where
  /-- The turn. -/
  turn : Turn
  /-- What was put out. -/
  out : List Output

/-- The journal after some turns that are taken one after another. -/
def journal : List Turn → List Entry → Table → List Entry
  | [], log, _ => log
  | u :: us, log, t => journal us (⟨u, (take u t).out⟩ :: log) (take u t).state

/-- The journal of a run. -/
def journalOf (tableId : TableId) (settings : Settings) (ms : List Message) : List Entry :=
  journal (turns ms) [] (opened tableId settings)

/-- All that was put out, in order. -/
def outputs : List Entry → List Output
  | [] => []
  | e :: log => outputs log ++ e.out

theorem outputs_journal (us : List Turn) (log : List Entry) (t : Table) :
    outputs (journal us log t) = outputs log ++ (Emission.forEach take us t).out := by
  induction us generalizing log t with
  | nil => simp [journal]
  | cons u us ih =>
    rw [journal, ih, outputs, List.append_assoc]
    rfl

/-- The journal of a run has all outputs of the run. -/
theorem outputs_journalOf (tableId : TableId) (settings : Settings) (ms : List Message) :
    outputs (journalOf tableId settings ms) = ((opened tableId settings).run ms).out := by
  rw [journalOf, outputs_journal, run_eq]
  rfl

/-- What each turn keeps of the journal and the table holds of a journal and some table in the
end. -/
theorem journal_keeps {P : List Entry → Table → Prop}
    (step : ∀ log t u, P log t → P (⟨u, (take u t).out⟩ :: log) (take u t).state) (us : List Turn) :
    ∀ log t, P log t → ∃ t', P (journal us log t) t' := by
  induction us with
  | nil => exact fun log t h => ⟨t, h⟩
  | cons u us ih => exact fun log t h => ih _ _ (step log t u h)

/-- Every result is handed on in one of the turns. -/
theorem exists_of_mem_outputs {log : List Entry} {r : FusedHand} (h : r ∈ results (outputs log)) :
    ∃ e earlier, e :: earlier <:+ log ∧ r ∈ results e.out := by
  induction log with
  | nil => cases h
  | cons e log ih =>
    rw [outputs, results_append, List.mem_append] at h
    rcases h with h | h
    · obtain ⟨e', earlier, suffix, hr⟩ := ih h
      exact ⟨e', earlier, suffix.trans (List.suffix_cons e log), hr⟩
    · exact ⟨e, log, List.suffix_rfl, h⟩

/-- Whether a source delivers, as far as was heard. -/
def heard (source : Source) : List Entry → Liveness
  | [] => .fresh
  | e :: log => (e.turn.tells? source).getD (heard source log)

/-! ### Waiting -/

/-- The turns since a hand was opened. -/
structure Wait where
  /-- The one that opened it. -/
  opening : Entry
  /-- The others. -/
  later : List Entry

namespace Wait

/-- All turns since the hand was opened. -/
def entries (w : Wait) : List Entry :=
  w.later ++ [w.opening]

/-- The hand waits for one more turn. -/
def add (w : Wait) (e : Entry) : Wait :=
  { w with later := e :: w.later }

theorem entries_add (w : Wait) (e : Entry) : (w.add e).entries = e :: w.entries := rfl

/-- The last card readings of a hand. -/
def primary? (w : Wait) (hand : HandNumber) : Option RankedHand :=
  w.entries.findSome? fun e => e.turn.primary? hand

/-- The last video observation of a hand. -/
def secondary? (w : Wait) (hand : HandNumber) : Option Sighting :=
  w.entries.findSome? fun e => e.turn.secondary? hand

theorem primary?_opening (e : Entry) (hand : HandNumber) :
    (⟨e, []⟩ : Wait).primary? hand = e.turn.primary? hand := by
  simp [primary?, entries]

theorem secondary?_opening (e : Entry) (hand : HandNumber) :
    (⟨e, []⟩ : Wait).secondary? hand = e.turn.secondary? hand := by
  simp [secondary?, entries]

/-- A source has observed a hand. -/
def Sees (w : Wait) (hand : HandNumber) (source : Source) : Prop :=
  ∃ e ∈ w.entries, e.turn.source? hand = some source

/-- Only the other source has observed a hand. -/
def Lacks (w : Wait) (hand : HandNumber) (source : Source) : Prop :=
  w.Sees hand source.other ∧ ¬ w.Sees hand source

end Wait

/-- A turn opens a hand that does not wait: the hand is observed, and is not one of the last 512
that were resolved. -/
def Opens (hand : HandNumber) (log : List Entry) (e : Entry) : Prop :=
  (e.turn.source? hand).isSome ∧ hand ∉ (resolved (outputs log)).rtake History.capacity

instance (hand : HandNumber) (log : List Entry) (e : Entry) : Decidable (Opens hand log e) :=
  inferInstanceAs (Decidable (_ ∧ _))

/-- How a hand waits, if it does. -/
def wait? (hand : HandNumber) : List Entry → Option Wait
  | [] => none
  | e :: log =>
    if hand ∈ resolved e.out then none
    else
      match wait? hand log with
      | some w => some (w.add e)
      | none => if Opens hand log e then some ⟨e, []⟩ else none

/-- The turns since a hand was opened up to one in which it is resolved. -/
def waitUpTo (hand : HandNumber) (log : List Entry) (e : Entry) : Wait :=
  match wait? hand log with
  | some w => w.add e
  | none => ⟨e, []⟩

/-! ### Results -/

/-- When a hand is resolved in a certain way. -/
def Reason (tableId : TableId) (hand : HandNumber) (log : List Entry) (e : Entry) :
    Resolution → Prop
  -- the second source observes it for the first time
  | .matched => ∃ w, wait? hand log = some w ∧
      ∃ source, w.Lacks hand source ∧ e.turn.source? hand = some source
  -- the timer runs out that was started when it was opened
  | .windowExpired => ∃ w, wait? hand log = some w ∧
      ∃ generation, .startTimer ⟨tableId, hand, generation⟩ ∈ w.opening.out ∧
        e.turn.expires? hand = some generation
  -- it is opened by one source while the other one is known to be silent, or the source that it
  -- waits for is found to be silent
  | .sourceStale =>
      (wait? hand log = none ∧ Opens hand log e ∧
        ∃ source, e.turn.source? hand = some source.other ∧ heard source log = .stale) ∨
      ∃ w, wait? hand log = some w ∧
        ∃ source, w.Lacks hand source ∧ e.turn.tells? source = some .stale
  -- the table comes to its end
  | .shutdown => e.turn.ends = true

/-- A result is the one that is due after a journal. -/
structure Explained (tableId : TableId) (policy : Policy) (log : List Entry) (e : Entry)
    (r : FusedHand) : Prop where
  /-- It was resolved as it is said to have been. -/
  resolution : ∀ resolution, r.resolution = resolution ↔
    Reason tableId r.handNumber log e resolution
  /-- Except at the end the policy decides on the last observations since the hand was opened. -/
  decided : r.resolution ≠ .shutdown →
    r = policy.decide ⟨tableId, r.handNumber⟩
      ((waitUpTo r.handNumber log e).primary? r.handNumber)
      ((waitUpTo r.handNumber log e).secondary? r.handNumber) r.resolution
  /-- At the end it is left to somebody else to classify the hand. -/
  left : r.resolution = .shutdown → r = Policy.unclassified ⟨tableId, r.handNumber⟩ .shutdown

end Showdown.Table
