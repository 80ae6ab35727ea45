import Showdown.Proofs.Table.Accounts
import Showdown.Proofs.Table.Fate

/-!
# What arrives late

A table remembers the hands of its last 512 results, in their order, and by these it tells what
arrives late. An observation of a hand that does not wait is dropped without a trace if the hand is
one of them, and opens the hand otherwise (`late_iff_of_run`). So a hand that is observed again has
another result only after those of at least 512 other hands.
-/

namespace Showdown.Table

variable {t : Table} {m : Message} {hand : HandNumber}

/-! ### Observations of hands that do not wait -/

/-- Nothing that counts is different at a table: not the hands that wait, the counters, the streak or
the hands that are remembered. -/
structure Undisturbed (t t' : Table) : Prop where
  /-- The same hands wait, with the same observations. -/
  pending : ∀ hand : HandNumber, t'.pending[hand]? = t.pending[hand]?
  /-- Nothing is counted. -/
  tally : t'.tally = t.tally
  /-- The streak of disagreement is as long. -/
  streak : t'.streak = t.streak
  /-- The same hands are remembered. -/
  history : t'.history = t.history

/-- A table opens a hand with an observation: the hand waits if the other source delivers, and is
resolved at once if not. -/
inductive Admits (hand : HandNumber) (m : Message) (t : Table) : Emission Table Output → Prop where
  /-- The hand waits for the other source. -/
  | waits {source : Source} (observed : (Turn.message m).source? hand = some source)
    (fresh : t.liveness source.other = .fresh) : Admits hand m t
      ⟨{ t with
          generation := t.generation + 1
          pending := t.pending.insert hand
            ⟨(Turn.message m).primary? hand, (Turn.message m).secondary? hand,
              t.generation + 1, true⟩ },
        [.startTimer (t.timerKey hand (t.generation + 1)),
          noted (.waiting t.tableId hand source)]⟩
  /-- The other source is silent. -/
  | cut {source : Source} (observed : (Turn.message m).source? hand = some source)
    (stale : t.liveness source.other = .stale) : Admits hand m t
      (({ t with
          generation := t.generation + 1
          pending := t.pending.insert hand
            ⟨(Turn.message m).primary? hand, (Turn.message m).secondary? hand,
              t.generation + 1, false⟩ }.resolve .sourceStale hand).after
        [noted (.waiting t.tableId hand source)])

/-- An observation of a hand that does not wait is its first one, as far as the table knows. -/
theorem handle_of_not_pending (observed : m.observed? = some hand)
    (closed : t.pending[hand]? = none) :
    ∃ source, (Turn.message m).source? hand = some source ∧
      t.handle m = t.openHand hand
        ⟨(Turn.message m).primary? hand, (Turn.message m).secondary? hand, 0, false⟩ source := by
  obtain ⟨source, arrived⟩ : ∃ source, (Turn.message m).source? hand = some source :=
    Option.ne_none_iff_exists'.mp fun none => source?_message_eq_none_iff.mp none observed
  refine ⟨source, arrived, ?_⟩
  rw [← observe_of_unknown closed]
  exact take_of_observed arrived t

theorem late_of_remembered (observed : m.observed? = some hand)
    (closed : t.pending[hand]? = none) (remembered : t.history.contains hand = true) :
    ∃ source, t.handle m = ⟨t, [noted (.late t.tableId hand source)]⟩ := by
  obtain ⟨source, -, eq⟩ := handle_of_not_pending observed closed
  exact ⟨source, eq.trans (openHand_of_remembered remembered _ _)⟩

theorem admits_of_unknown (observed : m.observed? = some hand) (closed : t.pending[hand]? = none)
    (unknown : t.history.contains hand = false) : Admits hand m t (t.handle m) := by
  obtain ⟨source, arrived, eq⟩ := handle_of_not_pending observed closed
  rw [eq]
  cases live : t.liveness source.other with
  | fresh =>
    rw [openHand_of_fresh unknown live]
    exact .waits arrived live
  | stale =>
    rw [openHand_of_stale unknown live]
    exact .cut arrived live

/-- A hand that is opened leaves a trace: it waits, or its result is counted. -/
theorem Admits.disturbs {e : Emission Table Output} (a : Admits hand m t e)
    (closed : t.pending[hand]? = none) : ¬ Undisturbed t e.state := by
  intro same
  cases a with
  | waits =>
    have waits := same.pending hand
    simp [closed] at waits
  | cut =>
    have counted := (resolve_put t hand ⟨(Turn.message m).primary? hand,
      (Turn.message m).secondary? hand, t.generation + 1, false⟩ (t.generation + 1)
      .sourceStale).tally
    have uncounted := congrArg Tally.total (counted.symm.trans same.tally)
    rw [Tally.total_add] at uncounted
    exact absurd uncounted (Nat.succ_ne_self _)

/-! ### Runs -/

theorem remembers_run (tableId : TableId) (settings : Settings) (us : List Turn) :
    let e := Emission.forEach take us (opened tableId settings)
    Remembers e.state (resolved e.out) := by
  refine Emission.forEach_establishes (P := fun t out => Remembers t (resolved out))
    (remembers_opened tableId settings) (fun u t out r => ?_) us
  rw [resolved_append]
  exact r.moves (moves_take u t)

/-- **A table remembers the hands of its last 512 results, and by these alone it tells what arrives
late.** After any turns in any order, the hands remembered are those of the last 512 results, oldest
first, no two of them are the same, and they are the ones that are looked up. An observation of a
hand that does not wait leaves everything as it was if and only if the hand is one of them; then it
is dropped, and otherwise the hand is opened. Between two results for one hand stand results for at
least 512 others. -/
theorem late_iff_of_run (tableId : TableId) (settings : Settings) (us : List Turn) :
    let e := Emission.forEach take us (opened tableId settings)
    let last := (resolved e.out).rtake 512
    e.state.history.order = last ∧ last.Nodup ∧
    (∀ hand, hand ∈ e.state.history.hands ↔ hand ∈ last) ∧
    (∀ m hand, m.observed? = some hand → e.state.pending[hand]? = none →
      (Undisturbed e.state (e.state.handle m).state ↔ hand ∈ last) ∧
      (hand ∈ last → ∃ source, e.state.handle m = ⟨e.state, [noted (.late tableId hand source)]⟩) ∧
      (hand ∉ last → Admits hand m e.state (e.state.handle m))) ∧
    Spaced 512 (resolved e.out) := by
  intro e last
  have remembers : Remembers e.state (resolved e.out) := remembers_run tableId settings us
  have same : e.state.tableId = tableId :=
    tableId_moves (.forEach moves_take us (opened tableId settings))
  have order : e.state.history.order = last := remembers.order_eq
  refine ⟨order, order ▸ remembers.sound.nodup, fun hand => ?_, fun m hand observed closed => ?_,
    remembers.spaced⟩
  · rw [remembers.sound.mem_hands, order]
  · have known : e.state.history.contains hand = true ↔ hand ∈ last := by
      rw [remembers.sound.contains_iff, order]
    have dropped (h : hand ∈ last) :
        ∃ source, e.state.handle m = ⟨e.state, [noted (.late tableId hand source)]⟩ := by
      rw [← same]
      exact late_of_remembered observed closed (known.mpr h)
    have admitted (h : hand ∉ last) : Admits hand m e.state (e.state.handle m) :=
      admits_of_unknown observed closed (by simpa using mt known.mp h)
    refine ⟨⟨fun undisturbed => ?_, fun h => ?_⟩, dropped, admitted⟩
    · by_contra unknown
      exact (admitted unknown).disturbs closed undisturbed
    · obtain ⟨source, eq⟩ := dropped h
      rw [eq]
      exact ⟨fun _ => rfl, rfl, rfl, rfl⟩

/-- A hand that the video observes while the card readers are silent is resolved at once, and when it
is observed again, the observation leaves no trace. -/
theorem late_iff_of_secondSighting :
    let e := Emission.forEach take [.message (.health .stale .fresh), .message (.secondary unnamed)]
      (opened "T1" ⟨.standard, 1000, 3⟩)
    e.state.pending[(7 : HandNumber)]? = none ∧
      Undisturbed e.state (e.state.handle (.secondary unnamed)).state := by
  intro e
  obtain ⟨-, -, -, late, -⟩ := late_iff_of_run "T1" ⟨.standard, 1000, 3⟩
    [.message (.health .stale .fresh), .message (.secondary unnamed)]
  have closed : e.state.pending[(7 : HandNumber)]? = none := by
    rw [← Option.isNone_iff_eq_none]
    decide +kernel
  exact ⟨closed, (late (.secondary unnamed) 7 rfl closed).1.mpr (by decide +kernel)⟩

end Showdown.Table
