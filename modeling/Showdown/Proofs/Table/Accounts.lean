import Showdown.Proofs.Table.Memory

/-!
# No hand is lost

A hand that was observed waits, has a result, or had one that is still remembered. A waiting hand
waits until it has a result, and a table that is shut down leaves no hand waiting.
-/

namespace Showdown.Table

/-- A hand waits, or has a result among some outputs. -/
def Accounts (t : Table) (out : List Output) (hand : HandNumber) : Prop :=
  t.pending[hand]?.isSome ∨ hand ∈ resolved out

/-! ### Waiting hands -/

/-- A waiting hand waits until it has a result. -/
theorem accounts_moves {t : Table} {e : Emission Table Output} (m : Moves t e) {hand : HandNumber}
    (waits : t.pending[hand]?.isSome) : Accounts e.state e.out hand := by
  refine Moves.ensures (P := fun t out => Accounts t out hand) (fun s h => ?_)
    (fun {t left _ r _ _} hp l h => ?_) m (.inl waits)
  · exact h.imp (s.still hand) fun h => by rw [resolved_append]; exact List.mem_append_left _ h
  · rw [Accounts, resolved_append, List.mem_append]
    by_cases own : hand = left
    · have number : r.handNumber = left := congrArg HandId.handNumber l.id
      exact .inr (.inr (by rw [resolved, l.results, own]; simp [number]))
    · rw [l.pending, getElem?_erase_of_ne _ own, ← or_assoc]
      exact .inl h

theorem accounts_handle (m : Message) {t : Table} {hand : HandNumber}
    (h : t.pending[hand]?.isSome) : Accounts (t.handle m).state (t.handle m).out hand :=
  accounts_moves (moves_handle m t) h

/-! ### Observed hands -/

theorem accounts_openHand {t : Table} {hand : HandNumber}
    (unknown : t.history.contains hand = false)
    (p : Pending) (arrived : Source) :
    Accounts (t.openHand hand p arrived).state (t.openHand hand p arrived).out hand := by
  unfold openHand
  simp only [unknown, Bool.false_eq_true, ↓reduceIte]
  split
  · exact .inl (by simp)
  · refine accounts_moves (.after (.stay (Idle.stays (by rfl) rfl _)) (moves_resolve ..)) ?_
    simp

/-- **An observed hand that is not remembered waits or has a result.** -/
theorem accounts_observed {m : Message} {hand : HandNumber} (observed : m.observed? = some hand)
    {t : Table} (unknown : t.history.contains hand = false) :
    Accounts (t.handle m).state (t.handle m).out hand := by
  cases hp : t.pending[hand]? with
  | some p => exact accounts_handle m (by simp [hp])
  | none =>
    obtain ⟨source, q, -, eq⟩ := handle_of_observed observed t
    rw [eq, observe_of_unknown hp]
    exact accounts_openHand unknown q source

/-! ### Tables that are shut down -/

theorem pending_giveUp (hand : HandNumber) (t : Table) :
    (t.giveUp hand).state.pending[hand]? = none := by
  cases hp : t.pending[hand]? with
  | none => rwa [giveUp_of_not_pending hp]
  | some p => simp [(giveUp_leaves hp).pending]

theorem not_pending_giveUp (hand k : HandNumber) (t : Table) (h : t.pending[k]? = none) :
    (t.giveUp hand).state.pending[k]? = none := by
  cases hp : t.pending[hand]? with
  | none => rwa [giveUp_of_not_pending hp]
  | some p => simp [(giveUp_leaves hp).pending, Std.TreeMap.getElem?_erase, h]

/-- A table that was shut down leaves no hand waiting. -/
theorem not_pending_shutdown (t : Table) (k : HandNumber) :
    (t.handle .shutdown).state.pending[k]? = none := by
  refine Emission.forEach_achieves (P := fun k (t : Table) => t.pending[k]? = none) pending_giveUp
    not_pending_giveUp ?_
  exact mem_keys_or_getElem?_eq_none t.pending k

/-- All hands that wait have results when a table is shut down. -/
theorem mem_resolved_shutdown {t : Table} {hand : HandNumber} (h : t.pending[hand]?.isSome) :
    hand ∈ resolved (t.handle .shutdown).out := by
  refine (accounts_handle .shutdown h).resolve_left ?_
  rw [not_pending_shutdown]
  exact Bool.false_ne_true

end Showdown.Table
