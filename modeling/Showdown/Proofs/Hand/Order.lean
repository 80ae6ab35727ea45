import Showdown.Proofs.Hand.Cover
import Showdown.Proofs.Hand.Words
import Mathlib.Order.Interval.Set.Defs

/-!
# The order of strengths is the order of hands

Strengths are places on a ladder that stands in the order of standings, so the smaller of two
strengths is that of the better hand, and equal strengths are those of tying hands.
-/

namespace Showdown.Hand

namespace FiveCards

/-- **The hand with the smaller strength is the one that beats the other.** -/
theorem strength_lt_iff (a b : FiveCards) :
    strengthOfFive a.cards < strengthOfFive b.cards ↔ a.Beats b := by
  obtain ⟨ha, place⟩ := a.hasPlace
  obtain ⟨hb, place'⟩ := b.hasPlace
  rw [place, place', Nat.add_lt_add_iff_left]
  exact idxOf_lt_idxOf_iff (fun _ _ => Standing.Beats.asymm) pairwise_ladder ha hb

/-- **Hands of one strength are those that tie.** -/
theorem strength_eq_iff (a b : FiveCards) :
    strengthOfFive a.cards = strengthOfFive b.cards ↔ a.Ties b := by
  rw [Ties, ← strength_lt_iff, ← strength_lt_iff]
  omega

/-- **The strengths are the numbers from 1 to 7462.** -/
theorem range_strength :
    Set.range (fun h : FiveCards => strengthOfFive h.cards) = Set.Icc 1 7462 := by
  ext n
  constructor
  · rintro ⟨h, rfl⟩
    obtain ⟨mem, place⟩ := h.hasPlace
    have lt := List.idxOf_lt_length_of_mem mem
    rw [length_ladder] at lt
    change 1 ≤ strengthOfFive h.cards ∧ strengthOfFive h.cards ≤ 7462
    omega
  · rintro ⟨pos, le⟩
    have lt : n - 1 < ladder.length := by rw [length_ladder]; omega
    obtain ⟨h, eq⟩ := exists_standing (List.getElem_mem lt)
    have nodup : ladder.Nodup :=
      pairwise_ladder.imp fun beats same => (same ▸ beats).asymm (same ▸ beats)
    refine ⟨h, ?_⟩
    obtain ⟨-, place⟩ := h.hasPlace
    rw [eq, nodup.idxOf_getElem] at place
    change strengthOfFive h.cards = n
    omega

/-- **The evaluator ranks five cards as players do**: a smaller strength is a better hand and equal
strengths are ties, the strengths are exactly the numbers from 1 to 7462, and no step on the way to
one leaves its word or its cases. -/
theorem strengthOfFive_is_order :
    (∀ a b : FiveCards, (strengthOfFive a.cards < strengthOfFive b.cards ↔ a.Beats b) ∧
      (strengthOfFive a.cards = strengthOfFive b.cards ↔ a.Ties b)) ∧
    Set.range (fun h : FiveCards => strengthOfFive h.cards) = Set.Icc 1 7462 ∧
    ∀ h : FiveCards, strengthOfFive? h.cards = some (strengthOfFive h.cards) :=
  ⟨fun a b => ⟨strength_lt_iff a b, strength_eq_iff a b⟩, range_strength,
    fun h => h.strengthOfFive?_eq⟩

end FiveCards

end Showdown.Hand
