import Showdown.Classification
import Showdown.Proofs.Hand.Best

/-!
# Holdings

A holding is what can be evaluated: five, six or seven different cards. Its strength is a place on
the ladder of all strengths, and its category is that of the band in which the strength lies, so the
two never contradict each other: the stronger of two holdings is of no weaker category, and equally
strong ones are of one category (`category_follows_strength`). A holding is no weaker than any other
one within it, in strength and in category (`Holding.noWeaker_of_subset`).
-/

namespace Showdown

/-! ### Strengths and categories -/

namespace Category

/-- A category compares as at least as strong as another one if its value is not larger. -/
theorem isGE_compare_iff {c d : Category} : (compare c d).isGE ↔ c.value ≤ d.value :=
  Nat.isGE_compare

theorem exists_band {s : Nat} (pos : 1 ≤ s) (le : s ≤ Hand.worstStrength) :
    ∃ band ∈ bands, band.1 ≤ s ∧ s ≤ band.2.1 := by
  unfold Hand.worstStrength at le
  simp only [bands, List.exists_mem_cons_iff]
  omega

/-- A weaker strength is of no stronger category, since the bands stand in the order of their
categories. -/
theorem value_ofStrength_mono {s s' : Nat} (pos : 1 ≤ s) (le : s ≤ s')
    (le' : s' ≤ Hand.worstStrength) : (ofStrength s).value ≤ (ofStrength s').value := by
  have ordered : ∀ b ∈ bands, ∀ b' ∈ bands, b.1 ≤ b'.2.1 → b.2.2.value ≤ b'.2.2.value := by
    decide
  obtain ⟨b, hb, first, last⟩ := exists_band pos (le.trans le')
  obtain ⟨b', hb', first', last'⟩ := exists_band (pos.trans le) le'
  rw [ofStrength_of_mem_bands hb first last, ofStrength_of_mem_bands hb' first' last']
  exact ordered b hb b' hb' (first.trans (le.trans last'))

end Category

namespace Hand

theorem FiveCards.one_le_strength (five : FiveCards) : 1 ≤ strengthOfFive five.cards := by
  have range := Set.mem_range_self (f := fun h : FiveCards => strengthOfFive h.cards) five
  rw [range_strength] at range
  exact range.1

theorem one_le_bestStrength {cards : List Card} (nodup : cards.Nodup) : 1 ≤ bestStrength cards :=
  (le_bestStrength_iff nodup 1).mpr ⟨by decide, fun five _ => five.one_le_strength⟩

/-- The best five of some cards are no weaker than the best five of fewer cards. -/
theorem bestStrength_le_of_subset {cards part : List Card} (nodup : cards.Nodup)
    (nodup' : part.Nodup) (sub : part ⊆ cards) : bestStrength cards ≤ bestStrength part :=
  (le_bestStrength_iff nodup' _).mpr ⟨bestStrength_le_worst nodup,
    fun _ within => bestStrength_le nodup (List.Subset.trans within sub)⟩

/-- An evaluation is no weaker than another one, in strength and in category. -/
structure Evaluation.NoWeaker (e f : Evaluation) : Prop where
  /-- The strength is not larger. -/
  strength : e.strength ≤ f.strength
  /-- The category is at least as strong. -/
  category : (compare e.category f.category).isGE

/-! ### Holdings -/

/-- Five, six or seven different cards. -/
structure Holding where
  /-- The cards. -/
  cards : List Card
  /-- There are five to seven of them. -/
  size : cards.length ∈ [5, 6, 7]
  /-- They are different. -/
  nodup : cards.Nodup

namespace Holding

theorem mem_sizes_iff {n : Nat} : n ∈ [5, 6, 7] ↔ 5 ≤ n ∧ n ≤ 7 := by
  simp only [List.mem_cons, List.not_mem_nil, or_false]
  omega

/-- What a holding counts for. -/
def evaluation (h : Holding) : Evaluation :=
  bestFive h.cards

theorem toNat_strength (h : Holding) : h.evaluation.strength.toNat = bestStrength h.cards :=
  toNat_strength_bestFive h.nodup

/-- Just the holdings can be evaluated. -/
theorem evaluateDeal_eq_ok_iff {cards : List Card} {e : Evaluation} :
    Classification.evaluateDeal cards = .ok e ↔
      ∃ h : Holding, h.cards = cards ∧ h.evaluation = e := by
  have holds : (∃ h : Holding, h.cards = cards ∧ h.evaluation = e) ↔
      cards.length ∈ [5, 6, 7] ∧ cards.Nodup ∧ e = bestFive cards :=
    ⟨fun ⟨h, same, eq⟩ => same ▸ ⟨h.size, h.nodup, eq.symm⟩,
      fun ⟨size, nodup, eq⟩ => ⟨⟨cards, size, nodup⟩, rfl, eq.symm⟩⟩
  rw [holds, Classification.evaluateDeal]
  split
  · rename_i seven
    rw [evaluate, evaluateAs_eq_ok_iff]
    simp [DealSize.allows, seven]
  · rename_i other
    rw [evaluateShort, evaluateAs_eq_ok_iff]
    simp [DealSize.allows, other]

theorem evaluateDeal_eq (h : Holding) : Classification.evaluateDeal h.cards = .ok h.evaluation :=
  evaluateDeal_eq_ok_iff.mpr ⟨h, rfl, rfl⟩

/-- The stronger of two holdings is of no weaker category. -/
theorem noWeaker_of_le {h k : Holding} (le : bestStrength h.cards ≤ bestStrength k.cards) :
    h.evaluation.NoWeaker k.evaluation where
  strength := by rwa [UInt16.le_iff_toNat_le, h.toNat_strength, k.toNat_strength]
  category := Category.isGE_compare_iff.mpr <| Category.value_ofStrength_mono
    (one_le_bestStrength h.nodup) le (bestStrength_le_worst k.nodup)

/-- **A holding is no weaker than any other one within it.** -/
theorem noWeaker_of_subset {h k : Holding} (sub : k.cards ⊆ h.cards) :
    h.evaluation.NoWeaker k.evaluation :=
  noWeaker_of_le (bestStrength_le_of_subset h.nodup k.nodup sub)

end Holding

/-- **Categories go with strengths**: the category read off the strength of any five cards is the one
read off the cards, the stronger of two holdings is of no weaker category, and holdings of one
strength are of one category. -/
theorem category_follows_strength :
    (∀ five : FiveCards, Category.ofStrength (strengthOfFive five.cards) = five.category) ∧
    ∀ h k : Holding, ∃ e f, Classification.evaluateDeal h.cards = .ok e ∧
      Classification.evaluateDeal k.cards = .ok f ∧
      (compare e f = .gt → (compare e.category f.category).isGE) ∧
      (e.strength = f.strength → e.category = f.category) := by
  refine ⟨FiveCards.ofStrength_eq_category, fun h k => ⟨_, _, h.evaluateDeal_eq, k.evaluateDeal_eq,
    fun stronger => ?_, fun same => ?_⟩⟩
  · have lt : h.evaluation.strength < k.evaluation.strength := Std.compare_eq_gt.mp stronger
    rw [UInt16.lt_iff_toNat_lt, h.toNat_strength, k.toNat_strength] at lt
    exact (Holding.noWeaker_of_le lt.le).category
  · have equal := congrArg UInt16.toNat same
    rw [h.toNat_strength, k.toNat_strength] at equal
    exact congrArg Category.ofStrength equal

/-- Aces full of kings beat a pair of aces, and count the same with and without idle cards. -/
theorem category_follows_strength_of_fullHouse :
    let aces : List Card := [⟨.clubs, .ace⟩, ⟨.hearts, .ace⟩]
    let kings : List Card := [⟨.hearts, .king⟩, ⟨.spades, .king⟩]
    let idle : List Card := [⟨.diamonds, .two⟩, ⟨.clubs, .five⟩]
    let full : Holding := ⟨aces ++ ⟨.spades, .ace⟩ :: kings, by decide, by decide⟩
    let fuller : Holding := ⟨idle ++ full.cards, by decide, by decide⟩
    let pair : Holding := ⟨aces ++ ⟨.spades, .seven⟩ :: idle, by decide, by decide⟩
    (compare fuller.evaluation pair.evaluation = .gt ∧
      (compare fuller.evaluation.category pair.evaluation.category).isGE) ∧
    fuller.evaluation.strength = full.evaluation.strength ∧
      fuller.evaluation.category = full.evaluation.category := by
  intro aces kings idle full fuller pair
  have at_hand (h k : Holding) : (compare h.evaluation k.evaluation = .gt →
      (compare h.evaluation.category k.evaluation.category).isGE) ∧
      (h.evaluation.strength = k.evaluation.strength →
        h.evaluation.category = k.evaluation.category) := by
    obtain ⟨_, _, he, hf, both⟩ := category_follows_strength.2 h k
    obtain rfl := Except.ok.inj (h.evaluateDeal_eq.symm.trans he)
    obtain rfl := Except.ok.inj (k.evaluateDeal_eq.symm.trans hf)
    exact both
  have stronger : compare fuller.evaluation pair.evaluation = .gt := by decide +kernel
  have same : fuller.evaluation.strength = full.evaluation.strength := by decide +kernel
  exact ⟨⟨stronger, (at_hand fuller pair).1 stronger⟩, same, (at_hand fuller full).2 same⟩

end Hand

end Showdown
