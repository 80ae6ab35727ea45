import Showdown.Hand.Category
import Showdown.Proofs.Hand.Place

/-!
# Bands of strengths

The category of five cards is their class, where the straight flush to the ace has a name of its
own. The strengths of a category are one of the bands, so the category can be read off the strength
(`FiveCards.ofStrength_eq_category`).
-/

namespace Showdown

/-- A strength in a band has the category of the band, since no two bands overlap. -/
theorem Category.ofStrength_of_mem_bands {band : Nat × Nat × Category} (listed : band ∈ bands)
    {s : Nat} (first : band.1 ≤ s) (last : s ≤ band.2.1) : ofStrength s = band.2.2 := by
  have apart : ∀ b ∈ bands, ∀ b' ∈ bands, b.1 ≤ b'.2.1 → b'.1 ≤ b.2.1 → b = b' := by decide
  cases found : bands.find? fun b => b.1 ≤ s && s ≤ b.2.1 with
  | none =>
    have absent := List.find?_eq_none.mp found band listed
    simp [first, last] at absent
  | some b =>
    have within : b.1 ≤ s ∧ s ≤ b.2.1 := by simpa using List.find?_some found
    have same : band = b := apart band listed b (List.mem_of_find?_eq_some found)
      (first.trans within.2) (within.1.trans last)
    rw [ofStrength, found, same]

namespace Hand

/-- The category of a class, the royal flush being a straight flush. -/
def Class.category : Class → Category
  | straightFlush => .straightFlush
  | fourOfAKind => .fourOfAKind
  | fullHouse => .fullHouse
  | flush => .flush
  | straight => .straight
  | threeOfAKind => .threeOfAKind
  | twoPair => .twoPair
  | onePair => .onePair
  | highCard => .highCard

/-- The category of a standing: that of its class, but for the straight flush to the ace. -/
def Standing.category (s : Standing) : Category :=
  if s.kind = .straightFlush ∧ s.line = [14] then .royalFlush else s.kind.category

/-- The category of five cards, read off the cards. -/
def FiveCards.category (h : FiveCards) : Category :=
  h.standing.category

/-- The strengths of a class are a band, unless the royal flush is among them. -/
theorem Class.band_mem {k : Class} (h : k ≠ .straightFlush) :
    (k.base, k.base + (k.standings.length - 1), k.category) ∈ Category.bands := by
  rw [length_standings]
  cases k
  case straightFlush => exact absurd rfl h
  all_goals decide

theorem Standing.ofStrength_of_line {k : Class} {line : List Nat} (h : line ∈ k.lines) :
    Category.ofStrength (k.base + k.lines.idxOf line) = (Standing.mk k line).category := by
  by_cases flush : k = .straightFlush
  · subst flush
    obtain ⟨top, mem, rfl⟩ := List.mem_map.mp h
    have all : ∀ t ∈ FiveCards.tops, Category.ofStrength (Class.base .straightFlush + (14 - t)) =
        (Standing.mk .straightFlush [t]).category := by decide
    rw [Class.lines, FiveCards.idxOf_tops mem]
    exact all top mem
  · have place : k.lines.idxOf line < k.standings.length := by
      rw [Class.standings, List.length_map]
      exact List.idxOf_lt_length_of_mem h
    rw [category, if_neg fun royal => flush royal.1]
    exact Category.ofStrength_of_mem_bands (Class.band_mem flush) (Nat.le_add_right ..)
      (Nat.add_le_add_left (Nat.le_sub_one_of_lt place) _)

/-- **The category read off the strength is the one read off the cards.** -/
theorem FiveCards.ofStrength_eq_category (h : FiveCards) :
    Category.ofStrength (strengthOfFive h.cards) = h.category := by
  obtain ⟨mem, place⟩ := h.hasPlace
  obtain ⟨k, -, hk⟩ := List.mem_flatMap.mp mem
  obtain ⟨line, hl, eq⟩ := List.mem_map.mp hk
  rw [category, place, ← eq, idxOf_ladder hl, Standing.ofStrength_of_line hl]

end Hand

end Showdown
