import Showdown.Hand.Evaluation
import Showdown.Proofs.Hand.Band
import Showdown.Proofs.Hand.Order

/-!
# The best five cards

What five cards count for does not depend on their order (`strengthOfFive_perm`), so a deal counts
for the best of its sets of five cards, however it is dealt (`le_bestStrength_iff`). Five nested
loops over the places of the deal pass over no set (`fivesByPlace_eq`).

`evaluate_picks_best` says all of this of the two evaluators, together with when they refuse a deal
and what for.
-/

namespace Showdown.Hand

/-! ### The order of the cards -/

theorem isFlush_iff {cards : List Card} :
    isFlush cards = true ↔ ∀ c ∈ cards, ∀ d ∈ cards, c.suit = d.suit := by
  cases cards with
  | nil => simp [isFlush]
  | cons first rest =>
    simp only [isFlush, List.all_eq_true, beq_iff_eq]
    constructor
    · intro all c hc d hd
      have suit : ∀ c ∈ first :: rest, c.suit = first.suit := List.forall_mem_cons.mpr ⟨rfl, all⟩
      rw [suit c hc, suit d hd]
    · exact fun all c hc => all c (List.mem_cons_of_mem first hc) first List.mem_cons_self

/-- The strength of five cards does not depend on their order. -/
theorem strengthOfFive_perm {cards cards' : List Card} (same : cards.Perm cards') :
    strengthOfFive cards = strengthOfFive cards' := by
  have flush : isFlush cards = isFlush cards' := by
    rw [Bool.eq_iff_iff, isFlush_iff, isFlush_iff]
    simp only [same.mem_iff]
  have groups : rankGroups (cards.map fun c => c.rank.value) =
      rankGroups (cards'.map fun c => c.rank.value) := by
    simp only [rankGroups, (same.map _).count_eq]
  rw [strengthOfFive, strengthOfFive, flush, groups]

/-! ### Five nested loops -/

/-- What nested loops over the places from one on run through, each of them starting behind the
place of the one around it: the items at the places. -/
def choicesFrom {α : Type} (items : List α) : Nat → Nat → List (List α)
  | 0, _ => [[]]
  | loops + 1, start =>
    (List.range' start (items.length - start)).flatMap fun i =>
      (choicesFrom items loops (i + 1)).map (items[i]?.toList ++ ·)

theorem choicesFrom_eq {α : Type} (items : List α) (loops start : Nat) :
    choicesFrom items loops start = combinations loops (items.drop start) := by
  induction loops generalizing start with
  | zero => cases items.drop start <;> rfl
  | succ loops ih =>
    rw [choicesFrom]
    simp only [ih]
    -- by induction on the number of places that are left
    induction left : items.length - start generalizing start with
    | zero =>
      rw [List.drop_eq_nil_of_le (by omega)]
      rfl
    | succ left outer =>
      have inside : start < items.length := by omega
      rw [List.range'_succ, List.flatMap_cons, outer (start + 1) (by omega),
        List.drop_eq_getElem_cons inside, combinations, List.getElem?_eq_getElem inside]
      rfl

/-- The choices of five cards that five nested loops over the places of a deal run through. -/
def fivesByPlace (cards : List Card) : List (List Card) :=
  let behind (start : Nat) := List.range' start (cards.length - start)
  (behind 0).flatMap fun a => (behind (a + 1)).flatMap fun b => (behind (b + 1)).flatMap fun c =>
    (behind (c + 1)).flatMap fun d => (behind (d + 1)).flatMap fun e =>
      [[a, b, c, d, e].flatMap fun i => cards[i]?.toList]

/-- **Five nested loops pass over no choice of five cards.** -/
theorem fivesByPlace_eq (cards : List Card) : fivesByPlace cards = combinations 5 cards := by
  rw [← List.drop_zero (l := cards), ← choicesFrom_eq, List.drop_zero]
  simp only [fivesByPlace, choicesFrom, List.map_flatMap, List.map_cons, List.map_nil,
    List.flatMap_cons, List.flatMap_nil]

/-! ### The smallest strength -/

theorem le_foldl_min_iff {α : Type} (f : α → Nat) (xs : List α) (start n : Nat) :
    n ≤ xs.foldl (fun best x => min best (f x)) start ↔ n ≤ start ∧ ∀ x ∈ xs, n ≤ f x := by
  induction xs generalizing start with
  | nil => simp
  | cons x xs ih => rw [List.foldl_cons, ih, Nat.le_min, List.forall_mem_cons, and_assoc]

/-- Five cards of a deal. -/
theorem exists_fives {cards c : List Card} (nodup : cards.Nodup)
    (choice : c ∈ combinations 5 cards) :
    ∃ five : FiveCards, five.cards = c ∧ five.cards ⊆ cards := by
  have sub := sublist_of_mem_combinations choice
  exact ⟨⟨c, length_of_mem_combinations choice, nodup.sublist sub⟩, rfl, sub.subset⟩

/-- Every five cards of a deal are chosen in some order. -/
theorem FiveCards.exists_choice {cards : List Card} (five : FiveCards) (sub : five.cards ⊆ cards) :
    ∃ c ∈ combinations 5 cards, c.Perm five.cards := by
  obtain ⟨c, perm, sublist⟩ := five.nodup.subperm sub
  exact ⟨c, mem_combinations_iff.mpr ⟨sublist, perm.length_eq.trans five.five⟩, perm⟩

theorem FiveCards.strength_le (five : FiveCards) : strengthOfFive five.cards ≤ worstStrength := by
  have range := Set.mem_range_self (f := fun h : FiveCards => strengthOfFive h.cards) five
  rw [range_strength] at range
  exact range.2

/-- **The strength of a deal is the smallest one of any five of its cards.** -/
theorem le_bestStrength_iff {cards : List Card} (nodup : cards.Nodup) (n : Nat) :
    n ≤ bestStrength cards ↔ n ≤ worstStrength ∧
      ∀ five : FiveCards, five.cards ⊆ cards → n ≤ strengthOfFive five.cards := by
  rw [bestStrength, le_foldl_min_iff]
  refine and_congr_right fun _ => ⟨fun all five sub => ?_, fun all c choice => ?_⟩
  · obtain ⟨c, choice, perm⟩ := five.exists_choice sub
    rw [← strengthOfFive_perm perm]
    exact all c choice
  · obtain ⟨five, rfl, sub⟩ := exists_fives nodup choice
    exact all five sub

theorem bestStrength_le {cards : List Card} (nodup : cards.Nodup) {five : FiveCards}
    (sub : five.cards ⊆ cards) : bestStrength cards ≤ strengthOfFive five.cards :=
  ((le_bestStrength_iff nodup _).mp le_rfl).2 five sub

theorem bestStrength_le_worst {cards : List Card} (nodup : cards.Nodup) :
    bestStrength cards ≤ worstStrength :=
  ((le_bestStrength_iff nodup _).mp le_rfl).1

/-- Of at least five cards some five have the strength of the deal. -/
theorem exists_strength_eq_bestStrength {cards : List Card} (nodup : cards.Nodup)
    (enough : 5 ≤ cards.length) :
    ∃ five : FiveCards, five.cards ⊆ cards ∧ strengthOfFive five.cards = bestStrength cards := by
  by_contra none_best
  -- otherwise all five cards of the deal have a larger strength, and so would the deal
  have larger : ∀ five : FiveCards, five.cards ⊆ cards →
      bestStrength cards + 1 ≤ strengthOfFive five.cards := fun five sub =>
    Nat.lt_of_le_of_ne (bestStrength_le nodup sub) fun same => none_best ⟨five, sub, same.symm⟩
  have first : cards.take 5 ∈ combinations 5 cards :=
    mem_combinations_iff.mpr ⟨List.take_sublist 5 cards, List.length_take_of_le enough⟩
  obtain ⟨five, -, sub⟩ := exists_fives nodup first
  have below := (larger five sub).trans five.strength_le
  exact Nat.not_succ_le_self _ ((le_bestStrength_iff nodup _).mpr ⟨below, larger⟩)

/-- The strength of a deal does not depend on the order of its cards. -/
theorem bestStrength_perm {cards cards' : List Card} (nodup : cards.Nodup)
    (same : cards.Perm cards') : bestStrength cards = bestStrength cards' := by
  have within (five : List Card) : five ⊆ cards ↔ five ⊆ cards' :=
    ⟨fun h => List.Subset.trans h same.subset, fun h => List.Subset.trans h same.symm.subset⟩
  refine eq_of_forall_le_iff fun n => ?_
  rw [le_bestStrength_iff nodup, le_bestStrength_iff (same.nodup_iff.mp nodup)]
  simp only [within]

/-! ### Refusals -/

theorem firstRepeat?_eq_none_iff {seen cards : List Card} :
    firstRepeat? seen cards = none ↔ cards.Nodup ∧ ∀ c ∈ cards, c ∉ seen := by
  induction cards generalizing seen with
  | nil => simp [firstRepeat?]
  | cons first rest ih =>
    rw [firstRepeat?, List.nodup_cons, List.forall_mem_cons]
    split
    · rename_i known
      simp [known]
    · rename_i unknown
      rw [ih]
      simp only [List.mem_cons, not_or, unknown, not_false_eq_true, true_and, forall_and]
      constructor
      · rintro ⟨nodup, other, fresh⟩
        exact ⟨⟨fun h => other first h rfl, nodup⟩, fresh⟩
      · rintro ⟨⟨absent, nodup⟩, fresh⟩
        exact ⟨nodup, fun c hc same => absent (same ▸ hc), fresh⟩

/-- The card that is found is the first one that was seen before, in the list or before it. -/
theorem firstRepeat?_eq_some_iff {seen cards : List Card} {c : Card} :
    firstRepeat? seen cards = some c ↔ ∃ before after, cards = before ++ c :: after ∧
      firstRepeat? seen before = none ∧ (c ∈ seen ∨ c ∈ before) := by
  induction cards generalizing seen with
  | nil => simp [firstRepeat?]
  | cons first rest ih =>
    rw [firstRepeat?]
    split
    · rename_i known
      constructor
      · rintro ⟨⟩
        exact ⟨[], rest, rfl, rfl, .inl known⟩
      · rintro ⟨before, after, cut, fresh, -⟩
        cases before with
        | nil => simpa using (List.cons.inj cut).1
        | cons x before =>
          obtain rfl := (List.cons.inj cut).1
          simp [firstRepeat?, known] at fresh
    · rename_i unknown
      rw [ih]
      constructor
      · rintro ⟨before, after, rfl, fresh, again⟩
        refine ⟨first :: before, after, rfl, by simpa [firstRepeat?, unknown] using fresh, ?_⟩
        simpa [or_assoc, or_left_comm] using again
      · rintro ⟨before, after, cut, fresh, again⟩
        cases before with
        | nil =>
          obtain rfl := (List.cons.inj cut).1
          simp [unknown] at again
        | cons x before =>
          obtain ⟨rfl, rfl⟩ := List.cons.inj cut
          refine ⟨before, after, rfl, by simpa [firstRepeat?, unknown] using fresh, ?_⟩
          simpa [or_assoc, or_left_comm] using again

/-- A card is the first one of a deal that equals a card before it. -/
def IsFirstRepeat (cards : List Card) (c : Card) : Prop :=
  ∃ before after, cards = before ++ c :: after ∧ before.Nodup ∧ c ∈ before

theorem firstRepeat?_eq_some_iff_isFirstRepeat {cards : List Card} {c : Card} :
    firstRepeat? [] cards = some c ↔ IsFirstRepeat cards c := by
  simp [firstRepeat?_eq_some_iff, firstRepeat?_eq_none_iff, IsFirstRepeat]

/-! ### The evaluators -/

/-- An evaluator of deals of certain numbers of cards counts the best five cards of a deal. -/
structure PicksBestFive (size : DealSize) (counts : List Nat)
    (evaluator : List Card → Except EvaluationError Evaluation) : Prop where
  /-- It succeeds if and only if the number of cards is right and no card occurs twice. -/
  succeeds_iff : ∀ cards, (∃ e, evaluator cards = .ok e) ↔ cards.length ∈ counts ∧ cards.Nodup
  /-- A wrong number of cards is refused, whatever the cards are. -/
  wrong_count_iff : ∀ cards n, evaluator cards = .error (.cardCount size n) ↔
    cards.length ∉ counts ∧ n = cards.length
  /-- Of the right number of cards, the first one that equals a card before it is refused. -/
  duplicate_iff : ∀ cards c, evaluator cards = .error (.duplicate c) ↔
    cards.length ∈ counts ∧ IsFirstRepeat cards c
  /-- The strength is what five nested loops leave of the worst strength. -/
  loops : ∀ cards e, evaluator cards = .ok e → e.strength.toNat =
    (fivesByPlace cards).foldl (fun best five => min best (strengthOfFive five)) worstStrength
  /-- No five of the cards have a smaller strength. -/
  smallest : ∀ cards e, evaluator cards = .ok e → ∀ five : FiveCards, five.cards ⊆ cards →
    e.strength.toNat ≤ strengthOfFive five.cards
  /-- Some five of the cards have the strength. -/
  attained : ∀ cards e, evaluator cards = .ok e → ∃ five : FiveCards, five.cards ⊆ cards ∧
    strengthOfFive five.cards = e.strength.toNat
  /-- The category is that of any five of the cards that have the strength. -/
  category : ∀ cards e, evaluator cards = .ok e → ∀ five : FiveCards, five.cards ⊆ cards →
    strengthOfFive five.cards = e.strength.toNat → e.category = five.category
  /-- The order of the cards does not matter. -/
  any_order : ∀ cards e, evaluator cards = .ok e → ∀ cards', cards'.Perm cards →
    evaluator cards' = .ok e

/-- All that an evaluation can come to. -/
theorem evaluateAs_cases (size : DealSize) (cards : List Card) :
    (size.allows cards.length = false ∧
      evaluateAs size cards = .error (.cardCount size cards.length)) ∨
    (size.allows cards.length = true ∧ ¬ cards.Nodup ∧ ∃ c, firstRepeat? [] cards = some c ∧
      evaluateAs size cards = .error (.duplicate c)) ∨
    (size.allows cards.length = true ∧ cards.Nodup ∧
      evaluateAs size cards = .ok (bestFive cards)) := by
  have fresh_iff : firstRepeat? [] cards = none ↔ cards.Nodup := by
    simp [firstRepeat?_eq_none_iff]
  cases allowed : size.allows cards.length with
  | false => exact .inl ⟨rfl, by simp [evaluateAs, allowed]⟩
  | true =>
    cases again : firstRepeat? [] cards with
    | none =>
      refine .inr (.inr ⟨rfl, fresh_iff.mp again, ?_⟩)
      simp [evaluateAs, allowed, again]
    | some c =>
      refine .inr (.inl ⟨rfl, fun nodup => ?_, c, rfl, ?_⟩)
      · simp [fresh_iff.mpr nodup] at again
      · simp [evaluateAs, allowed, again]

theorem evaluateAs_eq_ok_iff {size : DealSize} {cards : List Card} {e : Evaluation} :
    evaluateAs size cards = .ok e ↔
      size.allows cards.length = true ∧ cards.Nodup ∧ e = bestFive cards := by
  rcases evaluateAs_cases size cards with
    ⟨wrong, eq⟩ | ⟨_, repeated, _, _, eq⟩ | ⟨allowed, nodup, eq⟩
  · simp [eq, wrong]
  · simp [eq, repeated]
  · simp [eq, allowed, nodup, eq_comm]

theorem evaluateAs_eq_cardCount_iff {size : DealSize} {cards : List Card} {n : Nat} :
    evaluateAs size cards = .error (.cardCount size n) ↔
      size.allows cards.length = false ∧ n = cards.length := by
  rcases evaluateAs_cases size cards with ⟨wrong, eq⟩ | ⟨allowed, _, _, _, eq⟩ | ⟨allowed, _, eq⟩
  · simp [eq, wrong, eq_comm]
  · simp [eq, allowed]
  · simp [eq, allowed]

theorem evaluateAs_eq_duplicate_iff {size : DealSize} {cards : List Card} {c : Card} :
    evaluateAs size cards = .error (.duplicate c) ↔
      size.allows cards.length = true ∧ IsFirstRepeat cards c := by
  rw [← firstRepeat?_eq_some_iff_isFirstRepeat]
  rcases evaluateAs_cases size cards with
    ⟨wrong, eq⟩ | ⟨allowed, _, d, again, eq⟩ | ⟨allowed, nodup, eq⟩
  · simp [eq, wrong]
  · simp [eq, allowed, again]
  · have fresh : firstRepeat? [] cards = none := by simp [firstRepeat?_eq_none_iff, nodup]
    simp [eq, fresh]

/-- The strength of a deal fits into its word. -/
theorem toNat_strength_bestFive {cards : List Card} (nodup : cards.Nodup) :
    (bestFive cards).strength.toNat = bestStrength cards := by
  have small : worstStrength < UInt16.size := by decide
  exact UInt16.toNat_ofNat_of_lt' ((bestStrength_le_worst nodup).trans_lt small)

theorem picksBestFive_evaluateAs {size : DealSize} {counts : List Nat}
    (allows_iff : ∀ n, size.allows n = true ↔ n ∈ counts) (enough : ∀ n ∈ counts, 5 ≤ n) :
    PicksBestFive size counts (evaluateAs size) where
  succeeds_iff cards := by
    simp [evaluateAs_eq_ok_iff, allows_iff]
  wrong_count_iff cards n := by
    rw [evaluateAs_eq_cardCount_iff, ← Bool.not_eq_true, allows_iff]
  duplicate_iff cards c := by
    rw [evaluateAs_eq_duplicate_iff, allows_iff]
  loops cards e he := by
    obtain ⟨-, nodup, rfl⟩ := evaluateAs_eq_ok_iff.mp he
    rw [toNat_strength_bestFive nodup, fivesByPlace_eq, bestStrength]
  smallest cards e he five sub := by
    obtain ⟨-, nodup, rfl⟩ := evaluateAs_eq_ok_iff.mp he
    rw [toNat_strength_bestFive nodup]
    exact bestStrength_le nodup sub
  attained cards e he := by
    obtain ⟨allowed, nodup, rfl⟩ := evaluateAs_eq_ok_iff.mp he
    rw [toNat_strength_bestFive nodup]
    exact exists_strength_eq_bestStrength nodup (enough _ ((allows_iff _).mp allowed))
  category cards e he five sub best := by
    obtain ⟨-, nodup, rfl⟩ := evaluateAs_eq_ok_iff.mp he
    rw [toNat_strength_bestFive nodup] at best
    rw [← five.ofStrength_eq_category, best]
    rfl
  any_order cards e he cards' same := by
    obtain ⟨allowed, nodup, rfl⟩ := evaluateAs_eq_ok_iff.mp he
    refine evaluateAs_eq_ok_iff.mpr ⟨same.length_eq ▸ allowed, same.nodup_iff.mpr nodup, ?_⟩
    rw [bestFive, bestFive, bestStrength_perm nodup same.symm]

/-- **Evaluation picks the best five**: both evaluators succeed just for the right number of
different cards, name what is wrong with a deal otherwise, and give the strength and the category of
the best five cards of the deal, whatever their order. -/
theorem evaluate_picks_best :
    PicksBestFive .full [7] evaluate ∧ PicksBestFive .short [5, 6] evaluateShort :=
  ⟨picksBestFive_evaluateAs (by simp [DealSize.allows]) (by simp),
    picksBestFive_evaluateAs (by simp [DealSize.allows]) (by simp)⟩

end Showdown.Hand
