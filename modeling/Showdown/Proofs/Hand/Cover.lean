import Showdown.Proofs.Hand.Place

/-!
# Dealing every standing

Every standing on the ladder is that of some five cards (`exists_standing`): its groups of ranks are
dealt in as many suits as they have cards. Five different ranks are dealt in one suit for a flush,
and with one card of another suit otherwise.
-/

namespace Showdown.Hand

/-! ### Cards in groups -/

/-- The rank of a value. -/
def rankOf (v : Nat) : Rank :=
  (Rank.all.find? (·.value = v)).getD .two

theorem value_rankOf {v : Nat} (h : v ∈ rankValues) : (rankOf v).value = v := by
  have all : ∀ v ∈ rankValues, (rankOf v).value = v := by decide
  exact all v h

/-- Groups of suits and ranks that five cards can be dealt from: a card for each suit of a group. -/
structure Deal where
  /-- The groups. -/
  groups : List (List Suit × Nat)
  /-- The ranks are ranks. -/
  known : ∀ p ∈ groups, p.2 ∈ rankValues
  /-- No group has a suit twice. -/
  suits : ∀ p ∈ groups, p.1.Nodup
  /-- No group is empty. -/
  nonempty : ∀ p ∈ groups, 1 ≤ p.1.length
  /-- The groups stand in the order of groups of ranks. -/
  sorted : groups.Pairwise fun p q => Before (p.1.length, p.2) (q.1.length, q.2)
  /-- No rank occurs in two groups. -/
  distinct : (groups.map Prod.snd).Nodup
  /-- There are five cards. -/
  five : (groups.map fun p => p.1.length).sum = 5

namespace Deal

variable (d : Deal)

/-- The cards of a group. -/
def cardsOf (p : List Suit × Nat) : List Card :=
  p.1.map fun s => ⟨s, rankOf p.2⟩

theorem rank_of_mem {p : List Suit × Nat} {c : Card} (h : c ∈ cardsOf p) : c.rank = rankOf p.2 := by
  obtain ⟨s, -, rfl⟩ := List.mem_map.mp h
  rfl

theorem nodup_cards : (d.groups.flatMap cardsOf).Nodup := by
  rw [List.nodup_flatMap]
  constructor
  · exact fun p hp => (d.suits p hp).map fun s t same => congrArg Card.suit same
  · have apart := List.pairwise_map.mp d.distinct
    refine apart.imp_of_mem fun {p q} hp hq other c hc hc' => other ?_
    rw [← value_rankOf (d.known p hp), ← value_rankOf (d.known q hq), ← rank_of_mem hc,
      ← rank_of_mem hc']

/-- The five cards. -/
def hand : FiveCards where
  cards := d.groups.flatMap cardsOf
  five := by
    rw [List.length_flatMap, ← d.five]
    exact congrArg List.sum (List.map_congr_left fun p _ => List.length_map _)
  nodup := d.nodup_cards

theorem values_hand :
    d.hand.values = d.groups.flatMap fun p => List.replicate p.1.length p.2 := by
  rw [FiveCards.values, hand, List.map_flatMap]
  refine List.flatMap_congr fun p hp => ?_
  rw [cardsOf, List.map_map, List.eq_replicate_iff]
  refine ⟨List.length_map _, fun v hv => ?_⟩
  obtain ⟨s, -, rfl⟩ := List.mem_map.mp hv
  exact value_rankOf (d.known p hp)

theorem count_flatMap_replicate {g : List (List Suit × Nat)} (distinct : (g.map Prod.snd).Nodup)
    {p : List Suit × Nat} (hp : p ∈ g) :
    (g.flatMap fun q => List.replicate q.1.length q.2).count p.2 = p.1.length := by
  induction g with
  | nil => simp at hp
  | cons q g ih =>
    obtain ⟨fresh, distinct⟩ := List.nodup_cons.mp distinct
    rw [List.flatMap_cons, List.count_append, List.count_replicate]
    rcases List.mem_cons.mp hp with rfl | hp
    · have absent : p.2 ∉ g.flatMap fun q => List.replicate q.1.length q.2 := by
        intro mem
        obtain ⟨q, hq, eq⟩ := List.mem_flatMap.mp mem
        exact fresh (List.eq_of_mem_replicate eq ▸ List.mem_map_of_mem hq)
      rw [List.count_eq_zero.mpr absent, if_pos (beq_self_eq_true _), Nat.add_zero]
    · have other : q.2 ≠ p.2 := fun same => fresh (same ▸ List.mem_map_of_mem hp)
      rw [if_neg (by simpa using other), Nat.zero_add, ih distinct hp]

theorem rankGroups_hand :
    rankGroups d.hand.values = d.groups.map fun p => (p.1.length, p.2) := by
  have count {p} (hp : p ∈ d.groups) : d.hand.values.count p.2 = p.1.length := by
    rw [values_hand, count_flatMap_replicate d.distinct hp]
  refine rankGroups_eq (List.pairwise_map.mpr d.sorted) fun p => ?_
  rw [List.mem_map]
  constructor
  · rintro ⟨q, hq, rfl⟩
    have few := d.hand.count_le_four q.2
    rw [count hq] at few
    exact ⟨d.known q hq, count hq, d.nonempty q hq, by omega⟩
  · rintro ⟨-, size, pos, -⟩
    have mem : p.2 ∈ d.hand.values := List.count_pos_iff.mp (by omega)
    rw [values_hand, List.mem_flatMap] at mem
    obtain ⟨q, hq, eq⟩ := mem
    have same := List.eq_of_mem_replicate eq
    refine ⟨q, hq, Prod.ext ?_ same.symm⟩
    rw [← size, same, count hq]

theorem ranks_hand : d.hand.ranks = d.groups.map Prod.snd := by
  rw [FiveCards.ranks, rankGroups_hand, List.map_map]
  rfl

theorem parts_hand : d.hand.parts = d.groups.map fun p => p.1.length := by
  rw [FiveCards.parts, rankGroups_hand, List.map_map]
  rfl

end Deal

/-! ### Grouped ranks -/

section Grouped

variable {a m b n : Nat} {head tail : List Nat}

/-- Ranks that are dealt in a number of suits each. -/
def inSuits (m : Nat) (ranks : List Nat) : List (List Suit × Nat) :=
  ranks.map (Suit.all.take m, ·)

theorem suits_of_mem_inSuits {p : List Suit × Nat} (h : p ∈ inSuits m head) :
    p.1 = Suit.all.take m ∧ p.2 ∈ head := by
  obtain ⟨v, hv, rfl⟩ := List.mem_map.mp h
  exact ⟨rfl, hv⟩

theorem length_of_mem_inSuits (few : m ≤ 4) {p : List Suit × Nat} (h : p ∈ inSuits m head) :
    p.1.length = m := by
  rw [(suits_of_mem_inSuits h).1]
  exact List.length_take_of_le few

theorem map_snd_inSuits : (inSuits m head).map Prod.snd = head := by
  simp [inSuits, Function.comp_def]

theorem map_length_inSuits (few : m ≤ 4) :
    ((inSuits m head).map fun p => p.1.length) = List.replicate head.length m := by
  rw [List.eq_replicate_iff]
  refine ⟨by simp [inSuits], fun i hi => ?_⟩
  obtain ⟨p, hp, rfl⟩ := List.mem_map.mp hi
  exact length_of_mem_inSuits few hp

theorem pairwise_inSuits (desc : head.Pairwise (· > ·)) :
    (inSuits m head).Pairwise fun p q => Before (p.1.length, p.2) (q.1.length, q.2) :=
  List.pairwise_map.mpr (desc.imp fun h => .inr ⟨rfl, h⟩)

/-- A choice of ranks, dealt in more suits, and then a choice of others, dealt in fewer. -/
def Deal.grouped (hh : head ∈ combinations a rankValues)
    (ht : tail ∈ combinations b (rankValuesExcept head)) (pos : 1 ≤ n) (less : n < m) (few : m ≤ 4)
    (five : a * m + b * n = 5) : Deal where
  groups := inSuits m head ++ inSuits n tail
  known := by
    rw [List.forall_mem_append]
    refine ⟨fun p hp => ?_, fun p hp => ?_⟩
    · exact mem_of_mem_combinations hh (suits_of_mem_inSuits hp).2
    · have mem := mem_of_mem_combinations ht (suits_of_mem_inSuits hp).2
      exact (mem_rankValuesExcept_iff.mp mem).1
  suits := by
    have all : Suit.all.Nodup := by decide
    rw [List.forall_mem_append]
    exact ⟨fun p hp => (suits_of_mem_inSuits hp).1 ▸ all.take,
      fun p hp => (suits_of_mem_inSuits hp).1 ▸ all.take⟩
  nonempty := by
    rw [List.forall_mem_append]
    refine ⟨fun p hp => ?_, fun p hp => ?_⟩
    · exact pos.trans (less.le.trans (length_of_mem_inSuits few hp).ge)
    · exact pos.trans (length_of_mem_inSuits (less.le.trans few) hp).ge
  sorted := by
    have desc := pairwise_of_mem_combinations pairwise_rankValues hh
    have desc' := pairwise_of_mem_combinations (pairwise_rankValuesExcept head) ht
    refine List.pairwise_append.mpr ⟨pairwise_inSuits desc, pairwise_inSuits desc',
      fun p hp q hq => .inl ?_⟩
    rwa [length_of_mem_inSuits few hp, length_of_mem_inSuits (less.le.trans few) hq]
  distinct := by
    have desc := pairwise_of_mem_combinations pairwise_rankValues hh
    have desc' := pairwise_of_mem_combinations (pairwise_rankValuesExcept head) ht
    rw [List.map_append, map_snd_inSuits, map_snd_inSuits]
    refine List.nodup_append'.mpr ⟨nodup_of_desc desc, nodup_of_desc desc', fun v hv hv' => ?_⟩
    exact (mem_rankValuesExcept_iff.mp (mem_of_mem_combinations ht hv')).2 hv
  five := by
    rw [List.map_append, map_length_inSuits few, map_length_inSuits (less.le.trans few),
      length_of_mem_combinations hh, length_of_mem_combinations ht]
    simpa using five

/-- Grouped ranks can be dealt. -/
theorem exists_grouped (hh : head ∈ combinations a rankValues)
    (ht : tail ∈ combinations b (rankValuesExcept head)) (pos : 1 ≤ n) (less : n < m) (few : m ≤ 4)
    (five : a * m + b * n = 5) : ∃ h : FiveCards, h.ranks = head ++ tail ∧
      h.parts = List.replicate a m ++ List.replicate b n := by
  refine ⟨(Deal.grouped hh ht pos less few five).hand, ?_, ?_⟩
  · rw [Deal.ranks_hand, Deal.grouped, List.map_append, map_snd_inSuits, map_snd_inSuits]
  · rw [Deal.parts_hand, Deal.grouped, List.map_append, map_length_inSuits few,
      map_length_inSuits (less.le.trans few), length_of_mem_combinations hh,
      length_of_mem_combinations ht]

end Grouped

/-! ### Different ranks -/

section Different

variable {a b c d e : Nat}

/-- Five different ranks, the first in a suit of its own choice and the others in clubs. -/
def Deal.different (s : Suit) (h : [a, b, c, d, e] ∈ combinations 5 rankValues) : Deal where
  groups := [([s], a), ([.clubs], b), ([.clubs], c), ([.clubs], d), ([.clubs], e)]
  known := by
    simpa using (sublist_of_mem_combinations h).subset
  suits := by simp
  nonempty := by simp
  sorted := by
    have desc := pairwise_of_mem_combinations pairwise_rankValues h
    simpa [Before] using desc
  distinct := by
    exact nodup_of_desc (pairwise_of_mem_combinations pairwise_rankValues h)
  five := rfl

/-- Five different ranks can be dealt in one suit and in more. -/
theorem exists_different {ranks : List Nat} (h : ranks ∈ combinations 5 rankValues)
    (suited : Bool) : ∃ hand : FiveCards, hand.ranks = ranks ∧ hand.parts = [1, 1, 1, 1, 1] ∧
      hand.isSuited = suited := by
  match ranks, length_of_mem_combinations h with
  | [a, b, c, d, e], _ =>
    cases suited
    · refine ⟨(Deal.different .diamonds h).hand, Deal.ranks_hand _, Deal.parts_hand _, ?_⟩
      rw [FiveCards.isSuited_eq]
      rfl
    · refine ⟨(Deal.different .clubs h).hand, Deal.ranks_hand _, Deal.parts_hand _, ?_⟩
      rw [FiveCards.isSuited_eq]
      rfl

end Different

/-! ### Standings -/

/-- Grouped ranks are the line of some five cards. -/
theorem exists_standing_of_grouped {a m b n : Nat} {line : List Nat} (h : line ∈ groupedLines a b)
    (pos : 1 ≤ n) (less : n < m) (few : m ≤ 4) (five : a * m + b * n = 5)
    (repeated : List.replicate a m ++ List.replicate b n ≠ [1, 1, 1, 1, 1]) :
    ∃ hand : FiveCards, hand.standing =
      ⟨FiveCards.kindOf false false (List.replicate a m ++ List.replicate b n), line⟩ := by
  obtain ⟨head, hh, h⟩ := List.mem_flatMap.mp h
  obtain ⟨tail, ht, rfl⟩ := List.mem_map.mp h
  obtain ⟨hand, ranks, parts⟩ := exists_grouped hh ht pos less few five
  exact ⟨hand, by rw [hand.standing_of_repeated (parts ▸ repeated), parts, ranks]⟩

/-- Five different ranks make some five cards of one suit and some of more. -/
theorem exists_standing_of_different {ranks : List Nat} (h : ranks ∈ combinations 5 rankValues)
    (suited : Bool) : ∃ hand : FiveCards, hand.standing =
      ⟨FiveCards.kindOf suited (straightTop? ranks).isSome [1, 1, 1, 1, 1],
        FiveCards.lineOf ranks⟩ := by
  obtain ⟨hand, eq, parts, suit⟩ := exists_different h suited
  exact ⟨hand, by rw [hand.standing_of_distinct parts, suit, eq]⟩

theorem exists_standing_of_top {top : Nat} (h : top ∈ FiveCards.tops) (suited : Bool) :
    ∃ hand : FiveCards, hand.standing =
      ⟨FiveCards.kindOf suited true [1, 1, 1, 1, 1], [top]⟩ := by
  have dealt := exists_standing_of_different (FiveCards.sortedRun_mem h) suited
  rwa [FiveCards.lineOf, FiveCards.straightTop?_sortedRun h] at dealt

theorem exists_standing_of_unconnected {line : List Nat} (h : line ∈ unconnected) (suited : Bool) :
    ∃ hand : FiveCards, hand.standing =
      ⟨FiveCards.kindOf suited false [1, 1, 1, 1, 1], line⟩ := by
  obtain ⟨choice, none⟩ := List.mem_filter.mp h
  have dealt := exists_standing_of_different choice suited
  rwa [FiveCards.lineOf, Option.isNone_iff_eq_none.mp none] at dealt

/-- **Every standing on the ladder is that of some five cards.** -/
theorem exists_standing {s : Standing} (h : s ∈ ladder) :
    ∃ hand : FiveCards, hand.standing = s := by
  obtain ⟨k, -, mem⟩ := List.mem_flatMap.mp h
  obtain ⟨line, listed, rfl⟩ := List.mem_map.mp mem
  cases k with
  | straightFlush =>
    obtain ⟨top, ht, rfl⟩ := List.mem_map.mp listed
    exact exists_standing_of_top ht true
  | fourOfAKind =>
    exact exists_standing_of_grouped (a := 1) (m := 4) (b := 1) (n := 1) listed
      (by decide) (by decide) (by decide) rfl (by decide)
  | fullHouse =>
    exact exists_standing_of_grouped (a := 1) (m := 3) (b := 1) (n := 2) listed
      (by decide) (by decide) (by decide) rfl (by decide)
  | flush => exact exists_standing_of_unconnected listed true
  | straight =>
    obtain ⟨top, ht, rfl⟩ := List.mem_map.mp listed
    exact exists_standing_of_top ht false
  | threeOfAKind =>
    exact exists_standing_of_grouped (a := 1) (m := 3) (b := 2) (n := 1) listed
      (by decide) (by decide) (by decide) rfl (by decide)
  | twoPair =>
    exact exists_standing_of_grouped (a := 2) (m := 2) (b := 1) (n := 1) listed
      (by decide) (by decide) (by decide) rfl (by decide)
  | onePair =>
    exact exists_standing_of_grouped (a := 1) (m := 2) (b := 3) (n := 1) listed
      (by decide) (by decide) (by decide) rfl (by decide)
  | highCard => exact exists_standing_of_unconnected listed false

end Showdown.Hand
