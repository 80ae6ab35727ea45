import Showdown.Proofs.Hand.Combination
import Showdown.Proofs.Hand.Groups

/-!
# The order of poker hands

The standing of five cards is what players go by: first the class, then the ranks, those that occur
more often before the others and higher ones before lower ones. Straights go by their highest card,
and in the lowest one the ace stands below the two. Nothing here refers to numbers for strengths.

The standing can be read off the groups of the ranks (`FiveCards.has_eq`, `FiveCards.pairs_eq`,
`FiveCards.ordered_eq`).
-/

namespace Showdown.Hand

/-! ### Classes and standings -/

/-- The classes of five cards, strongest first. -/
inductive Class where
  /-- Five ranks in a row, of one suit. -/
  | straightFlush
  /-- Four cards of one rank. -/
  | fourOfAKind
  /-- Three cards of one rank and two of another. -/
  | fullHouse
  /-- Five cards of one suit. -/
  | flush
  /-- Five ranks in a row. -/
  | straight
  /-- Three cards of one rank. -/
  | threeOfAKind
  /-- Two cards of one rank and two of another. -/
  | twoPair
  /-- Two cards of one rank. -/
  | onePair
  /-- None of the above. -/
  | highCard
  deriving DecidableEq

/-- The classes, strongest first. -/
def Class.all : List Class :=
  [straightFlush, fourOfAKind, fullHouse, flush, straight, threeOfAKind, twoPair, onePair, highCard]

/-- The place of a class, 0 for the strongest one. -/
def Class.place (c : Class) : Nat :=
  all.idxOf c

/-- What five cards are ranked by. -/
structure Standing where
  /-- Their class. -/
  kind : Class
  /-- The ranks that tell them apart from others of their class, the most important first. -/
  line : List Nat
  deriving DecidableEq

/-- A standing beats another one: the class is stronger, or it is the same one and the first rank in
which the two differ is higher. -/
def Standing.Beats (s t : Standing) : Prop :=
  s.kind.place < t.kind.place ∨ s.kind = t.kind ∧ t.line < s.line

theorem Standing.Beats.asymm {s t : Standing} (h : s.Beats t) : ¬ t.Beats s := by
  rintro (h' | ⟨same', h'⟩)
  · rcases h with h | ⟨same, -⟩
    · omega
    · rw [same] at h'
      exact lt_irrefl _ h'
  · rcases h with h | ⟨-, h⟩
    · rw [same'] at h
      exact lt_irrefl _ h
    · exact lt_asymm h h'

/-! ### Five cards -/

/-- Five different cards, in any order. -/
structure FiveCards where
  /-- The cards. -/
  cards : List Card
  /-- There are five of them. -/
  five : cards.length = 5
  /-- They are different. -/
  nodup : cards.Nodup

namespace FiveCards

variable (h : FiveCards)

/-- The values of the ranks. -/
def values : List Nat :=
  h.cards.map fun c => c.rank.value

/-- How often a rank occurs. -/
def multiplicity (v : Nat) : Nat :=
  h.values.count v

/-- Some rank occurs a given number of times. -/
def has (m : Nat) : Bool :=
  h.values.any (h.multiplicity · = m)

/-- The number of ranks that occur twice. -/
def pairs : Nat :=
  (h.values.dedup.filter (h.multiplicity · = 2)).length

/-- All cards are of one suit. -/
def isSuited : Bool :=
  Suit.all.any fun s => h.cards.all (·.suit == s)

/-- The five ranks in a row that end with a given one. Below the two, the ace begins a row. -/
def run (top : Nat) : List Nat :=
  if top = 5 then [5, 4, 3, 2, 14] else [top, top - 1, top - 2, top - 3, top - 4]

/-- The tops of rows of five ranks. -/
def tops : List Nat :=
  [14, 13, 12, 11, 10, 9, 8, 7, 6, 5]

/-- The top of the row that the ranks make, if they make one. -/
def runTop? : Option Nat :=
  tops.find? fun top => (run top).isPerm h.values

/-- The ranks, those that occur more often first, and of equally frequent ones the higher first. -/
def ordered : List Nat :=
  h.values.dedup.insertionSort fun v w =>
    h.multiplicity w < h.multiplicity v ∨ h.multiplicity v = h.multiplicity w ∧ w ≤ v

/-- The class. -/
def kind : Class :=
  if h.isSuited && h.runTop?.isSome then .straightFlush
  else if h.has 4 then .fourOfAKind
  else if h.has 3 && h.has 2 then .fullHouse
  else if h.isSuited then .flush
  else if h.runTop?.isSome then .straight
  else if h.has 3 then .threeOfAKind
  else if h.pairs = 2 then .twoPair
  else if h.has 2 then .onePair
  else .highCard

/-- The ranks that tell the cards apart from others of their class. -/
def line : List Nat :=
  match h.runTop? with
  | some top => [top]
  | none => h.ordered

/-- The standing. -/
def standing : Standing :=
  ⟨h.kind, h.line⟩

/-- Five cards beat five others. -/
def Beats (h k : FiveCards) : Prop :=
  h.standing.Beats k.standing

/-- Neither of two hands beats the other. -/
def Ties (h k : FiveCards) : Prop :=
  ¬ h.Beats k ∧ ¬ k.Beats h

/-! ### Ranks of five different cards -/

theorem value_mem_rankValues (r : Rank) : r.value ∈ rankValues := by
  cases r <;> decide

theorem value_injective : Function.Injective Rank.value := by
  intro r s
  cases r <;> cases s <;> decide

theorem known : ∀ v ∈ h.values, v ∈ rankValues := by
  intro v hv
  obtain ⟨c, -, rfl⟩ := List.mem_map.mp hv
  exact value_mem_rankValues c.rank

/-- There are four cards of a rank. -/
theorem count_le_four (v : Nat) : h.values.count v ≤ 4 := by
  set same := h.cards.filter fun c => c.rank.value = v with hs
  have count : h.values.count v = same.length := by
    rw [values, List.count, List.countP_map, List.countP_eq_length_filter, hs]
    rfl
  have suits : (same.map Card.suit).Nodup := by
    refine List.Nodup.map_on (fun c hc d hd suit => ?_) (h.nodup.filter _)
    rw [List.mem_filter, decide_eq_true_eq] at hc hd
    have rank := value_injective (hc.2.trans hd.2.symm)
    obtain ⟨_, _⟩ := c
    obtain ⟨_, _⟩ := d
    exact congrArg₂ Card.mk suit rank
  have four : (same.map Card.suit).Subperm Suit.all :=
    suits.subperm fun s _ => by cases s <;> decide
  rw [count, ← List.length_map Card.suit]
  exact four.length_le

theorem parts_mem : (rankGroups h.values).map Prod.fst ∈ partitions :=
  multiplicities_mem_partitions h.known h.count_le_four (by simp [values, h.five])

theorem isSuited_eq : h.isSuited = isFlush h.cards := by
  obtain ⟨cards, five, -⟩ := h
  obtain ⟨c, cs, rfl⟩ := List.exists_cons_of_length_eq_add_one five
  have known : c.suit ∈ Suit.all := by cases c.suit <;> decide
  rw [Bool.eq_iff_iff]
  simp only [isSuited, isFlush, List.any_eq_true, List.all_eq_true, beq_iff_eq]
  constructor
  · rintro ⟨s, -, all⟩ d hd
    rw [all d (List.mem_cons_of_mem c hd), all c List.mem_cons_self]
  · intro all
    exact ⟨c.suit, known, List.forall_mem_cons.mpr ⟨rfl, all⟩⟩

/-- Five cards of one suit are of different ranks. -/
theorem nodup_values_of_suited (suited : h.isSuited = true) : h.values.Nodup := by
  obtain ⟨s, -, all⟩ := List.any_eq_true.mp suited
  refine h.nodup.map_on fun c hc d hd rank => ?_
  have suit (e : Card) (he : e ∈ h.cards) : e.suit = s := by
    simpa using List.all_eq_true.mp all e he
  have same := (suit c hc).trans (suit d hd).symm
  obtain ⟨_, _⟩ := c
  obtain ⟨_, _⟩ := d
  exact congrArg₂ Card.mk same (value_injective rank)

/-! ### Standings from groups -/

/-- The ranks of the groups. -/
def ranks : List Nat :=
  (rankGroups h.values).map Prod.snd

/-- The multiplicities of the groups. -/
def parts : List Nat :=
  (rankGroups h.values).map Prod.fst

theorem perm_ranks : h.ranks.Perm h.values.dedup :=
  perm_dedup h.known fun v => (h.count_le_four v).trans (by omega)

theorem parts_eq : h.parts = h.ranks.map h.multiplicity := by
  rw [parts, ranks, List.map_map]
  exact List.map_congr_left fun p hp => (count_of_mem_rankGroups hp).symm

theorem has_eq (m : Nat) : h.has m = h.parts.contains m := by
  rw [Bool.eq_iff_iff, has, List.any_eq_true, List.contains_iff_mem, parts_eq, List.mem_map]
  simp only [decide_eq_true_eq, h.perm_ranks.mem_iff, List.mem_dedup]

theorem pairs_eq : h.pairs = h.parts.count 2 := by
  rw [pairs, parts_eq, List.count, List.countP_map, h.perm_ranks.countP_eq,
    List.countP_eq_length_filter]
  rfl

theorem ordered_eq : h.ordered = h.ranks := by
  set before : Nat → Nat → Prop := fun v w =>
    h.multiplicity w < h.multiplicity v ∨ h.multiplicity v = h.multiplicity w ∧ w ≤ v with hb
  have total : Std.Total before := ⟨fun v w => by simp only [hb]; omega⟩
  have trans : IsTrans Nat before := ⟨fun u v w => by simp only [hb]; omega⟩
  have sorted : h.ranks.Pairwise before := by
    rw [ranks, List.pairwise_map]
    refine (pairwise_rankGroups h.values).imp_of_mem fun {p q} hp hq first => ?_
    simp only [hb, multiplicity, count_of_mem_rankGroups hp, count_of_mem_rankGroups hq]
    exact first.imp id fun same => ⟨same.1, same.2.le⟩
  exact ((List.perm_insertionSort before _).trans h.perm_ranks.symm).eq_of_pairwise
    (fun v w _ _ => by simp only [hb]; omega) (List.pairwise_insertionSort before _) sorted

end FiveCards

end Showdown.Hand
