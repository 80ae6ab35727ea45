import Showdown.Proofs.Hand.Standing

/-!
# All standings in order

The 7462 standings of five cards form a ladder, strongest first. The strength of five cards is the
place of their standing on it (`FiveCards.hasPlace`), so strengths are ordered as standings are.
-/

namespace Showdown.Hand

/-! ### Lists of one length -/

theorem append_gt_append {a b c d : List Nat} (len : a.length = b.length) (h : a > b) :
    a ++ c > b ++ d := by
  induction a generalizing b with
  | nil => exact absurd h (List.not_lt_nil b)
  | cons x a ih =>
    obtain ⟨y, b, rfl⟩ := List.exists_cons_of_length_eq_add_one len.symm
    rcases List.cons_lt_cons_iff.mp h with lt | ⟨rfl, lt⟩
    · exact List.cons_lt_cons_iff.mpr (.inl lt)
    · exact List.cons_lt_cons_iff.mpr (.inr ⟨rfl, ih (by simpa using len) lt⟩)

/-! ### Grouped ranks -/

theorem mem_rankValuesExcept_iff {excluded : List Nat} {v : Nat} :
    v ∈ rankValuesExcept excluded ↔ v ∈ rankValues ∧ v ∉ excluded := by
  simp [rankValuesExcept]

theorem pairwise_rankValuesExcept (excluded : List Nat) :
    (rankValuesExcept excluded).Pairwise (· > ·) :=
  pairwise_rankValues.filter _

theorem length_rankValuesExcept {k : Nat} {head : List Nat} (h : head ∈ combinations k rankValues) :
    (rankValuesExcept head).length = 13 - k := by
  obtain ⟨sub, len⟩ := mem_combinations_iff.mp h
  have nodup : rankValues.Nodup := by decide
  have taken : (rankValues.filter head.contains).Perm head := by
    rw [List.perm_ext_iff_of_nodup (nodup.filter _) (nodup.sublist sub)]
    intro v
    simp only [List.mem_filter, List.contains_iff_mem]
    exact ⟨fun h => h.2, fun h => ⟨sub.subset h, h⟩⟩
  have all := List.length_eq_length_filter_add (l := rankValues) head.contains
  rw [taken.length_eq, len] at all
  have thirteen : rankValues.length = 13 := rfl
  rw [rankValuesExcept]
  omega

/-- Some given ranks followed by `t` others, strongest first. -/
def completions (t : Nat) (head : List Nat) : List (List Nat) :=
  (combinations t (rankValuesExcept head)).map (head ++ ·)

/-- Some ranks of one multiplicity and then some of a smaller one, strongest first. -/
def groupedLines (h t : Nat) : List (List Nat) :=
  (combinations h rankValues).flatMap (completions t)

section Grouped

variable {h t : Nat} {head tail : List Nat}

theorem length_completions (t : Nat) (hh : head ∈ combinations h rankValues) :
    (completions t head).length = (13 - h).choose t := by
  rw [completions, List.length_map, length_combinations, length_rankValuesExcept hh]

theorem length_flatMap_completions (t : Nat) {heads : List (List Nat)}
    (all : ∀ head ∈ heads, head ∈ combinations h rankValues) :
    (heads.flatMap (completions t)).length = heads.length * (13 - h).choose t := by
  rw [List.length_flatMap, List.map_congr_left fun head hh => length_completions t (all head hh),
    List.map_const', List.sum_replicate]
  rfl

theorem length_groupedLines (h t : Nat) :
    (groupedLines h t).length = (13).choose h * (13 - h).choose t := by
  rw [groupedLines, length_flatMap_completions t fun _ hh => hh, length_combinations]
  rfl

theorem pairwise_groupedLines (h t : Nat) : (groupedLines h t).Pairwise (· > ·) := by
  rw [groupedLines, List.pairwise_flatMap]
  constructor
  · intro head _
    rw [completions, List.pairwise_map]
    exact (pairwise_combinations t (pairwise_rankValuesExcept head)).imp List.append_left_lt
  · refine (pairwise_combinations h pairwise_rankValues).imp_of_mem
      fun {a b} ha hb lt x hx y hy => ?_
    obtain ⟨c, -, rfl⟩ := List.mem_map.mp hx
    obtain ⟨d, -, rfl⟩ := List.mem_map.mp hy
    exact append_gt_append
      ((length_of_mem_combinations ha).trans (length_of_mem_combinations hb).symm) lt

theorem mem_completions (ht : tail ∈ combinations t (rankValuesExcept head)) :
    head ++ tail ∈ completions t head :=
  List.mem_map_of_mem ht

/-- The place of grouped ranks is a number with two digits: the rank of the more frequent ones and
the rank of the others among what is left. -/
theorem idxOf_groupedLines (hh : head ∈ combinations h rankValues)
    (ht : tail ∈ combinations t (rankValuesExcept head)) :
    (groupedLines h t).idxOf (head ++ tail) =
      lexRank head rankValues * (13 - h).choose t + lexRank tail (rankValuesExcept head) := by
  have only : ∀ other ∈ combinations h rankValues,
      head ++ tail ∈ completions t other → other = head := by
    intro other ho hx
    obtain ⟨rest, -, eq⟩ := List.mem_map.mp hx
    exact (List.append_inj eq ((length_of_mem_combinations ho).trans
      (length_of_mem_combinations hh).symm)).1
  have place : lexRank head rankValues ≤ (combinations h rankValues).length := by
    rw [length_combinations]
    exact (lexRank_lt pairwise_rankValues hh).le
  rw [groupedLines, idxOf_flatMap hh (mem_completions ht) only,
    ← lexRank_eq_idxOf pairwise_rankValues hh,
    length_flatMap_completions t fun other ho => List.mem_of_mem_take ho, List.length_take,
    Nat.min_eq_left place, completions, idxOf_map_of_injective (List.append_right_injective head),
    lexRank_eq_idxOf (pairwise_rankValuesExcept head) ht]

end Grouped

/-! ### Five different ranks -/

/-- Five different ranks that make no straight, strongest first. -/
def unconnected : List (List Nat) :=
  (combinations 5 rankValues).filter fun c => (straightTop? c).isNone

theorem perm_straights :
    ((combinations 5 rankValues).filter fun c => !(straightTop? c).isNone).Perm straights := by
  decide +kernel

theorem pairwise_unconnected : unconnected.Pairwise (· > ·) :=
  (pairwise_combinations 5 pairwise_rankValues).filter _

theorem length_unconnected : unconnected.length = 1277 := by
  decide +kernel

theorem unconnectedIndex_eq {values : List Nat} (h : values ∈ unconnected) :
    unconnectedIndex values = unconnected.idxOf values := by
  have choice := (List.mem_filter.mp h).1
  rw [unconnectedIndex, lexRank_eq_idxOf pairwise_rankValues choice, unconnected,
    idxOf_filter (R := (· > ·)) (fun _ _ => lt_asymm)
      (pairwise_combinations 5 pairwise_rankValues) h, (perm_straights.filter _).length_eq]

/-! ### The ladder -/

/-- The lines of the standings of a class, strongest first. -/
def Class.lines : Class → List (List Nat)
  | straightFlush | straight => FiveCards.tops.map ([·])
  | fourOfAKind | fullHouse => groupedLines 1 1
  | flush | highCard => unconnected
  | threeOfAKind => groupedLines 1 2
  | twoPair => groupedLines 2 1
  | onePair => groupedLines 1 3

/-- The first strength of a class. -/
def Class.base : Class → Nat
  | straightFlush => 1
  | fourOfAKind => 11
  | fullHouse => 167
  | flush => 323
  | straight => 1600
  | threeOfAKind => 1610
  | twoPair => 2468
  | onePair => 3326
  | highCard => 6186

/-- The standings of a class, strongest first. -/
def Class.standings (k : Class) : List Standing :=
  k.lines.map (Standing.mk k)

/-- All standings, strongest first. -/
def ladder : List Standing :=
  Class.all.flatMap Class.standings

theorem Class.mem_all (k : Class) : k ∈ Class.all := by
  cases k <;> decide

theorem Class.pairwise_lines (k : Class) : k.lines.Pairwise (· > ·) := by
  cases k
  case straightFlush | straight => decide
  case flush | highCard => exact pairwise_unconnected
  all_goals exact pairwise_groupedLines ..

/-- The number of standings of a class. -/
theorem Class.length_standings (k : Class) : k.standings.length =
    match k with
    | straightFlush | straight => 10
    | fourOfAKind | fullHouse => 156
    | flush | highCard => 1277
    | threeOfAKind | twoPair => 858
    | onePair => 2860 := by
  rw [standings, List.length_map]
  cases k
  case straightFlush | straight => rfl
  case flush | highCard => exact length_unconnected
  all_goals exact length_groupedLines ..

theorem length_ladder : ladder.length = 7462 := by
  simp [ladder, Class.all, Class.length_standings]

/-- Each standing on the ladder beats all those after it. -/
theorem pairwise_ladder : ladder.Pairwise Standing.Beats := by
  rw [ladder, List.pairwise_flatMap]
  constructor
  · intro k _
    rw [Class.standings, List.pairwise_map]
    exact k.pairwise_lines.imp fun h => .inr ⟨rfl, h⟩
  · have places : Class.all.Pairwise fun k l => k.place < l.place := by decide
    refine places.imp fun h s hs t ht => .inl ?_
    obtain ⟨_, -, rfl⟩ := List.mem_map.mp hs
    obtain ⟨_, -, rfl⟩ := List.mem_map.mp ht
    exact h

theorem mem_ladder {k : Class} {line : List Nat} (h : line ∈ k.lines) : ⟨k, line⟩ ∈ ladder :=
  List.mem_flatMap.mpr ⟨k, k.mem_all, List.mem_map_of_mem h⟩

/-- The place of a standing is that of its line among those of the class, after all stronger
classes. -/
theorem idxOf_ladder {k : Class} {line : List Nat} (h : line ∈ k.lines) :
    1 + ladder.idxOf ⟨k, line⟩ = k.base + k.lines.idxOf line := by
  have only : ∀ l ∈ Class.all, (⟨k, line⟩ : Standing) ∈ l.standings → l = k := by
    intro l _ hl
    obtain ⟨_, -, eq⟩ := List.mem_map.mp hl
    exact congrArg Standing.kind eq
  have inj : Function.Injective (Standing.mk k) := fun _ _ eq => congrArg Standing.line eq
  have stronger : 1 + ((Class.all.take (Class.all.idxOf k)).flatMap Class.standings).length =
      k.base := by
    cases k <;> simp [Class.all, Class.length_standings, Class.base]
  rw [ladder, idxOf_flatMap k.mem_all (List.mem_map_of_mem h) only, Class.standings,
    idxOf_map_of_injective inj, ← Nat.add_assoc, stronger]

/-- A strength is the place of a standing on the ladder, counted from 1. -/
def Standing.HasPlace (s : Standing) (strength : Nat) : Prop :=
  s ∈ ladder ∧ strength = 1 + ladder.idxOf s

theorem Standing.hasPlace {k : Class} {line : List Nat} {strength : Nat} (h : line ∈ k.lines)
    (eq : strength = k.base + k.lines.idxOf line) : (Standing.mk k line).HasPlace strength :=
  ⟨mem_ladder h, by rw [eq, idxOf_ladder h]⟩

end Showdown.Hand
