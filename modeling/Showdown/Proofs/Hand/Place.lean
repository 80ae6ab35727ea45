import Showdown.Proofs.Hand.Ladder

/-!
# Strengths as places

The strength of five cards is the place of their standing on the ladder (`hasPlace`).
Their groups of ranks have one of six shapes, and for each of them the formula for the strength is
the first strength of the class and the place of the ranks.
-/

namespace Showdown.Hand

/-! ### Groups of two sizes -/

/-- Groups of one size are determined by their ranks. -/
theorem eq_map_of_multiplicity {g : List (Nat × Nat)} {m n : Nat}
    (parts : g.map Prod.fst = List.replicate n m) : g = (g.map Prod.snd).map (m, ·) := by
  rw [List.map_map]
  refine (List.map_id'' (fun p => rfl) g).symm.trans (List.map_congr_left fun p hp => ?_)
  have size : p.1 = m := List.eq_of_mem_replicate (parts ▸ List.mem_map_of_mem hp)
  exact Prod.ext size rfl

/-- The ranks of the groups of one size are a choice from ranks they are taken from. -/
theorem choice_of_multiplicity {g : List (Nat × Nat)} (sorted : g.Pairwise Before) {m n : Nat}
    (parts : g.map Prod.fst = List.replicate n m) {available : List Nat}
    (desc : available.Pairwise (· > ·)) (known : ∀ p ∈ g, p.2 ∈ available) :
    g.map Prod.snd ∈ combinations n available := by
  have size {p : Nat × Nat} (hp : p ∈ g) : p.1 = m :=
    List.eq_of_mem_replicate (parts ▸ List.mem_map_of_mem hp)
  have len : (g.map Prod.snd).length = n := by simpa using congrArg List.length parts
  rw [← len]
  refine mem_combinations_of_desc desc ?_ (List.forall_mem_map.mpr known)
  rw [List.pairwise_map]
  refine sorted.imp_of_mem fun {p q} hp hq first => ?_
  have := size hp
  have := size hq
  unfold Before at first
  omega

/-- If there are two sizes, then the ranks are a choice of ranks and a choice of others. -/
theorem exists_head_tail {values : List Nat} {a m b n : Nat}
    (parts : (rankGroups values).map Prod.fst = List.replicate a m ++ List.replicate b n) :
    ∃ head tail, rankGroups values = head.map (m, ·) ++ tail.map (n, ·) ∧
      head ∈ combinations a rankValues ∧ tail ∈ combinations b (rankValuesExcept head) := by
  obtain ⟨g, g', groups, parts, parts'⟩ := List.map_eq_append_iff.mp parts
  have sorted := pairwise_rankGroups values
  rw [groups, List.pairwise_append] at sorted
  have nodup := nodup_ranks values
  rw [groups, List.map_append, List.nodup_append] at nodup
  have known {p : Nat × Nat} (hp : p ∈ g ++ g') : p.2 ∈ rankValues :=
    (mem_rankGroups_iff.mp (groups ▸ hp)).1
  refine ⟨g.map Prod.snd, g'.map Prod.snd, ?_, ?_, ?_⟩
  · rw [groups, ← eq_map_of_multiplicity parts, ← eq_map_of_multiplicity parts']
  · exact choice_of_multiplicity sorted.1 parts pairwise_rankValues
      fun p hp => known (List.mem_append_left g' hp)
  · refine choice_of_multiplicity sorted.2.1 parts' (pairwise_rankValuesExcept _) fun p hp => ?_
    rw [mem_rankValuesExcept_iff]
    exact ⟨known (List.mem_append_right g hp),
      fun taken => nodup.2.2 p.2 taken p.2 (List.mem_map_of_mem hp) rfl⟩

/-! ### Shapes of groups -/

/-- The groups of ranks that five different cards can have, with the ranks of each multiplicity
chosen from those that are left. -/
inductive Shape : List (Nat × Nat) → Prop where
  /-- Four cards of one rank. -/
  | fourOfAKind {q k : Nat} (hq : [q] ∈ combinations 1 rankValues)
      (hk : [k] ∈ combinations 1 (rankValuesExcept [q])) : Shape [(4, q), (1, k)]
  /-- Three cards of one rank and two of another. -/
  | fullHouse {q r : Nat} (hq : [q] ∈ combinations 1 rankValues)
      (hr : [r] ∈ combinations 1 (rankValuesExcept [q])) : Shape [(3, q), (2, r)]
  /-- Three cards of one rank. -/
  | threeOfAKind {q k₁ k₂ : Nat} (hq : [q] ∈ combinations 1 rankValues)
      (hk : [k₁, k₂] ∈ combinations 2 (rankValuesExcept [q])) : Shape [(3, q), (1, k₁), (1, k₂)]
  /-- Two cards of one rank and two of another. -/
  | twoPair {q r k : Nat} (hq : [q, r] ∈ combinations 2 rankValues)
      (hk : [k] ∈ combinations 1 (rankValuesExcept [q, r])) : Shape [(2, q), (2, r), (1, k)]
  /-- Two cards of one rank. -/
  | onePair {q k₁ k₂ k₃ : Nat} (hq : [q] ∈ combinations 1 rankValues)
      (hk : [k₁, k₂, k₃] ∈ combinations 3 (rankValuesExcept [q])) :
      Shape [(2, q), (1, k₁), (1, k₂), (1, k₃)]
  /-- Five ranks. -/
  | different {a b c d e : Nat} (h : [a, b, c, d, e] ∈ combinations 5 rankValues) :
      Shape [(1, a), (1, b), (1, c), (1, d), (1, e)]

/-- The groups of five different cards have one of the shapes, by the partition of five that their
sizes are. -/
theorem FiveCards.shape (h : FiveCards) : Shape (rankGroups h.values) := by
  have mem := h.parts_mem
  simp only [partitions, List.mem_cons, List.not_mem_nil, or_false] at mem
  rcases mem with parts | parts | parts | parts | parts | parts
  · obtain ⟨head, tail, groups, hh, ht⟩ :=
      exists_head_tail (a := 1) (m := 4) (b := 1) (n := 1) parts
    match head, tail, length_of_mem_combinations hh, length_of_mem_combinations ht with
    | [q], [k], _, _ => exact groups ▸ .fourOfAKind hh ht
  · obtain ⟨head, tail, groups, hh, ht⟩ :=
      exists_head_tail (a := 1) (m := 3) (b := 1) (n := 2) parts
    match head, tail, length_of_mem_combinations hh, length_of_mem_combinations ht with
    | [q], [r], _, _ => exact groups ▸ .fullHouse hh ht
  · obtain ⟨head, tail, groups, hh, ht⟩ :=
      exists_head_tail (a := 1) (m := 3) (b := 2) (n := 1) parts
    match head, tail, length_of_mem_combinations hh, length_of_mem_combinations ht with
    | [q], [k₁, k₂], _, _ => exact groups ▸ .threeOfAKind hh ht
  · obtain ⟨head, tail, groups, hh, ht⟩ :=
      exists_head_tail (a := 2) (m := 2) (b := 1) (n := 1) parts
    match head, tail, length_of_mem_combinations hh, length_of_mem_combinations ht with
    | [q, r], [k], _, _ => exact groups ▸ .twoPair hh ht
  · obtain ⟨head, tail, groups, hh, ht⟩ :=
      exists_head_tail (a := 1) (m := 2) (b := 3) (n := 1) parts
    match head, tail, length_of_mem_combinations hh, length_of_mem_combinations ht with
    | [q], [k₁, k₂, k₃], _, _ => exact groups ▸ .onePair hh ht
  · obtain ⟨head, tail, groups, hh, ht⟩ :=
      exists_head_tail (a := 5) (m := 1) (b := 0) (n := 1) parts
    match head, tail, length_of_mem_combinations hh, length_of_mem_combinations ht with
    | [a, b, c, d, e], [], _, _ => exact groups ▸ .different hh

/-! ### Formulas as places -/

section Formulas

variable {q r k k₁ k₂ k₃ : Nat} (flush : Bool)

/-- The rank of a single rank is its distance from the ace. -/
theorem lexRank_single (h : [q] ∈ combinations 1 rankValues) : lexRank [q] rankValues = 14 - q := by
  have single : ∀ c ∈ combinations 1 rankValues, lexRank c rankValues = 14 - c.headD 0 := by decide
  exact single [q] h

theorem groupedStrength_fourOfAKind (hq : [q] ∈ combinations 1 rankValues)
    (hk : [k] ∈ combinations 1 (rankValuesExcept [q])) :
    groupedStrength flush [(4, q), (1, k)] = 11 + (groupedLines 1 1).idxOf ([q] ++ [k]) := by
  rw [idxOf_groupedLines hq hk, lexRank_single hq, ← Nat.add_assoc]
  rfl

theorem groupedStrength_fullHouse (hq : [q] ∈ combinations 1 rankValues)
    (hr : [r] ∈ combinations 1 (rankValuesExcept [q])) :
    groupedStrength flush [(3, q), (2, r)] = 167 + (groupedLines 1 1).idxOf ([q] ++ [r]) := by
  rw [idxOf_groupedLines hq hr, lexRank_single hq, ← Nat.add_assoc]
  rfl

theorem groupedStrength_threeOfAKind (hq : [q] ∈ combinations 1 rankValues)
    (hk : [k₁, k₂] ∈ combinations 2 (rankValuesExcept [q])) :
    groupedStrength flush [(3, q), (1, k₁), (1, k₂)] =
      1610 + (groupedLines 1 2).idxOf ([q] ++ [k₁, k₂]) := by
  rw [idxOf_groupedLines hq hk, lexRank_single hq, ← Nat.add_assoc]
  rfl

theorem groupedStrength_twoPair (hq : [q, r] ∈ combinations 2 rankValues)
    (hk : [k] ∈ combinations 1 (rankValuesExcept [q, r])) :
    groupedStrength flush [(2, q), (2, r), (1, k)] =
      2468 + (groupedLines 2 1).idxOf ([q, r] ++ [k]) := by
  rw [idxOf_groupedLines hq hk, ← Nat.add_assoc]
  rfl

theorem groupedStrength_onePair (hq : [q] ∈ combinations 1 rankValues)
    (hk : [k₁, k₂, k₃] ∈ combinations 3 (rankValuesExcept [q])) :
    groupedStrength flush [(2, q), (1, k₁), (1, k₂), (1, k₃)] =
      3326 + (groupedLines 1 3).idxOf ([q] ++ [k₁, k₂, k₃]) := by
  rw [idxOf_groupedLines hq hk, lexRank_single hq, ← Nat.add_assoc]
  rfl

end Formulas

/-! ### Classes from multiplicities -/

namespace FiveCards

variable (h : FiveCards)

/-- The class, given whether the cards are of one suit, whether the ranks make a row, and the
multiplicities. -/
def kindOf (suited inRow : Bool) (parts : List Nat) : Class :=
  if suited && inRow then .straightFlush
  else if parts.contains 4 then .fourOfAKind
  else if parts.contains 3 && parts.contains 2 then .fullHouse
  else if suited then .flush
  else if inRow then .straight
  else if parts.contains 3 then .threeOfAKind
  else if parts.count 2 = 2 then .twoPair
  else if parts.contains 2 then .onePair
  else .highCard

theorem kind_eq : h.kind = kindOf h.isSuited h.runTop?.isSome h.parts := by
  simp only [kind, kindOf, has_eq, pairs_eq]

theorem length_ranks : h.ranks.length = h.parts.length := by
  rw [parts_eq, List.length_map]

/-- The ranks are different if and only if each of them occurs once. -/
theorem nodup_values_iff : h.values.Nodup ↔ h.parts = [1, 1, 1, 1, 1] := by
  have len : h.values.dedup.length = h.parts.length := by
    rw [← h.perm_ranks.length_eq, length_ranks]
  have five : h.values.length = 5 := by rw [values, List.length_map, h.five]
  constructor
  · intro nodup
    rw [nodup.dedup, five] at len
    have mem := h.parts_mem
    simp only [partitions, List.mem_cons, List.not_mem_nil, or_false] at mem
    change h.parts = _ ∨ h.parts = _ ∨ h.parts = _ ∨ h.parts = _ ∨ h.parts = _ ∨ h.parts = _ at mem
    rcases mem with eq | eq | eq | eq | eq | eq
    case inr.inr.inr.inr.inr => exact eq
    all_goals simp [eq] at len
  · intro ones
    rw [ones] at len
    have whole := (List.dedup_sublist h.values).eq_of_length (by rw [len, five]; rfl)
    exact List.dedup_eq_self.mp whole

theorem nodup_run {top : Nat} (ht : top ∈ tops) : (run top).Nodup := by
  have all : ∀ t ∈ tops, (run t).Nodup := by decide
  exact all top ht

theorem perm_of_runTop? {top : Nat} (ht : h.runTop? = some top) :
    top ∈ tops ∧ (run top).Perm h.values := by
  have found : (run top).isPerm h.values = true := by simpa using List.find?_some ht
  exact ⟨List.mem_of_find?_eq_some ht, List.isPerm_iff.mp found⟩

/-- If some rank occurs twice, then the cards are not of one suit and make no row. -/
theorem unsuited_of_repeated (repeated : h.parts ≠ [1, 1, 1, 1, 1]) :
    h.isSuited = false ∧ h.runTop? = none := by
  rw [ne_eq, ← nodup_values_iff] at repeated
  constructor
  · rw [← Bool.not_eq_true]
    exact fun suited => repeated (h.nodup_values_of_suited suited)
  · refine Option.eq_none_iff_forall_ne_some.mpr fun top ht => repeated ?_
    obtain ⟨mem, perm⟩ := h.perm_of_runTop? ht
    exact perm.nodup_iff.mp (nodup_run mem)

theorem ranks_mem_of_distinct (distinct : h.parts = [1, 1, 1, 1, 1]) :
    h.ranks ∈ combinations 5 rankValues := by
  have shape := h.shape
  rw [parts] at distinct
  rw [ranks]
  generalize rankGroups h.values = g at shape distinct
  cases shape with
  | different choice => exact choice
  | _ => simp at distinct

/-- The ranks of a row, descending. -/
def sortedRun (top : Nat) : List Nat :=
  (run top).insertionSort (· ≥ ·)

theorem sortedRun_mem {top : Nat} (ht : top ∈ tops) :
    sortedRun top ∈ combinations 5 rankValues := by
  have all : ∀ t ∈ tops, sortedRun t ∈ combinations 5 rankValues := by decide +kernel
  exact all top ht

theorem straightTop?_sortedRun {top : Nat} (ht : top ∈ tops) :
    straightTop? (sortedRun top) = some top := by
  have all : ∀ t ∈ tops, straightTop? (sortedRun t) = some t := by decide
  exact all top ht

/-- Of five different ranks in descending order, the formula for the top of a row finds it. -/
theorem straightTop?_eq_some_iff {c : List Nat} (hc : c ∈ combinations 5 rankValues) (top : Nat) :
    straightTop? c = some top ↔ top ∈ tops ∧ (run top).Perm c := by
  have found : ∀ c ∈ combinations 5 rankValues,
      (straightTop? c).all (fun top => top ∈ tops ∧ (run top).Perm c) = true := by decide +kernel
  constructor
  · intro ht
    simpa [ht] using found c hc
  · rintro ⟨mem, perm⟩
    have desc := pairwise_of_mem_combinations pairwise_rankValues hc
    have sorted : sortedRun top = c :=
      ((List.perm_insertionSort _ _).trans perm).eq_of_pairwise'
        (List.pairwise_insertionSort _ _) (desc.imp le_of_lt)
    rw [← straightTop?_sortedRun mem, sorted]

theorem runTop?_of_distinct (distinct : h.parts = [1, 1, 1, 1, 1]) :
    h.runTop? = straightTop? h.ranks := by
  have choice := h.ranks_mem_of_distinct distinct
  have perm : h.ranks.Perm h.values :=
    (h.nodup_values_iff.mpr distinct).dedup ▸ h.perm_ranks
  cases found : h.runTop? with
  | some top =>
    obtain ⟨mem, row⟩ := h.perm_of_runTop? found
    exact ((straightTop?_eq_some_iff choice top).mpr ⟨mem, row.trans perm.symm⟩).symm
  | none =>
    refine (Option.eq_none_iff_forall_ne_some.mpr fun top ht => ?_).symm
    obtain ⟨mem, row⟩ := (straightTop?_eq_some_iff choice top).mp ht
    have absent := List.find?_eq_none.mp found top mem
    exact absent (List.isPerm_iff.mpr (row.trans perm))

/-- If some rank occurs twice, then the cards are neither of one suit nor in a row. -/
theorem standing_of_repeated (repeated : h.parts ≠ [1, 1, 1, 1, 1]) :
    h.standing = ⟨kindOf false false h.parts, h.ranks⟩ := by
  obtain ⟨suit, row⟩ := h.unsuited_of_repeated repeated
  rw [standing, kind_eq, line, ordered_eq, suit, row]
  rfl

/-- The line of five different ranks, descending. -/
def lineOf (ranks : List Nat) : List Nat :=
  match straightTop? ranks with
  | some top => [top]
  | none => ranks

theorem standing_of_distinct (distinct : h.parts = [1, 1, 1, 1, 1]) :
    h.standing = ⟨kindOf h.isSuited (straightTop? h.ranks).isSome [1, 1, 1, 1, 1],
      lineOf h.ranks⟩ := by
  rw [standing, kind_eq, line, ordered_eq, h.runTop?_of_distinct distinct, distinct]
  rfl

/-! ### Places of standings -/

/-- The tops of rows stand in the order of their distances from the ace. -/
theorem idxOf_tops {top : Nat} (ht : top ∈ tops) : (tops.map ([·])).idxOf [top] = 14 - top := by
  have all : ∀ t ∈ tops, (tops.map ([·])).idxOf [t] = 14 - t := by decide
  exact all top ht

/-- A choice of ranks followed by a choice of others is one of the lines that are put together that
way. -/
theorem append_mem_groupedLines {m n : Nat} {head tail : List Nat}
    (hh : head ∈ combinations m rankValues) (ht : tail ∈ combinations n (rankValuesExcept head)) :
    head ++ tail ∈ groupedLines m n :=
  List.mem_flatMap.mpr ⟨head, hh, mem_completions ht⟩

/-- If some rank occurs twice, then it is enough to look at the groups. -/
theorem hasPlace_of_repeated {g : List (Nat × Nat)} (groups : rankGroups h.values = g)
    (repeated : g.map Prod.fst ≠ [1, 1, 1, 1, 1])
    (place : (Standing.mk (kindOf false false (g.map Prod.fst)) (g.map Prod.snd)).HasPlace
      (groupedStrength false g)) :
    h.standing.HasPlace (strengthOfFive h.cards) := by
  subst groups
  rw [h.standing_of_repeated repeated, strengthOfFive, ← isSuited_eq,
    (h.unsuited_of_repeated repeated).1]
  exact place

/-- If five ranks occur, then they make a row or are one of the choices that make none. -/
theorem hasPlace_of_different {a b c d e : Nat}
    (choice : [a, b, c, d, e] ∈ combinations 5 rankValues)
    (groups : rankGroups h.values = [(1, a), (1, b), (1, c), (1, d), (1, e)]) :
    h.standing.HasPlace (strengthOfFive h.cards) := by
  have ranks : h.ranks = [a, b, c, d, e] := congrArg (List.map Prod.snd) groups
  have strength : strengthOfFive h.cards =
      groupedStrength h.isSuited [(1, a), (1, b), (1, c), (1, d), (1, e)] := by
    rw [strengthOfFive, isSuited_eq, ← groups]
    rfl
  rw [h.standing_of_distinct (congrArg (List.map Prod.fst) groups), strength, ranks, lineOf]
  cases found : straightTop? [a, b, c, d, e] with
  | some top =>
    have mem := ((straightTop?_eq_some_iff choice top).mp found).1
    have listed : [top] ∈ tops.map ([·]) := List.mem_map_of_mem mem
    cases h.isSuited
    · refine Standing.hasPlace (k := .straight) listed ?_
      simp only [groupedStrength, found, Class.base, Class.lines, idxOf_tops mem]
    · refine Standing.hasPlace (k := .straightFlush) listed ?_
      simp only [groupedStrength, found, Class.base, Class.lines, idxOf_tops mem]
  | none =>
    have listed : [a, b, c, d, e] ∈ unconnected :=
      List.mem_filter.mpr ⟨choice, by rw [found]; rfl⟩
    cases h.isSuited
    · refine Standing.hasPlace (k := .highCard) listed ?_
      simp only [groupedStrength, found, Class.base, Class.lines, unconnectedIndex_eq listed]
    · refine Standing.hasPlace (k := .flush) listed ?_
      simp only [groupedStrength, found, Class.base, Class.lines, unconnectedIndex_eq listed]

/-- **The strength of five cards is the place of their standing on the ladder.** -/
theorem hasPlace : h.standing.HasPlace (strengthOfFive h.cards) := by
  have shape := h.shape
  generalize groups : rankGroups h.values = g at shape
  cases shape with
  | fourOfAKind hq hk =>
    exact h.hasPlace_of_repeated groups (by simp) (Standing.hasPlace (k := .fourOfAKind)
      (append_mem_groupedLines hq hk) (groupedStrength_fourOfAKind false hq hk))
  | fullHouse hq hr =>
    exact h.hasPlace_of_repeated groups (by simp) (Standing.hasPlace (k := .fullHouse)
      (append_mem_groupedLines hq hr) (groupedStrength_fullHouse false hq hr))
  | threeOfAKind hq hk =>
    exact h.hasPlace_of_repeated groups (by simp) (Standing.hasPlace (k := .threeOfAKind)
      (append_mem_groupedLines hq hk) (groupedStrength_threeOfAKind false hq hk))
  | twoPair hq hk =>
    exact h.hasPlace_of_repeated groups (by simp) (Standing.hasPlace (k := .twoPair)
      (append_mem_groupedLines hq hk) (groupedStrength_twoPair false hq hk))
  | onePair hq hk =>
    exact h.hasPlace_of_repeated groups (by simp) (Standing.hasPlace (k := .onePair)
      (append_mem_groupedLines hq hk) (groupedStrength_onePair false hq hk))
  | different choice => exact h.hasPlace_of_different choice groups

end FiveCards

end Showdown.Hand
