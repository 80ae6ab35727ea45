import Showdown.Proofs.Hand.Place
import Mathlib.Data.Nat.Choose.Bounds

/-!
# Strengths in words

Strengths are computed in words of 8, 16 and 32 bits. `strengthOfFive?` is the same computation with
every intermediate number held to its word: it gives up when a sum or product is too large for its
word, when a difference is negative, when a rank to be counted up to is not there, and when the
groups have none of the listed shapes. For five different cards it never does
(`FiveCards.strengthOfFive?_eq`).
-/

namespace Showdown.Hand

/-! ### Words -/

/-- A number as a word of so many bits, if it fits. -/
def word? (bits n : Nat) : Option Nat :=
  if n < 2 ^ bits then some n else none

/-- A difference of words, if it is not negative. -/
def minus? (m n : Nat) : Option Nat :=
  if n ≤ m then some (m - n) else none

theorem word?_eq {bits n : Nat} (h : n < 2 ^ bits) : word? bits n = some n :=
  if_pos h

theorem minus?_eq {m n : Nat} (h : n ≤ m) : minus? m n = some (m - n) :=
  if_pos h

/-! ### Counting cards of a rank -/

/-- The number of cards of a rank, counted in a byte. -/
def countOf? (v : Nat) (values : List Nat) : Option Nat :=
  values.foldlM (fun count w => if w = v then word? 8 (count + 1) else some count) 0

/-- The groups of ranks, with their sizes counted in bytes. -/
def rankGroups? (values : List Nat) : Option (List (Nat × Nat)) := do
  let counts ← rankValues.mapM fun v => (countOf? v values).map (·, v)
  return [5, 4, 3, 2, 1].flatMap fun m => counts.filter fun p => p.1 = m

theorem foldlM_count (v : Nat) {values : List Nat} {start : Nat}
    (h : start + values.length < 256) :
    values.foldlM (fun count w => if w = v then word? 8 (count + 1) else some count) start =
      some (start + values.count v) := by
  induction values generalizing start with
  | nil => rfl
  | cons w values ih =>
    rw [List.length_cons] at h
    rw [List.foldlM_cons, List.count_cons]
    by_cases same : w = v
    · have step := ih (by omega : start + 1 + values.length < 256)
      rw [if_pos same, word?_eq (by omega), if_pos (by simpa using same)]
      simpa [Nat.add_right_comm, Nat.add_assoc] using step
    · have step := ih (by omega : start + values.length < 256)
      rw [if_neg same, if_neg (by simpa using same)]
      exact step

theorem rankGroups?_eq {values : List Nat} (h : values.length < 256) :
    rankGroups? values = some (rankGroups values) := by
  have counts (v : Nat) : (countOf? v values).map (·, v) = some (values.count v, v) := by
    rw [countOf?, foldlM_count v (by omega), Nat.zero_add, Option.map_some]
  have all : rankValues.mapM (fun v => (countOf? v values).map (·, v)) =
      some (rankValues.map fun v => (values.count v, v)) := by
    simp only [counts]
    exact List.mapM_pure
  rw [rankGroups?, all, rankGroups]
  refine congrArg some (List.flatMap_congr fun m _ => ?_)
  rw [List.filter_map]
  exact List.map_congr_left fun v hv => by simpa using (List.mem_filter.mp hv).2

/-! ### Counting choices -/

/-- The number of choices, with 32 bits for the accumulator and 16 for the result. -/
def choiceCount? (n k : Nat) : Option Nat :=
  if n < k then some 0
  else do
    let count ← (List.range (min k (n - k))).foldlM
      (fun acc i => (word? 32 (acc * (n - i))).map (· / (i + 1))) 1
    word? 16 count

/-- If the number of choices is a word, then no number on the way to it is too large: the numbers of
fewer choices are smaller, and each of them is divided by less than the number of choices. -/
theorem foldlM_choose {n k : Nat} (half : 2 * k ≤ n) (fits : n.choose k < 2 ^ 16) :
    (List.range k).foldlM (fun acc i => (word? 32 (acc * (n - i))).map (· / (i + 1))) 1 =
      some (n.choose k) := by
  induction k with
  | zero => simp
  | succ k ih =>
    have fewer : n.choose k ≤ n.choose (k + 1) := Nat.choose_le_succ_of_lt_half_left (by omega)
    have divisor : k + 2 ≤ n.choose (k + 1) :=
      calc k + 2 = (k + 2).choose (k + 1) := (Nat.choose_succ_self_right (k + 1)).symm
        _ ≤ n.choose (k + 1) := Nat.choose_le_choose (k + 1) (by omega)
    have product : n.choose k * (n - k) < 2 ^ 32 :=
      calc n.choose k * (n - k) = n.choose (k + 1) * (k + 1) := (Nat.choose_succ_right_eq n k).symm
        _ ≤ 2 ^ 16 * (k + 1) := Nat.mul_le_mul_right _ fits.le
        _ < 2 ^ 16 * 2 ^ 16 := Nat.mul_lt_mul_of_pos_left (by omega) (by decide)
    rw [List.range_succ, List.foldlM_append, ih (by omega) (fewer.trans_lt fits)]
    change ((word? 32 (n.choose k * (n - k))).map (· / (k + 1))).bind some = _
    rw [word?_eq product, ← Nat.choose_succ_right_eq]
    exact congrArg some (Nat.mul_div_cancel _ k.succ_pos)

/-- **A number of choices that is a word is counted exactly.** -/
theorem choiceCount?_eq {n k : Nat} (fits : n.choose k < 2 ^ 16) :
    choiceCount? n k = some (n.choose k) := by
  unfold choiceCount?
  split
  · rename_i few
    rw [Nat.choose_eq_zero_of_lt few]
  · rename_i enough
    have same : n.choose (min k (n - k)) = n.choose k := by
      rcases Nat.le_total k (n - k) with le | le
      · rw [Nat.min_eq_left le]
      · rw [Nat.min_eq_right le, Nat.choose_symm (by omega)]
    rw [foldlM_choose (by omega) (same ▸ fits), same]
    exact word?_eq fits

/-- The count of the choices that come before one, added to what is counted already. There is none
if an element of the choice is not found. -/
def lexRankFrom? (count : Nat) : List Nat → List Nat → Option Nat
  | [], _ => some count
  | _ :: _, [] => none
  | c :: cs, a :: as =>
    if a = c then lexRankFrom? count cs as
    else do
      let passed ← choiceCount? as.length cs.length
      lexRankFrom? (← word? 16 (count + passed)) (c :: cs) as

/-- The rank of a choice, counted in a word of 16 bits. -/
def lexRank? (chosen available : List Nat) : Option Nat :=
  lexRankFrom? 0 chosen available

theorem lexRankFrom?_eq {count : Nat} {chosen available : List Nat}
    (sub : chosen.Sublist available) (fits : count + lexRank chosen available < 2 ^ 16) :
    lexRankFrom? count chosen available = some (count + lexRank chosen available) := by
  induction available generalizing count chosen with
  | nil =>
    obtain rfl := List.sublist_nil.mp sub
    rfl
  | cons a as ih =>
    match chosen with
    | [] => rfl
    | c :: cs =>
      rw [lexRank] at fits
      rw [lexRankFrom?, lexRank]
      split
      · rename_i same
        subst same
        rw [if_pos rfl] at fits
        exact ih (List.cons_sublist_cons.mp sub) fits
      · rename_i other
        rw [if_neg other, choiceCount_eq_choose, ← Nat.add_assoc] at fits
        rw [choiceCount?_eq (by omega), choiceCount_eq_choose]
        change (word? 16 (count + as.length.choose cs.length)).bind _ = _
        rw [word?_eq (by omega), ← Nat.add_assoc]
        exact ih (List.Sublist.of_cons_of_ne (Ne.symm other) sub) fits

/-- **A rank among no more choices than a word can tell apart is counted within words.** -/
theorem lexRank?_eq {k : Nat} {chosen available : List Nat} (desc : available.Pairwise (· > ·))
    (few : available.length.choose k < 2 ^ 16) (h : chosen ∈ combinations k available) :
    lexRank? chosen available = some (lexRank chosen available) := by
  have fits := (lexRank_lt desc h).trans few
  rw [lexRank?, lexRankFrom?_eq (sublist_of_mem_combinations h) (by omega), Nat.zero_add]

theorem lexRank?_except {k : Nat} {chosen : List Nat} (excluded : List Nat)
    (h : chosen ∈ combinations k (rankValuesExcept excluded)) :
    lexRank? chosen (rankValuesExcept excluded) =
      some (lexRank chosen (rankValuesExcept excluded)) := by
  refine lexRank?_eq (pairwise_rankValuesExcept excluded) ?_ h
  calc (rankValuesExcept excluded).length.choose k
      ≤ rankValues.length.choose k := Nat.choose_le_choose k (List.length_filter_le ..)
    _ ≤ 2 ^ rankValues.length := Nat.choose_le_two_pow _ k
    _ < 2 ^ 16 := by decide

/-! ### Five different ranks -/

/-- The high card of a straight, if there is one, with the span of the ranks as a byte. -/
def spanTop? : List Nat → Option (Option Nat)
  | [a, b, c, d, e] => do
    let span ← minus? a e
    return if span = 4 then some a else if [a, b, c, d, e] = [14, 5, 4, 3, 2] then some 5 else none
  | _ => none

/-- The place of five different ranks that make no straight, in a word of 16 bits. -/
def unconnectedIndex? (values : List Nat) : Option Nat := do
  let index ← lexRank? values rankValues
  minus? index (← word? 16 (straights.filter fun s => values < s).length)

theorem spanTop?_eq {a b c d e : Nat} (h : [a, b, c, d, e] ∈ combinations 5 rankValues) :
    spanTop? [a, b, c, d, e] = some (straightTop? [a, b, c, d, e]) := by
  have desc := pairwise_of_mem_combinations pairwise_rankValues h
  have le : e ≤ a := (List.rel_of_pairwise_cons desc (by simp)).le
  rw [spanTop?, minus?_eq le]
  rfl

/-- The straights above five ranks are among the choices above them. -/
theorem length_straights_above_le {values : List Nat} (h : values ∈ combinations 5 rankValues) :
    (straights.filter fun s => values < s).length ≤ lexRank values rankValues := by
  have all := List.countP_eq_countP_filter_add (combinations 5 rankValues)
    (fun s => decide (s > values)) fun c => !(straightTop? c).isNone
  rw [lexRank_eq_idxOf pairwise_rankValues h,
    idxOf_eq_countP (R := (· > ·)) (fun _ _ => lt_asymm)
      (pairwise_combinations 5 pairwise_rankValues) h, all, perm_straights.countP_eq,
    List.countP_eq_length_filter]
  exact Nat.le_add_right ..

theorem unconnectedIndex?_eq {values : List Nat} (h : values ∈ combinations 5 rankValues) :
    unconnectedIndex? values = some (unconnectedIndex values) := by
  have le := length_straights_above_le h
  have few : (straights.filter fun s => values < s).length < 2 ^ 16 :=
    (List.length_filter_le _ straights).trans_lt (by decide)
  rw [unconnectedIndex?, lexRank?_eq pairwise_rankValues (by decide) h, word?_eq few]
  exact minus?_eq le

/-! ### Strengths -/

/-- A strength from the first one of a class and a number of two digits, in words of 16 bits. -/
def twoDigits? (base high radix low : Nat) : Option Nat := do
  let tens ← word? 16 (high * radix)
  let start ← word? 16 (base + tens)
  word? 16 (start + low)

/-- The strength of grouped ranks, in words. -/
def groupedStrength? (flush : Bool) : List (Nat × Nat) → Option Nat
  | [(1, a), (1, b), (1, c), (1, d), (1, e)] => do
    match flush, ← spanTop? [a, b, c, d, e] with
    | true, some high => word? 16 (1 + (← minus? 14 high))
    | false, some high => word? 16 (1600 + (← minus? 14 high))
    | true, none => word? 16 (323 + (← unconnectedIndex? [a, b, c, d, e]))
    | false, none => word? 16 (6186 + (← unconnectedIndex? [a, b, c, d, e]))
  | [(4, quad), (1, kicker)] => do
    twoDigits? 11 (← minus? 14 quad) 12 (← lexRank? [kicker] (rankValuesExcept [quad]))
  | [(3, trip), (2, pair)] => do
    twoDigits? 167 (← minus? 14 trip) 12 (← lexRank? [pair] (rankValuesExcept [trip]))
  | [(3, trip), (1, k₁), (1, k₂)] => do
    twoDigits? 1610 (← minus? 14 trip) 66 (← lexRank? [k₁, k₂] (rankValuesExcept [trip]))
  | [(2, high), (2, low), (1, kicker)] => do
    twoDigits? 2468 (← lexRank? [high, low] rankValues) 11
      (← lexRank? [kicker] (rankValuesExcept [high, low]))
  | [(2, pair), (1, k₁), (1, k₂), (1, k₃)] => do
    twoDigits? 3326 (← minus? 14 pair) 220 (← lexRank? [k₁, k₂, k₃] (rankValuesExcept [pair]))
  | _ => none

/-- The strength of five cards, in words. -/
def strengthOfFive? (cards : List Card) : Option Nat := do
  groupedStrength? (isFlush cards) (← rankGroups? (cards.map fun c => c.rank.value))

theorem twoDigits?_eq {base high radix low : Nat} (fits : base + high * radix + low < 2 ^ 16) :
    twoDigits? base high radix low = some (base + high * radix + low) := by
  rw [twoDigits?, word?_eq (by omega)]
  change (word? 16 (base + high * radix)).bind _ = _
  rw [word?_eq (by omega)]
  exact word?_eq fits

/-- No rank is above the ace. -/
theorem minus?_of_single {q : Nat} (h : [q] ∈ combinations 1 rankValues) :
    minus? 14 q = some (14 - q) := by
  have all : ∀ v ∈ rankValues, v ≤ 14 := by decide
  exact minus?_eq (all q (mem_of_mem_combinations h List.mem_cons_self))

theorem groupedStrength?_of_different {a b c d e : Nat} (flush : Bool)
    (h : [a, b, c, d, e] ∈ combinations 5 rankValues)
    (fits : groupedStrength flush [(1, a), (1, b), (1, c), (1, d), (1, e)] < 2 ^ 16) :
    groupedStrength? flush [(1, a), (1, b), (1, c), (1, d), (1, e)] =
      some (groupedStrength flush [(1, a), (1, b), (1, c), (1, d), (1, e)]) := by
  simp only [groupedStrength, groupedStrength?, spanTop?_eq h] at fits ⊢
  cases found : straightTop? [a, b, c, d, e] with
  | some top =>
    have all : ∀ t ∈ FiveCards.tops, t ≤ 14 := by decide
    have le := all top ((FiveCards.straightTop?_eq_some_iff h top).mp found).1
    rw [found] at fits
    cases flush
    all_goals
      simp only [Option.bind_eq_bind, Option.bind_some, minus?_eq le]
      exact word?_eq fits
  | none =>
    rw [found] at fits
    cases flush
    all_goals
      simp only [Option.bind_eq_bind, Option.bind_some, unconnectedIndex?_eq h]
      exact word?_eq fits

/-- Whatever the shape, if the strength is a word, then so is all that is met on the way to it. -/
theorem groupedStrength?_eq {flush : Bool} {g : List (Nat × Nat)} (shape : Shape g)
    (fits : groupedStrength flush g < 2 ^ 16) :
    groupedStrength? flush g = some (groupedStrength flush g) := by
  cases shape with
  | fourOfAKind hq hk =>
    rw [groupedStrength?, minus?_of_single hq, lexRank?_except _ hk]
    exact twoDigits?_eq fits
  | fullHouse hq hr =>
    rw [groupedStrength?, minus?_of_single hq, lexRank?_except _ hr]
    exact twoDigits?_eq fits
  | threeOfAKind hq hk =>
    rw [groupedStrength?, minus?_of_single hq, lexRank?_except _ hk]
    exact twoDigits?_eq fits
  | twoPair hq hk =>
    rw [groupedStrength?, lexRank?_eq pairwise_rankValues (by decide) hq, lexRank?_except _ hk]
    exact twoDigits?_eq fits
  | onePair hq hk =>
    rw [groupedStrength?, minus?_of_single hq, lexRank?_except _ hk]
    exact twoDigits?_eq fits
  | different h => exact groupedStrength?_of_different flush h fits

/-- **The strength of five different cards is computed within its words.** -/
theorem FiveCards.strengthOfFive?_eq (h : FiveCards) :
    strengthOfFive? h.cards = some (strengthOfFive h.cards) := by
  have few : h.values.length < 256 := by
    rw [values, List.length_map, h.five]
    decide
  have fits : strengthOfFive h.cards < 2 ^ 16 := by
    obtain ⟨mem, eq⟩ := h.hasPlace
    have := List.idxOf_lt_length_of_mem mem
    rw [length_ladder] at this
    omega
  rw [strengthOfFive?, show (h.cards.map fun c => c.rank.value) = h.values from rfl,
    rankGroups?_eq few]
  exact groupedStrength?_eq h.shape fits

end Showdown.Hand
