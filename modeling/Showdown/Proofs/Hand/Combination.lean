import Showdown.Hand.Combination
import Mathlib.Data.List.Lex
import Mathlib.Data.List.Sort
import Mathlib.Data.List.Sublists
import Mathlib.Data.Nat.Choose.Basic

/-!
# The place of a choice

The choices of `k` elements of a descending list are listed in descending lexicographic order, and
`lexRank` is the place of a choice in that list (`lexRank_eq_idxOf`). Places in a sorted list are
ordered as what stands there (`idxOf_lt_idxOf_iff`), so that to compare two places is to compare
the choices.
-/

namespace Showdown.Hand

/-! ### Places in lists -/

section Places

variable {α β : Type} [BEq α] [LawfulBEq α] [BEq β] [LawfulBEq β]

/-- In a sorted list what comes first has the smaller place. -/
theorem idxOf_lt_idxOf_iff {R : α → α → Prop} (asymm : ∀ a b, R a b → ¬ R b a) {l : List α}
    (sorted : l.Pairwise R) {a b : α} (ha : a ∈ l) (hb : b ∈ l) :
    l.idxOf a < l.idxOf b ↔ R a b := by
  have at_place {x y : α} (hx : x ∈ l) (hy : y ∈ l) (h : l.idxOf x < l.idxOf y) : R x y := by
    have := List.pairwise_iff_getElem.mp sorted _ _ (List.idxOf_lt_length_of_mem hx)
      (List.idxOf_lt_length_of_mem hy) h
    simpa using this
  refine ⟨at_place ha hb, fun h => ?_⟩
  rcases lt_trichotomy (l.idxOf a) (l.idxOf b) with lt | eq | gt
  · exact lt
  · obtain rfl := (List.idxOf_inj ha).mp eq
    exact absurd h (asymm a a h)
  · exact absurd (at_place hb ha gt) (asymm a b h)

theorem idxOf_map_of_injective {f : α → β} (inj : Function.Injective f) (l : List α) (a : α) :
    (l.map f).idxOf (f a) = l.idxOf a := by
  induction l with
  | nil => rfl
  | cons x l ih =>
    by_cases h : x = a
    · rw [h, List.map_cons, List.idxOf_cons_self, List.idxOf_cons_self]
    · rw [List.map_cons, List.idxOf_cons_ne l h, List.idxOf_cons_ne _ (inj.ne h), ih]

/-- In a list put together from others, the place is counted from the start of the first of them
that can hold the item. -/
theorem idxOf_flatMap {f : α → List β} {l : List α} {a : α} {b : β} (ha : a ∈ l) (hb : b ∈ f a)
    (only : ∀ x ∈ l, b ∈ f x → x = a) :
    (l.flatMap f).idxOf b = ((l.take (l.idxOf a)).flatMap f).length + (f a).idxOf b := by
  induction l with
  | nil => simp at ha
  | cons x l ih =>
    by_cases h : x = a
    · subst h
      simp [List.idxOf_append_of_mem hb]
    · have absent : b ∉ f x := fun hx => h (only x List.mem_cons_self hx)
      have later := ih ((List.mem_cons.mp ha).resolve_left (Ne.symm h))
        fun y hy => only y (List.mem_cons_of_mem x hy)
      rw [List.flatMap_cons, List.idxOf_append_of_notMem absent, later, List.idxOf_cons_ne l h,
        List.take_succ_cons, List.flatMap_cons, List.length_append, Nat.add_assoc]

/-- In a sorted list, the place of an item is the number of items that come before it. -/
theorem idxOf_eq_countP {R : α → α → Prop} [DecidableRel R] (asymm : ∀ a b, R a b → ¬ R b a)
    {l : List α} (sorted : l.Pairwise R) {a : α} (ha : a ∈ l) :
    l.idxOf a = l.countP fun x => R x a := by
  induction l with
  | nil => simp at ha
  | cons x l ih =>
    obtain ⟨first, sorted⟩ := List.pairwise_cons.mp sorted
    by_cases h : x = a
    · subst h
      have none_before : (x :: l).countP (fun y => R y x) = 0 := by
        refine List.countP_eq_zero.mpr fun y hy => ?_
        rcases List.mem_cons.mp hy with rfl | hy
        · simpa using fun r => asymm y y r r
        · simpa using asymm _ _ (first y hy)
      rw [none_before, List.idxOf_cons_self]
    · have later := (List.mem_cons.mp ha).resolve_left (Ne.symm h)
      rw [List.idxOf_cons_ne l h, ih sorted later,
        List.countP_cons_of_pos (by simpa using first a later)]

/-- If some items are taken out of a sorted list, then the place of one that stays goes down by the
number of those before it that do not. -/
theorem idxOf_filter {R : α → α → Prop} [DecidableRel R] (asymm : ∀ a b, R a b → ¬ R b a)
    {l : List α} (sorted : l.Pairwise R) {p : α → Bool} {a : α} (ha : a ∈ l.filter p) :
    (l.filter p).idxOf a = l.idxOf a - ((l.filter (!p ·)).filter fun x => R x a).length := by
  have all := List.countP_eq_countP_filter_add l (fun x => decide (R x a)) p
  rw [idxOf_eq_countP asymm (sorted.filter p) ha,
    idxOf_eq_countP asymm sorted (List.mem_filter.mp ha).1, all, ← List.countP_eq_length_filter]
  simp

end Places

/-! ### Numbers of choices -/

/-- After some factors of the product formula, the accumulator holds a number of choices. -/
theorem foldl_choose (n k : Nat) :
    (List.range k).foldl (fun acc i => acc * (n - i) / (i + 1)) 1 = n.choose k := by
  induction k with
  | zero => simp
  | succ k ih =>
    rw [List.range_succ, List.foldl_append, ih, List.foldl_cons, List.foldl_nil,
      ← Nat.choose_succ_right_eq, Nat.mul_div_cancel _ k.succ_pos]

theorem choiceCount_eq_choose (n k : Nat) : choiceCount n k = n.choose k := by
  unfold choiceCount
  split
  · rename_i h
    rw [Nat.choose_eq_zero_of_lt h]
  · rename_i h
    rw [foldl_choose]
    rcases Nat.le_total k (n - k) with le | le
    · rw [Nat.min_eq_left le]
    · rw [Nat.min_eq_right le, Nat.choose_symm (by omega)]

theorem length_combinations {α : Type} (k : Nat) (xs : List α) :
    (combinations k xs).length = xs.length.choose k := by
  induction xs generalizing k with
  | nil => cases k <;> simp [combinations]
  | cons x xs ih =>
    cases k with
    | zero => simp [combinations]
    | succ k => simp [combinations, ih, Nat.choose_succ_succ]

/-! ### Choices in order -/

/-- The choices are the sublists of their length. -/
theorem mem_combinations_iff {α : Type} {k : Nat} {xs c : List α} :
    c ∈ combinations k xs ↔ c.Sublist xs ∧ c.length = k := by
  induction xs generalizing k c with
  | nil => cases k <;> simp +contextual [combinations, eq_comm]
  | cons x xs ih =>
    cases k with
    | zero => simp +contextual [combinations, List.length_eq_zero_iff]
    | succ k =>
      rw [combinations, List.mem_append, List.mem_map, ih, List.sublist_cons_iff, or_and_right,
        or_comm]
      refine or_congr_right ⟨?_, ?_⟩
      · rintro ⟨d, hd, rfl⟩
        rw [ih] at hd
        exact ⟨⟨d, rfl, hd.1⟩, by simp [hd.2]⟩
      · rintro ⟨⟨d, rfl, hd⟩, len⟩
        exact ⟨d, ih.mpr ⟨hd, by simpa using len⟩, rfl⟩

section Choice

variable {α : Type} {k : Nat} {xs c : List α}

theorem sublist_of_mem_combinations (h : c ∈ combinations k xs) : c.Sublist xs :=
  (mem_combinations_iff.mp h).1

theorem length_of_mem_combinations (h : c ∈ combinations k xs) : c.length = k :=
  (mem_combinations_iff.mp h).2

theorem pairwise_of_mem_combinations {R : α → α → Prop} (sorted : xs.Pairwise R)
    (h : c ∈ combinations k xs) : c.Pairwise R :=
  sorted.sublist (sublist_of_mem_combinations h)

theorem mem_of_mem_combinations (h : c ∈ combinations k xs) {x : α} (hx : x ∈ c) : x ∈ xs :=
  (sublist_of_mem_combinations h).subset hx

end Choice

theorem nodup_of_desc {xs : List Nat} (desc : xs.Pairwise (· > ·)) : xs.Nodup :=
  desc.imp fun h => (ne_of_lt h).symm

theorem mem_combinations_of_desc {xs c : List Nat} (desc : xs.Pairwise (· > ·))
    (sorted : c.Pairwise (· > ·)) (sub : ∀ x ∈ c, x ∈ xs) : c ∈ combinations c.length xs := by
  refine mem_combinations_iff.mpr ⟨?_, rfl⟩
  exact List.sublist_of_subperm_of_pairwise
    (List.Nodup.subperm (nodup_of_desc sorted) sub) sorted desc

/-- The choices from a descending list are listed in descending order. -/
theorem pairwise_combinations (k : Nat) {xs : List Nat} (desc : xs.Pairwise (· > ·)) :
    (combinations k xs).Pairwise (· > ·) := by
  induction xs generalizing k with
  | nil => cases k <;> simp [combinations]
  | cons x xs ih =>
    cases k with
    | zero => simp [combinations]
    | succ k =>
      obtain ⟨above, desc⟩ := List.pairwise_cons.mp desc
      rw [combinations, List.pairwise_append, List.pairwise_map]
      refine ⟨(ih k desc).imp fun h => List.cons_lt_cons_iff.mpr (.inr ⟨rfl, h⟩), ih (k + 1) desc,
        fun c hc d hd => ?_⟩
      -- what takes the first element stands before what passes over it
      obtain ⟨c, -, rfl⟩ := List.mem_map.mp hc
      obtain ⟨sub, len⟩ := mem_combinations_iff.mp hd
      obtain ⟨y, d, rfl⟩ := List.exists_cons_of_length_eq_add_one len
      exact List.cons_lt_cons_iff.mpr (.inl (above y (sub.subset List.mem_cons_self)))

/-- **The lexicographic rank of a choice is its place among all choices.** -/
theorem lexRank_eq_idxOf {k : Nat} {xs c : List Nat} (desc : xs.Pairwise (· > ·))
    (hc : c ∈ combinations k xs) : lexRank c xs = (combinations k xs).idxOf c := by
  induction xs generalizing k c with
  | nil =>
    cases k with
    | zero => simp_all [combinations, lexRank]
    | succ k => simp [combinations] at hc
  | cons x xs ih =>
    obtain ⟨above, desc⟩ := List.pairwise_cons.mp desc
    obtain ⟨sub, len⟩ := mem_combinations_iff.mp hc
    match c, k with
    | [], _ => subst len; simp [combinations, lexRank]
    | y :: c, 0 => simp at len
    | y :: c, k + 1 =>
      rw [combinations, lexRank]
      split
      · rename_i same
        subst same
        have taken : c ∈ combinations k xs :=
          mem_combinations_iff.mpr ⟨List.cons_sublist_cons.mp sub, by simpa using len⟩
        rw [ih desc taken, List.idxOf_append_of_mem (List.mem_map_of_mem taken),
          idxOf_map_of_injective (List.cons_injective (a := x))]
      · rename_i other
        have passed : y :: c ∈ combinations (k + 1) xs :=
          mem_combinations_iff.mpr ⟨List.Sublist.of_cons_of_ne (Ne.symm other) sub, len⟩
        have absent : y :: c ∉ (combinations k xs).map (x :: ·) := by
          simpa [eq_comm] using fun _ => other
        rw [ih desc passed, List.idxOf_append_of_notMem absent, List.length_map,
          length_combinations, choiceCount_eq_choose]
        congr 2
        simpa using len

/-- A rank is smaller than the number of choices. -/
theorem lexRank_lt {k : Nat} {xs c : List Nat} (desc : xs.Pairwise (· > ·))
    (hc : c ∈ combinations k xs) : lexRank c xs < xs.length.choose k := by
  rw [lexRank_eq_idxOf desc hc, ← length_combinations]
  exact List.idxOf_lt_length_of_mem hc

end Showdown.Hand
