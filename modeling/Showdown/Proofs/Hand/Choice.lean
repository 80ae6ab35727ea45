import Showdown.Proofs.Hand.Words
import Mathlib.Algebra.Order.BigOperators.Group.List
import Mathlib.Algebra.Order.Group.Nat
import Mathlib.Data.Set.Function
import Mathlib.Order.Interval.Set.Defs

/-!
# Choices and their ranks

The choices of `k` elements of a descending list are numbered by their ranks: a choice has as many
choices before it as its rank says, of two choices the greater one has the smaller rank, and the
ranks are the numbers below the number of all choices. A rank is a sum of numbers of choices, one
for each element that is passed over. As long as the number of all choices is a word of 16 bits,
each of these is counted exactly, and nothing on the way to the rank leaves its word
(`lexRank_numbers_choices`).
-/

namespace Showdown.Hand

/-- The choices of `k` elements of a list, each in the order of the list. -/
def choices (k : Nat) (available : List Nat) : Set (List Nat) :=
  {c | c.Sublist available ∧ c.length = k}

theorem mem_choices_iff {k : Nat} {available c : List Nat} :
    c ∈ choices k available ↔ c ∈ combinations k available :=
  mem_combinations_iff.symm

/-- What is counted on the way to a rank: for each element that a choice passes over, how many
elements come after it and how many of them are chosen otherwise. -/
def passedOver : List Nat → List Nat → List (Nat × Nat)
  | [], _ => []
  | _ :: _, [] => []
  | c :: cs, a :: as =>
    if a = c then passedOver cs as else (as.length, cs.length) :: passedOver (c :: cs) as

/-! ### A rank as a sum -/

theorem lexRank_eq_sum (chosen available : List Nat) :
    lexRank chosen available =
      ((passedOver chosen available).map fun p => choiceCount p.1 p.2).sum := by
  induction available generalizing chosen with
  | nil => cases chosen <;> rfl
  | cons a as ih =>
    match chosen with
    | [] => rfl
    | c :: cs =>
      rw [lexRank, passedOver]
      split
      · exact ih cs
      · rw [List.map_cons, List.sum_cons, ih]

/-- What is counted for one element is no more than the rank. -/
theorem choose_le_lexRank {chosen available : List Nat} {p : Nat × Nat}
    (hp : p ∈ passedOver chosen available) : p.1.choose p.2 ≤ lexRank chosen available := by
  rw [lexRank_eq_sum, ← choiceCount_eq_choose]
  exact List.le_sum_of_mem (List.mem_map_of_mem hp)

/-! ### Ranks as places -/

section Places

variable {k : Nat} {available chosen other : List Nat} (desc : available.Pairwise (· > ·))

include desc

/-- The choices as they are listed here are all the sublists of their length. -/
theorem combinations_perm (k : Nat) : (combinations k available).Perm (available.sublistsLen k) := by
  have listed : (combinations k available).Nodup :=
    (pairwise_combinations k desc).imp fun h => (ne_of_lt h).symm
  refine (List.perm_ext_iff_of_nodup listed (List.nodup_sublistsLen k (nodup_of_desc desc))).mpr ?_
  intro c
  rw [mem_combinations_iff, List.mem_sublistsLen]

/-- **The rank of a choice is the number of greater choices.** -/
theorem lexRank_eq_countP (h : chosen ∈ choices k available) :
    lexRank chosen available = (available.sublistsLen k).countP fun c => chosen < c := by
  have listed := mem_choices_iff.mp h
  rw [lexRank_eq_idxOf desc listed, ← (combinations_perm desc k).countP_eq,
    idxOf_eq_countP (R := (· > ·)) (fun _ _ => lt_asymm) (pairwise_combinations k desc) listed]

/-- **The greater choice has the smaller rank.** -/
theorem lexRank_lt_iff (h : chosen ∈ choices k available) (h' : other ∈ choices k available) :
    lexRank chosen available < lexRank other available ↔ other < chosen := by
  rw [mem_choices_iff] at h h'
  rw [lexRank_eq_idxOf desc h, lexRank_eq_idxOf desc h']
  exact idxOf_lt_idxOf_iff (R := (· > ·)) (fun _ _ => lt_asymm) (pairwise_combinations k desc) h h'

/-- **The ranks are the numbers below the number of choices, each of them once.** -/
theorem lexRank_bijOn (k : Nat) :
    Set.BijOn (fun c => lexRank c available) (choices k available)
      (Set.Iio (available.length.choose k)) := by
  refine ⟨fun c hc => lexRank_lt desc (mem_choices_iff.mp hc), fun c hc d hd same => ?_,
    fun place lt => ?_⟩
  · rw [mem_choices_iff] at hc hd
    change lexRank c available = lexRank d available at same
    rw [lexRank_eq_idxOf desc hc, lexRank_eq_idxOf desc hd] at same
    exact (List.idxOf_inj hc).mp same
  · have listed : (combinations k available).Nodup :=
      (pairwise_combinations k desc).imp fun h => (ne_of_lt h).symm
    have lt : place < (combinations k available).length := by
      rwa [length_combinations]
    have there := List.getElem_mem lt
    refine ⟨_, mem_choices_iff.mpr there, ?_⟩
    change lexRank _ available = place
    rw [lexRank_eq_idxOf desc there, listed.idxOf_getElem]

end Places

/-- **Ranks number the choices.** The rank of a choice is the number of choices that are greater; the
greater of two choices has the smaller rank; and the ranks are the numbers below the number of all
choices, each of them once. If there are no more choices than a word of 16 bits can tell apart, then
a rank is counted within words, from numbers of choices each of which is exact. -/
theorem lexRank_numbers_choices {k : Nat} {available : List Nat}
    (desc : available.Pairwise (· > ·)) (few : available.length.choose k ≤ 65535) :
    (∀ chosen ∈ choices k available,
      lexRank chosen available = ((available.sublistsLen k).countP fun c => chosen < c) ∧
      lexRank? chosen available = some (lexRank chosen available) ∧
      lexRank chosen available =
        ((passedOver chosen available).map fun p => choiceCount p.1 p.2).sum ∧
      ∀ p ∈ passedOver chosen available, choiceCount p.1 p.2 = p.1.choose p.2 ∧
        choiceCount? p.1 p.2 = some (p.1.choose p.2)) ∧
    (∀ chosen ∈ choices k available, ∀ other ∈ choices k available,
      lexRank chosen available < lexRank other available ↔ other < chosen) ∧
    Set.BijOn (fun c => lexRank c available) (choices k available)
      (Set.Iio (available.length.choose k)) := by
  refine ⟨fun chosen h => ?_, fun chosen h other h' => lexRank_lt_iff desc h h',
    lexRank_bijOn desc k⟩
  have listed := mem_choices_iff.mp h
  have word : available.length.choose k < 2 ^ 16 := by omega
  refine ⟨lexRank_eq_countP desc h, lexRank?_eq desc word listed, lexRank_eq_sum chosen available,
    fun p hp => ⟨choiceCount_eq_choose p.1 p.2, choiceCount?_eq ?_⟩⟩
  calc p.1.choose p.2 ≤ lexRank chosen available := choose_le_lexRank hp
    _ < available.length.choose k := lexRank_lt desc listed
    _ < 2 ^ 16 := word

/-- The choices of nine out of eighteen are almost too many for a word. The least of them has all the
others before it. -/
theorem lexRank_numbers_choices_of_eighteen :
    let available := (List.range 18).reverse
    let least := (List.range 9).reverse
    available.Pairwise (· > ·) ∧ available.length.choose 9 = 48620 ∧ least ∈ choices 9 available ∧
      lexRank? least available = some (lexRank least available) ∧
      Set.BijOn (fun c => lexRank c available) (choices 9 available) (Set.Iio 48620) := by
  intro available least
  have desc : available.Pairwise (· > ·) := by decide
  have number : available.length.choose 9 = 48620 := by decide +kernel
  have chosen : least ∈ choices 9 available := ⟨by decide, by decide⟩
  obtain ⟨each, -, all⟩ := lexRank_numbers_choices desc (k := 9) (by omega)
  exact ⟨desc, number, chosen, (each least chosen).2.1, number ▸ all⟩

end Showdown.Hand
