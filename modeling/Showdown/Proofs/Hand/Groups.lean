import Showdown.Hand.Strength
import Mathlib.Algebra.BigOperators.Group.List.Lemmas
import Mathlib.Algebra.GroupWithZero.Nat
import Mathlib.Data.List.Dedup
import Mathlib.Data.List.Sort

/-!
# Ranks in groups

The groups of a hand are its ranks with their multiplicities, sorted (`rankGroups_eq`). Of five
cards of which no five share a rank, the multiplicities are one of six partitions of five
(`multiplicities_mem_partitions`).
-/

namespace Showdown.Hand

/-! ### Sorted groups -/

/-- A group goes before another: it is larger, or as large and of a higher rank. -/
def Before (p q : Nat × Nat) : Prop :=
  q.1 < p.1 ∨ p.1 = q.1 ∧ q.2 < p.2

theorem Before.asymm {p q : Nat × Nat} (h : Before p q) : ¬ Before q p := by
  unfold Before at *
  omega

/-- A rank with its multiplicity is a group of a hand. -/
def IsGroup (values : List Nat) (p : Nat × Nat) : Prop :=
  p.2 ∈ rankValues ∧ values.count p.2 = p.1 ∧ 1 ≤ p.1 ∧ p.1 ≤ 5

theorem mem_rankGroups_iff {values : List Nat} {p : Nat × Nat} :
    p ∈ rankGroups values ↔ IsGroup values p := by
  obtain ⟨m, v⟩ := p
  have sizes : m ∈ [5, 4, 3, 2, 1] ↔ 1 ≤ m ∧ m ≤ 5 := by simp; omega
  rw [rankGroups, List.mem_flatMap, IsGroup, ← sizes]
  constructor
  · rintro ⟨n, hn, h⟩
    obtain ⟨w, hw, eq⟩ := List.mem_map.mp h
    obtain ⟨rfl, rfl⟩ := Prod.mk.inj eq
    rw [List.mem_filter, decide_eq_true_eq] at hw
    exact ⟨hw.1, hw.2, hn⟩
  · rintro ⟨hv, count, hm⟩
    exact ⟨m, hm, List.mem_map_of_mem (List.mem_filter.mpr ⟨hv, decide_eq_true count⟩)⟩

theorem pairwise_rankValues : rankValues.Pairwise (· > ·) := by
  decide

theorem pairwise_rankGroups (values : List Nat) : (rankGroups values).Pairwise Before := by
  rw [rankGroups, List.pairwise_flatMap]
  constructor
  · intro m _
    rw [List.pairwise_map]
    exact (pairwise_rankValues.filter _).imp fun h => .inr ⟨rfl, h⟩
  · have sizes : [5, 4, 3, 2, 1].Pairwise (fun m n : Nat => n < m) := by decide
    refine sizes.imp fun h p hp q hq => .inl ?_
    obtain ⟨_, -, rfl⟩ := List.mem_map.mp hp
    obtain ⟨_, -, rfl⟩ := List.mem_map.mp hq
    exact h

theorem nodup_of_pairwise {g : List (Nat × Nat)} (sorted : g.Pairwise Before) : g.Nodup :=
  sorted.imp fun h same => (same ▸ h).asymm (same ▸ h)

/-- **The groups of a hand are all its groups in order**, so whatever holds all of them in order is
the list of its groups. -/
theorem rankGroups_eq {values : List Nat} {g : List (Nat × Nat)} (sorted : g.Pairwise Before)
    (mem : ∀ p, p ∈ g ↔ IsGroup values p) : rankGroups values = g := by
  refine List.Perm.eq_of_pairwise (fun p q _ _ h h' => absurd h' h.asymm)
    (pairwise_rankGroups values) sorted ?_
  rw [List.perm_ext_iff_of_nodup (nodup_of_pairwise (pairwise_rankGroups values))
    (nodup_of_pairwise sorted)]
  exact fun p => mem_rankGroups_iff.trans (mem p).symm

/-! ### Ranks -/

section Ranks

variable {values : List Nat}

theorem count_of_mem_rankGroups {p : Nat × Nat} (h : p ∈ rankGroups values) :
    values.count p.2 = p.1 :=
  (mem_rankGroups_iff.mp h).2.1

theorem nodup_ranks (values : List Nat) : ((rankGroups values).map Prod.snd).Nodup := by
  refine List.Nodup.map_on (fun p hp q hq same => ?_)
    (nodup_of_pairwise (pairwise_rankGroups values))
  exact Prod.ext (by rw [← count_of_mem_rankGroups hp, ← count_of_mem_rankGroups hq, same]) same

/-- The ranks of the groups are the ranks of the hand. -/
theorem perm_dedup (known : ∀ v ∈ values, v ∈ rankValues) (few : ∀ v, values.count v ≤ 5) :
    ((rankGroups values).map Prod.snd).Perm values.dedup := by
  rw [List.perm_ext_iff_of_nodup (nodup_ranks values) (List.nodup_dedup values)]
  intro v
  rw [List.mem_dedup, List.mem_map]
  constructor
  · rintro ⟨p, hp, rfl⟩
    obtain ⟨-, count, pos, -⟩ := mem_rankGroups_iff.mp hp
    exact List.count_pos_iff.mp (by omega)
  · intro hv
    refine ⟨(values.count v, v), mem_rankGroups_iff.mpr ⟨known v hv, rfl, ?_, few v⟩, rfl⟩
    exact List.count_pos_iff.mpr hv

/-- The multiplicities add up to the number of cards. -/
theorem sum_multiplicities (known : ∀ v ∈ values, v ∈ rankValues)
    (few : ∀ v, values.count v ≤ 5) : ((rankGroups values).map Prod.fst).sum = values.length := by
  have counts : (rankGroups values).map Prod.fst =
      ((rankGroups values).map Prod.snd).map (values.count ·) := by
    rw [List.map_map]
    exact List.map_congr_left fun p hp => (count_of_mem_rankGroups hp).symm
  rw [counts, ((perm_dedup known few).map _).sum_eq, List.sum_map_count_dedup_eq_length]

end Ranks

/-! ### Partitions of five -/

/-- The partitions of five into parts less than five. -/
def partitions : List (List Nat) :=
  [[4, 1], [3, 2], [3, 1, 1], [2, 2, 1], [2, 1, 1, 1], [1, 1, 1, 1, 1]]

theorem mem_partitions {parts : List Nat} (desc : parts.Pairwise (· ≥ ·))
    (range : ∀ m ∈ parts, 1 ≤ m ∧ m ≤ 4) (sum : parts.sum = 5) : parts ∈ partitions := by
  rcases parts with _ | ⟨a, _ | ⟨b, _ | ⟨c, _ | ⟨d, _ | ⟨e, _ | ⟨f, parts⟩⟩⟩⟩⟩⟩
  all_goals simp only [List.forall_mem_cons, List.sum_cons, List.sum_nil, List.pairwise_cons] at *
  · omega
  · omega
  · obtain ⟨rfl, rfl⟩ | ⟨rfl, rfl⟩ : a = 4 ∧ b = 1 ∨ a = 3 ∧ b = 2 := by omega
    all_goals decide
  · obtain ⟨rfl, rfl, rfl⟩ | ⟨rfl, rfl, rfl⟩ : a = 3 ∧ b = 1 ∧ c = 1 ∨ a = 2 ∧ b = 2 ∧ c = 1 := by
      omega
    all_goals decide
  · obtain ⟨rfl, rfl, rfl, rfl⟩ : a = 2 ∧ b = 1 ∧ c = 1 ∧ d = 1 := by omega
    decide
  · obtain ⟨rfl, rfl, rfl, rfl, rfl⟩ : a = 1 ∧ b = 1 ∧ c = 1 ∧ d = 1 ∧ e = 1 := by omega
    decide
  · omega

theorem multiplicities_mem_partitions {values : List Nat} (known : ∀ v ∈ values, v ∈ rankValues)
    (few : ∀ v, values.count v ≤ 4) (five : values.length = 5) :
    (rankGroups values).map Prod.fst ∈ partitions := by
  refine mem_partitions ?_ (fun m hm => ?_) ?_
  · rw [List.pairwise_map]
    exact (pairwise_rankGroups values).imp fun h => h.elim (fun lt => lt.le) fun eq => eq.1.ge
  · obtain ⟨p, hp, rfl⟩ := List.mem_map.mp hm
    exact ⟨(mem_rankGroups_iff.mp hp).2.2.1, (count_of_mem_rankGroups hp) ▸ few p.2⟩
  · rw [sum_multiplicities known fun v => (few v).trans (by omega), five]

end Showdown.Hand
