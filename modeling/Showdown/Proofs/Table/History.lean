import Showdown.Table.History
import Mathlib.Data.List.DropRight
import Mathlib.Data.List.Nodup

/-!
# What a table remembers

The two halves of a history, the set for looking up and the list in order, always agree, hold no
hand twice and never more hands than are remembered. A hand that is pushed for the first time
leaves exactly the last 512 hands in the list (`History.order_push`).
-/

namespace Showdown.Table.History

/-- The two halves of a history agree, and it is no longer than what is remembered. -/
structure Sound (h : History) : Prop where
  /-- Both halves hold the same hands. -/
  mem_hands : ∀ hand, hand ∈ h.hands ↔ hand ∈ h.order
  /-- No hand is held twice. -/
  nodup : h.order.Nodup
  /-- Old hands are forgotten. -/
  bounded : h.order.length ≤ capacity

theorem sound_empty : empty.Sound where
  mem_hands := by simp [empty]
  nodup := by simp [empty]
  bounded := by simp [empty]

theorem Sound.contains_iff {h : History} (hs : h.Sound) (hand : HandNumber) :
    h.contains hand = true ↔ hand ∈ h.order := by
  rw [contains, ← Std.TreeSet.mem_iff_contains, hs.mem_hands]

theorem mem_foldl_erase (forgotten : List HandNumber) (s : Std.TreeSet HandNumber)
    (hand : HandNumber) : hand ∈ forgotten.foldl .erase s ↔ hand ∈ s ∧ hand ∉ forgotten := by
  induction forgotten generalizing s with
  | nil => simp
  | cons x xs ih =>
    rw [List.foldl_cons, ih, Std.TreeSet.mem_erase]
    simp only [ne_eq, List.mem_cons, not_or, Std.LawfulEqCmp.compare_eq_iff_eq]
    constructor
    · rintro ⟨⟨hx, hs⟩, hxs⟩
      exact ⟨hs, fun e => hx e.symm, hxs⟩
    · rintro ⟨hs, hx, hxs⟩
      exact ⟨⟨fun e => hx e.symm, hs⟩, hxs⟩

/-- Of a list without repetition, what is not among the first items is among the others. -/
theorem mem_and_not_mem_take_iff {hands : List HandNumber} (nodup : hands.Nodup) (n : Nat)
    (x : HandNumber) : x ∈ hands ∧ x ∉ hands.take n ↔ x ∈ hands.drop n := by
  have split : x ∈ hands ↔ x ∈ hands.take n ∨ x ∈ hands.drop n := by
    rw [← List.mem_append, List.take_append_drop]
  have disjoint : x ∈ hands.take n → x ∉ hands.drop n := by
    rw [← List.take_append_drop n hands] at nodup
    exact fun ht hd => (List.nodup_append.mp nodup).2.2 x ht x hd rfl
  tauto

/-- A hand that is not remembered is put after all others, and then the oldest are forgotten. -/
theorem Sound.order_push {h : History} (hs : h.Sound) {hand : HandNumber} (hn : hand ∉ h.order) :
    (h.push hand).order = (h.order ++ [hand]).rtake capacity := by
  have hc : ¬ h.contains hand = true := by rwa [hs.contains_iff]
  simp [push, add, trim, hc, List.rtake]

theorem mem_order_of_mem_push {h : History} (hs : h.Sound) {hand x : HandNumber}
    (hn : hand ∉ h.order) (hx : x ∈ (h.push hand).order) : x ∈ h.order ∨ x = hand := by
  rw [hs.order_push hn, List.rtake] at hx
  simpa using List.mem_of_mem_drop hx

theorem Sound.push {h : History} (hs : h.Sound) {hand : HandNumber} (hn : hand ∉ h.order) :
    (h.push hand).Sound := by
  have hc : ¬ h.contains hand = true := by rwa [hs.contains_iff]
  have nodup : (h.order ++ [hand]).Nodup := by
    rw [List.nodup_append]
    exact ⟨hs.nodup, by simp, by rintro a ha b hb rfl; simp_all⟩
  refine ⟨fun x => ?_, ?_, ?_⟩
  · have mem : x ∈ h.hands.insert hand ↔ x ∈ h.order ++ [hand] := by
      rw [Std.TreeSet.mem_insert, hs.mem_hands, Std.LawfulEqCmp.compare_eq_iff_eq, List.mem_append,
        List.mem_singleton, or_comm, eq_comm]
    simp only [History.push, add, trim, hc, Bool.false_eq_true, ↓reduceIte]
    generalize h.order ++ [hand] = hands at mem nodup
    rw [mem_foldl_erase, mem]
    exact mem_and_not_mem_take_iff nodup _ x
  · rw [hs.order_push hn, List.rtake]
    exact nodup.sublist (List.drop_sublist _ _)
  · rw [hs.order_push hn, List.rtake, List.length_drop]
    omega

end Showdown.Table.History
