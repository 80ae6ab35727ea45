import Mathlib.Order.Defs.PartialOrder

/-!
# The first of several complaints

Where several things are wrong at once, one of them is named. Which complaints apply is said without
regard to one another, and each has a place in the order in which they are looked at; the one that
is named is the first (`FirstOf`). A check that names first complaints only, and that passes only
what there is nothing to complain about, names just the first complaint (`eq_error_iff_firstOf`). A
search in the order of the places is such a check (`firstOf_of_find?`).
-/

namespace Showdown

variable {α β ε : Type} {wrong : α → Prop} {place : α → Nat} {a b : α}

/-- A complaint applies, and none that is looked at before it does. -/
structure FirstOf (wrong : α → Prop) (place : α → Nat) (a : α) : Prop where
  /-- It applies. -/
  applies : wrong a
  /-- No complaint of an earlier place applies. -/
  first : ∀ b, wrong b → place a ≤ place b

/-- There is no more than one first complaint, if no two of one place apply. -/
theorem FirstOf.eq (ha : FirstOf wrong place a) (hb : FirstOf wrong place b)
    (apart : ∀ a b, wrong a → wrong b → place a = place b → a = b) : a = b :=
  apart a b ha.applies hb.applies
    (Nat.le_antisymm (ha.first b hb.applies) (hb.first a ha.applies))

/-- **A check refuses for the first complaint**, if it refuses for first complaints only and passes
nothing to which a complaint applies. -/
theorem eq_error_iff_firstOf {check : Except ε β} {say : α → ε} {e : ε}
    (refused : ∀ e, check = .error e → ∃ a, FirstOf wrong place a ∧ say a = e)
    (passed : ∀ x, check = .ok x → ∀ a, ¬ wrong a)
    (apart : ∀ a b, wrong a → wrong b → place a = place b → a = b) :
    check = .error e ↔ ∃ a, FirstOf wrong place a ∧ say a = e := by
  refine ⟨refused e, ?_⟩
  rintro ⟨a, ha, rfl⟩
  cases outcome : check with
  | ok x => exact absurd ha.applies (passed x outcome a)
  | error e =>
    obtain ⟨b, hb, rfl⟩ := refused e outcome
    rw [ha.eq hb apart]

/-- What is found by a search in the order of the places is the first complaint, if the search looks
at all that can apply. -/
theorem firstOf_of_find? [DecidablePred wrong] {l : List α}
    (ordered : l.Pairwise fun a b => place a < place b) (all : ∀ a, wrong a → a ∈ l)
    (h : l.find? (fun a => wrong a) = some a) : FirstOf wrong place a := by
  obtain ⟨applies, before, after, rfl, sound⟩ := List.find?_eq_some_iff_append.mp h
  refine ⟨of_decide_eq_true applies, fun b wrongb => ?_⟩
  obtain ⟨-, rest, -⟩ := List.pairwise_append.mp ordered
  obtain early | late := List.mem_append.mp (all b wrongb)
  · simpa [wrongb] using sound b early
  · obtain rfl | later := List.mem_cons.mp late
    · exact Nat.le_refl _
    · exact Nat.le_of_lt (List.rel_of_pairwise_cons rest later)

end Showdown
