import Showdown.Decimal.Nearest
import Showdown.Fusion.FusedHand

/-!
# The tally of outcomes

How many hands were fused, and how many with each outcome.
-/

namespace Showdown

/-- The counters of fused hands. -/
structure Tally where
  /-- All results. -/
  total : Nat
  /-- Results on which the sources agree. -/
  crossValidated : Nat
  /-- Results of the card readings alone. -/
  primaryOnly : Nat
  /-- Results on which the sources disagree. -/
  reviewFlagged : Nat
  /-- Results of the video alone. -/
  secondaryFallback : Nat
  /-- Hands that nobody could classify. -/
  undetected : Nat
  deriving DecidableEq

namespace Tally

/-- No result yet. -/
def zero : Tally := ⟨0, 0, 0, 0, 0, 0⟩

/-- Counts one more outcome. -/
def count (s : Tally) : Outcome → Tally
  | .crossValidated => { s with total := s.total + 1, crossValidated := s.crossValidated + 1 }
  | .ambiguous => { s with total := s.total + 1, reviewFlagged := s.reviewFlagged + 1 }
  | .primaryOnly => { s with total := s.total + 1, primaryOnly := s.primaryOnly + 1 }
  | .secondaryFallback =>
    { s with total := s.total + 1, secondaryFallback := s.secondaryFallback + 1 }
  | .manualRequired => { s with total := s.total + 1, undetected := s.undetected + 1 }

/-- Counts one more result. -/
def add (s : Tally) (r : FusedHand) : Tally :=
  s.count r.outcome

/-- The total is the sum of the counters of outcomes. -/
def Balanced (s : Tally) : Prop :=
  s.total =
    s.crossValidated + s.primaryOnly + s.reviewFlagged + s.secondaryFallback + s.undetected

theorem total_add (s : Tally) (r : FusedHand) : (s.add r).total = s.total + 1 := by
  unfold add count
  split <;> rfl

theorem Balanced.add {s : Tally} (h : s.Balanced) (r : FusedHand) : (s.add r).Balanced := by
  unfold Balanced at h ⊢
  unfold Tally.add count
  split <;> simp only [h] <;> omega

/-- The counters of two collections of results taken together. -/
def merge (s t : Tally) : Tally :=
  { total := s.total + t.total
    crossValidated := s.crossValidated + t.crossValidated
    primaryOnly := s.primaryOnly + t.primaryOnly
    reviewFlagged := s.reviewFlagged + t.reviewFlagged
    secondaryFallback := s.secondaryFallback + t.secondaryFallback
    undetected := s.undetected + t.undetected }

theorem merge_assoc (s t u : Tally) : (s.merge t).merge u = s.merge (t.merge u) := by
  simp [merge, Nat.add_assoc]

theorem merge_comm (s t : Tally) : s.merge t = t.merge s := by
  simp [merge, Nat.add_comm]

theorem merge_right_comm (s t u : Tally) : (s.merge t).merge u = (s.merge u).merge t := by
  rw [merge_assoc, merge_comm t, ← merge_assoc]

theorem merge_add (s t : Tally) (r : FusedHand) : s.merge (t.add r) = (s.merge t).add r := by
  unfold Tally.add count
  split <;> simp [merge, Nat.add_assoc]

/-- Results are counted after a merge as they are counted before it. -/
theorem merge_foldl_add (s t : Tally) (rs : List FusedHand) :
    s.merge (rs.foldl add t) = rs.foldl add (s.merge t) := by
  induction rs generalizing t with
  | nil => rfl
  | cons r rs ih => rw [List.foldl_cons, List.foldl_cons, ih, merge_add]

/-- The share of a counter in all results, zero if there are none. -/
def share (s : Tally) (n : Nat) : Float :=
  if s.total = 0 then 0.0 else Decimal.nearest false n 1 / Decimal.nearest false s.total 1

/-- The share of results on which the sources agree. -/
def agreementShare (s : Tally) : Float :=
  s.share s.crossValidated

/-- The share of results of the video alone. -/
def videoShare (s : Tally) : Float :=
  s.share s.secondaryFallback

/-- The share of hands that nobody could classify. -/
def undetectedShare (s : Tally) : Float :=
  s.share s.undetected

end Tally

end Showdown
