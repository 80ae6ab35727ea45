import Showdown.Proofs.Complaint
import Showdown.Settings
import Mathlib.Logic.Basic
import Mathlib.Tactic.SplitIfs

/-!
# Valid settings

Settings can be wrong in six ways (`SettingsFault.Applies`), several of them at once, and they are
valid if they are wrong in none (`Settings.Valid`). Then the threshold is a number, as only numbers
can be compared. Settings that are not valid are refused for the first of their faults.
-/

namespace Showdown

variable {s : Settings} {fault : SettingsFault}

/-- Settings mean something. -/
structure Settings.Valid (s : Settings) : Prop where
  /-- Hands are waited for. -/
  waits : 0 < s.matchWindow
  /-- No source is called silent before a hand has been waited for. -/
  patient : s.matchWindow ≤ s.stalenessWindow
  /-- The threshold is a confidence. -/
  confidence : 0.0 ≤ s.secondaryThreshold ∧ s.secondaryThreshold ≤ 1.0
  /-- The threshold is a number. -/
  number : s.secondaryThreshold.isNaN = false
  /-- There is a category of the value. -/
  category : 1 ≤ s.boardCategoryMax ∧ s.boardCategoryMax ≤ 10
  /-- Disagreement is not reported before there is any. -/
  mismatches : s.mismatchThreshold ≠ 0
  /-- There is time between two checks of health. -/
  rests : 0 < s.healthCheckInterval

namespace SettingsFault

/-- The place of a fault in the order in which faults are looked for. -/
def order : SettingsFault → Nat
  | emptyMatchWindow => 0
  | shortStalenessWindow => 1
  | thresholdOutside _ => 2
  | noSuchCategory => 3
  | zeroMismatchThreshold => 4
  | emptyHealthInterval => 5

/-- Settings have a fault, whether or not they have another one as well. -/
def Applies (s : Settings) : SettingsFault → Prop
  | emptyMatchWindow => s.matchWindow = 0
  | shortStalenessWindow => s.stalenessWindow < s.matchWindow
  | thresholdOutside x => x = s.secondaryThreshold ∧ ¬ (0.0 ≤ x ∧ x ≤ 1.0)
  | noSuchCategory => ¬ (1 ≤ s.boardCategoryMax ∧ s.boardCategoryMax ≤ 10)
  | zeroMismatchThreshold => s.mismatchThreshold = 0
  | emptyHealthInterval => s.healthCheckInterval = 0

instance (s : Settings) : DecidablePred (Applies s)
  | emptyMatchWindow => inferInstanceAs (Decidable (s.matchWindow = 0))
  | shortStalenessWindow => inferInstanceAs (Decidable (s.stalenessWindow < s.matchWindow))
  | thresholdOutside x =>
    inferInstanceAs (Decidable (x = s.secondaryThreshold ∧ ¬ (0.0 ≤ x ∧ x ≤ 1.0)))
  | noSuchCategory =>
    inferInstanceAs (Decidable ¬ (1 ≤ s.boardCategoryMax ∧ s.boardCategoryMax ≤ 10))
  | zeroMismatchThreshold => inferInstanceAs (Decidable (s.mismatchThreshold = 0))
  | emptyHealthInterval => inferInstanceAs (Decidable (s.healthCheckInterval = 0))

/-- The faults that settings can have, in order. -/
def all (s : Settings) : List SettingsFault :=
  [emptyMatchWindow, shortStalenessWindow, thresholdOutside s.secondaryThreshold, noSuchCategory,
    zeroMismatchThreshold, emptyHealthInterval]

theorem pairwise_all (s : Settings) : (all s).Pairwise fun a b => a.order < b.order := by
  simp [all, order]

theorem mem_all (h : fault.Applies s) : fault ∈ all s := by
  cases fault with
  | thresholdOutside => simp [all, h.1]
  | _ => simp [all]

/-- No two faults of one place apply. -/
theorem eq_of_applies (a b : SettingsFault) (ha : a.Applies s) (hb : b.Applies s)
    (same : a.order = b.order) : a = b := by
  cases a <;> cases b <;> simp [order] at same ⊢
  exact ha.1.trans hb.1.symm

end SettingsFault

namespace Settings

/-- Settings are valid if they have no fault. -/
theorem valid_iff : s.Valid ↔ ∀ fault : SettingsFault, ¬ fault.Applies s := by
  constructor
  · intro valid fault applies
    cases fault with
    | emptyMatchWindow => exact Nat.ne_of_gt valid.waits applies
    | shortStalenessWindow => exact Nat.not_lt.mpr valid.patient applies
    | thresholdOutside => exact applies.2 (applies.1 ▸ valid.confidence)
    | noSuchCategory => exact applies valid.category
    | zeroMismatchThreshold => exact valid.mismatches applies
    | emptyHealthInterval => exact Nat.ne_of_gt valid.rests applies
  · intro sound
    have confidence := not_not.mp fun outside => sound (.thresholdOutside _) ⟨rfl, outside⟩
    exact {
      waits := Nat.pos_of_ne_zero (sound .emptyMatchWindow)
      patient := Nat.not_lt.mp (sound .shortStalenessWindow)
      confidence := confidence
      number := isNaN_of_le confidence.1
      category := not_not.mp (sound .noSuchCategory)
      mismatches := sound .zeroMismatchThreshold
      rests := Nat.pos_of_ne_zero (sound .emptyHealthInterval) }

/-- The check looks for the faults in order. -/
theorem fault?_eq_find? (s : Settings) :
    s.fault? = (SettingsFault.all s).find? fun fault => fault.Applies s := by
  have outside : (!inUnitInterval s.secondaryThreshold) = true ↔
      ¬ (0.0 ≤ s.secondaryThreshold ∧ s.secondaryThreshold ≤ 1.0) := by
    rw [← inUnitInterval_iff, Bool.not_eq_true', Bool.not_eq_true]
  have category : (s.boardCategoryMax < 1 || 10 < s.boardCategoryMax) = true ↔
      ¬ (1 ≤ s.boardCategoryMax ∧ s.boardCategoryMax ≤ 10) := by
    rw [Bool.or_eq_true, decide_eq_true_iff, decide_eq_true_iff, ← UInt8.not_le, ← UInt8.not_le,
      not_and_or]
  unfold fault?
  simp only [outside, category]
  split_ifs <;> simp [SettingsFault.all, SettingsFault.Applies, *]

theorem fault?_eq_none_iff : s.fault? = none ↔ s.Valid := by
  rw [fault?_eq_find?, valid_iff, List.find?_eq_none]
  constructor
  · intro none fault applies
    exact none fault (SettingsFault.mem_all applies) (decide_eq_true applies)
  · intro sound fault _
    simpa using sound fault

/-- Settings pass if they are valid. -/
theorem validate_eq_ok_iff : s.validate = .ok () ↔ s.Valid := by
  rw [← fault?_eq_none_iff, validate]
  cases s.fault? <;> simp

/-- Other settings are refused for the first of their faults. -/
theorem firstOf_of_validate (h : s.validate = .error fault) :
    FirstOf (SettingsFault.Applies s) SettingsFault.order fault := by
  have found : s.fault? = some fault := by
    unfold validate at h
    split at h <;> cases h
    assumption
  rw [fault?_eq_find?] at found
  exact firstOf_of_find? (SettingsFault.pairwise_all s) (fun _ => SettingsFault.mem_all) found

end Settings

end Showdown
