import Showdown.Proofs.Table.Closing

/-!
# Streaks of disagreement

How long the streak of disagreement of a table is can be read off its results: it is the number of
ambiguous ones since the last one on which the sources agreed (`streakOf`). What a table publishes
can be read off its results too: the results themselves, and in front of an ambiguous one the streak
if it has its length with that one (`chronicle`). So a streak is published once, however much longer
it gets, and another one only after the sources have agreed again.

A table counts its streak in a word of 32 bits, and adding to it wraps around. All this is exactly
so as long as there are fewer than 2³² disagreements in a row. Beyond that a table counts what is
left of the streak after division by 2³² (`wrapped`), and publishes it again each time that this
reaches the length.

Hands that nobody or only one source could classify change nothing about a streak, and neither do
those that are given up in the end. `streak_of_run` says all this of every run.
-/

namespace Showdown.Table

variable {t : Table} {e : Emission Table Output} {out : List Output} {rs rs' : List FusedHand}

/-! ### Streaks of results -/

/-- The number of disagreements among some results since the last agreement, or since the first
result if there was none. -/
def streakOf (rs : List FusedHand) : Nat :=
  (rs.rtakeWhile fun r => r.outcome ≠ .crossValidated).countP fun r => r.outcome = .ambiguous

/-- The streak as it is counted in a word of 32 bits. -/
def wrapped (rs : List FusedHand) : Nat :=
  streakOf rs % UInt32.size

theorem streakOf_concat (rs : List FusedHand) (r : FusedHand) : streakOf (rs ++ [r]) =
    match r.outcome with
    | .ambiguous => streakOf rs + 1
    | .crossValidated => 0
    | .primaryOnly | .secondaryFallback | .manualRequired => streakOf rs := by
  cases outcome : r.outcome with
  | crossValidated =>
    rw [streakOf, List.rtakeWhile_concat_neg _ _ _ (by simp [outcome])]
    rfl
  | ambiguous | primaryOnly | secondaryFallback | manualRequired =>
    rw [streakOf, List.rtakeWhile_concat_pos _ _ _ (by simp [outcome]), List.countP_append]
    simp [streakOf, outcome]

/-- A table that counts in a word goes on counting in that word. -/
theorem toNat_carry {streak : UInt32} (counted : streak.toNat = wrapped rs) (r : FusedHand) :
    (r.outcome.carry streak).toNat = wrapped (rs ++ [r]) := by
  rw [wrapped, streakOf_concat]
  cases r.outcome with
  | ambiguous =>
    rw [Outcome.carry, UInt32.toNat_add, counted]
    exact Nat.mod_add_mod ..
  | crossValidated => rfl
  | primaryOnly | secondaryFallback | manualRequired => exact counted

example : Outcome.carry .ambiguous 4294967295 = 0 := by decide

/-- What is published of some results that come after others, if streaks are counted in a certain
way. -/
def chronicle (count : List FusedHand → Nat) (tableId : TableId) (threshold : UInt32)
    (before : List FusedHand) : List FusedHand → List Effect
  | [] => []
  | r :: rs => report tableId threshold (count (before ++ [r])) r ++
      chronicle count tableId threshold (before ++ [r]) rs

section Chronicle

variable {count : List FusedHand → Nat} {tableId : TableId} {threshold : UInt32}

theorem chronicle_append (before rs rs' : List FusedHand) :
    chronicle count tableId threshold before (rs ++ rs') =
      chronicle count tableId threshold before rs ++
        chronicle count tableId threshold (before ++ rs) rs' := by
  induction rs generalizing before with
  | nil => simp [chronicle]
  | cons r rs ih => simp [chronicle, ih]

end Chronicle

/-! ### Tables -/

/-- A table that has put out something keeps its streak, and has published it as it should. -/
structure Streaks (t : Table) (out : List Output) : Prop where
  /-- The streak is that of the results. -/
  streak : t.streak.toNat = wrapped (results out)
  /-- What is published is what can be read off the results. -/
  published : published out =
    chronicle wrapped t.tableId t.settings.mismatchThreshold [] (results out)

theorem Streaks.stay (h : Streaks t out) (s : Stays t e) : Streaks e.state (out ++ e.out) where
  streak := by rw [s.streak, h.streak, results_append, s.idle.results, List.append_nil]
  published := by
    rw [published_append, s.unpublished, results_append, s.idle.results, List.append_nil,
      List.append_nil, s.tableId, s.settings, h.published]

theorem Streaks.leave {hand : HandNumber} {p : Pending} {r : FusedHand} (h : Streaks t out)
    (l : Leaves hand p r t e) : Streaks e.state (out ++ e.out) where
  streak := by rw [l.streak, results_append, l.results, toNat_carry h.streak]
  published := by
    rw [published_append, results_append, l.results, chronicle_append, l.tableId, l.settings,
      h.published, l.published, toNat_carry h.streak]
    simp [chronicle]

theorem Streaks.turn (h : Streaks t out) (u : Turn) :
    Streaks (take u t).state (out ++ (take u t).out) :=
  Moves.keeps (fun s h => h.stay s) (fun _ l h => h.leave l) (moves_take u t) h

end Showdown.Table
