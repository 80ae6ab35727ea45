import Showdown.Fusion.Policy
import Showdown.Grading

/-!
# Settings

What the service can be tuned by. Windows and intervals are counted in milliseconds. The two
windows have to be chosen by whoever runs the service, and all else has a usual value.

Settings are valid if hands are waited for at all, if a source is not called silent before a hand
has been waited for, and if the other numbers lie where they mean something.
-/

namespace Showdown

/-- The settings of the service. -/
structure Settings where
  /-- How long a hand waits for its second observation. -/
  matchWindow : Nat
  /-- How long a source may be silent before it counts as stale. -/
  stalenessWindow : Nat
  /-- The least confidence at which the video is used by itself. -/
  secondaryThreshold : Float
  /-- The playing time from which on a hand counts as long. -/
  minDurationSeconds : UInt32
  /-- The greatest value of a category that makes a board strong by itself. -/
  boardCategoryMax : UInt8
  /-- The number of disagreements in a row that is reported. -/
  mismatchThreshold : UInt32
  /-- The time between two checks of health. -/
  healthCheckInterval : Nat
  /-- How long a table may stay disconnected before it is removed. -/
  disconnectGrace : Nat

/-- What is wrong with settings. -/
inductive SettingsFault where
  /-- Hands are not waited for. -/
  | emptyMatchWindow
  /-- A source is called silent while a hand still waits for it. -/
  | shortStalenessWindow
  /-- The threshold is no confidence. -/
  | thresholdOutside (threshold : Float)
  /-- There is no category of that value. -/
  | noSuchCategory
  /-- Disagreement would be reported before there is any. -/
  | zeroMismatchThreshold
  /-- Health would be checked all the time. -/
  | emptyHealthInterval

/-- What is wrong with settings, in words. -/
def SettingsFault.message : SettingsFault → String
  | emptyMatchWindow => "match_window must be > 0"
  | shortStalenessWindow => "staleness_window must not be shorter than match_window"
  | thresholdOutside x =>
    "secondary_confidence_threshold must lie in [0.0, 1.0], got " ++ Decimal.plainText x
  | noSuchCategory => "board_category_max must be a category value 1..=10"
  | zeroMismatchThreshold => "mismatch_threshold must be >= 1"
  | emptyHealthInterval => "health_check_interval must be > 0"

namespace Settings

/-- The usual settings for two given windows. -/
def usual (matchWindow stalenessWindow : Nat) : Settings :=
  { matchWindow := matchWindow
    stalenessWindow := stalenessWindow
    secondaryThreshold := Policy.standard.secondaryThreshold
    minDurationSeconds := GradingCriteria.standard.minDurationSeconds
    boardCategoryMax := GradingCriteria.standard.boardCategoryMax
    mismatchThreshold := 3
    healthCheckInterval := 5000
    disconnectGrace := 600000 }

/-- The first thing that is wrong with settings. -/
def fault? (s : Settings) : Option SettingsFault :=
  if s.matchWindow = 0 then some .emptyMatchWindow
  else if s.stalenessWindow < s.matchWindow then some .shortStalenessWindow
  else if !inUnitInterval s.secondaryThreshold then some (.thresholdOutside s.secondaryThreshold)
  else if s.boardCategoryMax < 1 || 10 < s.boardCategoryMax then some .noSuchCategory
  else if s.mismatchThreshold = 0 then some .zeroMismatchThreshold
  else if s.healthCheckInterval = 0 then some .emptyHealthInterval
  else none

/-- Refuses settings with a fault. -/
def validate (s : Settings) : Except SettingsFault Unit :=
  match s.fault? with
  | some f => .error f
  | none => .ok ()

/-- The policy by which observations are fused. -/
def policy (s : Settings) : Policy :=
  ⟨s.secondaryThreshold⟩

/-- The criteria by which fused hands are graded. -/
def criteria (s : Settings) : GradingCriteria :=
  { GradingCriteria.standard with
    minDurationSeconds := s.minDurationSeconds
    boardCategoryMax := s.boardCategoryMax }

end Settings

end Showdown
