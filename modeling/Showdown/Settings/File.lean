import Showdown.Toml.Reader

/-!
# The settings file

A file may give any of the settings. Keys that name no setting are ignored, whatever they hold. A
number has to be in the range of its setting; the threshold may also be written as an integer.
-/

namespace Showdown

/-- The settings that a file gives. -/
structure FileSettings where
  /-- How long a hand waits for its second observation. -/
  matchWindow : Option Nat
  /-- How long a source may be silent before it counts as stale. -/
  stalenessWindow : Option Nat
  /-- The least confidence at which the video is used by itself. -/
  secondaryThreshold : Option Float
  /-- The playing time from which on a hand counts as long. -/
  minDurationSeconds : Option UInt32
  /-- The greatest value of a category that makes a board strong by itself. -/
  boardCategoryMax : Option UInt8
  /-- The number of disagreements in a row that is reported. -/
  mismatchThreshold : Option UInt32
  /-- The time between two checks of health. -/
  healthCheckInterval : Option Nat
  /-- How long a table may stay disconnected before it is removed. -/
  disconnectGrace : Option Nat

namespace FileSettings

/-- A file that gives nothing. -/
def empty : FileSettings :=
  ⟨none, none, none, none, none, none, none, none⟩

/-- A natural number below a bound. -/
def natural? (bound : Nat) : Toml → Option Nat
  | .integer i => if 0 ≤ i && i < bound then some i.toNat else none
  | _ => none

/-- A real number; an integer has to fit into 64 bits. -/
def real? : Toml → Option Float
  | .float x => some x
  | .integer i =>
    if Int64.minValue.toInt ≤ i && i < UInt64.size then some (Decimal.ofInt i) else none
  | _ => none

/-- The value under a key that may be missing. -/
def setting? {α : Type} (es : Toml.Entries) (key : String) (read : Toml → Option α) :
    Option (Option α) :=
  match es.get? key with
  | none => some none
  | some v => (read v).map some

/-- The settings of a document, none if one of them has a value that it cannot have. -/
def ofToml? (es : Toml.Entries) : Option FileSettings := do
  return {
    matchWindow := ← setting? es "match_window_ms" (natural? UInt64.size)
    stalenessWindow := ← setting? es "staleness_window_ms" (natural? UInt64.size)
    secondaryThreshold := ← setting? es "secondary_confidence_threshold" real?
    minDurationSeconds := ← setting? es "min_duration_seconds"
      fun v => (natural? UInt32.size v).map UInt32.ofNat
    boardCategoryMax := ← setting? es "board_category_max"
      fun v => (natural? UInt8.size v).map UInt8.ofNat
    mismatchThreshold := ← setting? es "mismatch_threshold"
      fun v => (natural? UInt32.size v).map UInt32.ofNat
    healthCheckInterval := ← setting? es "health_check_interval_ms" (natural? UInt64.size)
    disconnectGrace := ← setting? es "disconnect_grace_ms" (natural? UInt64.size) }

/-- Reads the text of a file. -/
def read? (text : String) : Option FileSettings :=
  (Toml.read? text).bind ofToml?

end FileSettings

/-- What keeps a file from being read. -/
inductive ReadFailure where
  /-- There is no such file. -/
  | notFound
  /-- A part of the path is a file and not a directory. -/
  | notDirectory
  /-- It is a directory. -/
  | directory
  /-- The path has too many characters. -/
  | nameTooLong
  /-- The path has a character that no path can have. -/
  | nullCharacter
  /-- The bytes of the file are no text. -/
  | notText

/-- The complaint about a file that cannot be read. -/
def ReadFailure.message : ReadFailure → String
  | notFound => "No such file or directory (os error 2)"
  | notDirectory => "Not a directory (os error 20)"
  | directory => "Is a directory (os error 21)"
  | nameTooLong => "File name too long (os error 36)"
  | nullCharacter => "file name contained an unexpected NUL byte"
  | notText => "stream did not contain valid UTF-8"

end Showdown
