import Showdown.Settings
import Showdown.Settings.File
import Showdown.Text.Quoted

/-!
# Where settings come from

Settings are found in three layers: variables of the environment, a file that one of these
variables names, and the usual values. A variable wins over the file, and the file over the usual
value. Not every setting has a variable, and the two windows have no usual value.

A blank variable counts as unset. If several things are wrong, the first one is reported, in the
order of the settings; that a merged setting is out of its range comes last.
-/

namespace Showdown

/-- The layer a setting was found in. -/
inductive Layer where
  /-- The usual value. -/
  | usual
  /-- The file. -/
  | file
  /-- A variable of the environment. -/
  | environment
  deriving DecidableEq

/-- The layers the settings were found in. -/
structure Origins where
  /-- The layer of the window for matching. -/
  matchWindow : Layer
  /-- The layer of the window for silence. -/
  stalenessWindow : Layer
  /-- The layer of the threshold of the video. -/
  secondaryThreshold : Layer
  /-- The layer of the least playing time. -/
  minDurationSeconds : Layer
  /-- The layer of the greatest board category. -/
  boardCategoryMax : Layer
  /-- The layer of the number of disagreements. -/
  mismatchThreshold : Layer
  /-- The layer of the time between checks. -/
  healthCheckInterval : Layer
  /-- The layer of the time before removal. -/
  disconnectGrace : Layer
  deriving DecidableEq

/-- Settings together with where they were found. -/
structure FoundSettings where
  /-- The settings. -/
  settings : Settings
  /-- Their layers. -/
  origins : Origins

/-- Why there are no settings. -/
inductive SettingsError where
  /-- The file cannot be read. -/
  | unreadable (failure : ReadFailure)
  /-- The file is no document, or a setting has a value there that it cannot have. -/
  | malformed
  /-- A setting without a usual value was not given. -/
  | missing (setting : String)
  /-- The value of a variable cannot be understood. -/
  | unclear (name : String) (raw : String)
  /-- The settings are not valid. -/
  | faulty (fault : SettingsFault)

/-- Why there are no settings, in words. What is wrong with the document is not said. -/
def SettingsError.message : SettingsError → String
  | unreadable failure => "Failed to read config file: " ++ failure.message
  | malformed => "Failed to parse config file"
  | missing setting => "Missing required setting \x60" ++ setting ++ "\x60"
  | unclear name raw =>
    "Invalid configuration: Invalid " ++ name ++ ": " ++ Text.quoted raw
  | faulty fault => "Invalid configuration: " ++ fault.message

/-- The variables of the environment. -/
abbrev Environment := String → Option String

/-- The value of a variable, unless it is blank. -/
def Environment.value? (env : Environment) (name : String) : Option String :=
  (env name).filter fun v => !Text.isAllBlank v

namespace Layers

/-- A setting and its layer, given what the file says, the variable and how it is read. -/
def pick {α : Type} (env : Environment) (name : String) (read : String → Option α)
    (fromFile : Option α) : Except SettingsError (Option (α × Layer)) :=
  match env.value? name with
  | some raw =>
    match read (Text.trimmed raw) with
    | some a => .ok (some (a, .environment))
    | none => .error (.unclear name raw)
  | none => .ok (fromFile.map fun a => (a, .file))

/-- A setting without a usual value. -/
def required {α : Type} (setting : String) (found : Option (α × Layer)) :
    Except SettingsError (α × Layer) :=
  match found with
  | some a => .ok a
  | none => .error (.missing setting)

/-- A setting with a usual value. -/
def orUsual {α : Type} (usual : α) (found : Option (α × Layer)) : α × Layer :=
  found.getD (usual, .usual)

/-- Reads a whole number of 64 bits. -/
def uint64? (s : String) : Option Nat :=
  Decimal.naturalBelow? UInt64.size s

/-- Reads a whole number of 32 bits. -/
def uint32? (s : String) : Option UInt32 :=
  (Decimal.naturalBelow? UInt32.size s).map UInt32.ofNat

/-- Reads a whole number of 8 bits. -/
def uint8? (s : String) : Option UInt8 :=
  (Decimal.naturalBelow? UInt8.size s).map UInt8.ofNat

/-- Lays the environment over a file and the file over the usual settings. -/
def merge (env : Environment) (file : FileSettings) : Except SettingsError FoundSettings := do
  let matchWindow ← required "match_window_ms"
    (← pick env "HANDFUSE_MATCH_WINDOW_MS" uint64? file.matchWindow)
  let stalenessWindow ← required "staleness_window_ms"
    (← pick env "HANDFUSE_STALENESS_WINDOW_MS" uint64? file.stalenessWindow)
  let usual := Settings.usual matchWindow.1 stalenessWindow.1
  let threshold := orUsual usual.secondaryThreshold
    (← pick env "HANDFUSE_SECONDARY_THRESHOLD" Decimal.real? file.secondaryThreshold)
  let minDuration := orUsual usual.minDurationSeconds
    (← pick env "HANDFUSE_MIN_DURATION_SECS" uint32? file.minDurationSeconds)
  let boardCategory := orUsual usual.boardCategoryMax
    (← pick env "HANDFUSE_BOARD_CATEGORY_MAX" uint8? file.boardCategoryMax)
  let mismatch := orUsual usual.mismatchThreshold
    (← pick env "HANDFUSE_MISMATCH_THRESHOLD" uint32? file.mismatchThreshold)
  let interval := orUsual usual.healthCheckInterval
    (file.healthCheckInterval.map fun ms => (ms, .file))
  let grace := orUsual usual.disconnectGrace (file.disconnectGrace.map fun ms => (ms, .file))
  return {
    settings :=
      { matchWindow := matchWindow.1
        stalenessWindow := stalenessWindow.1
        secondaryThreshold := threshold.1
        minDurationSeconds := minDuration.1
        boardCategoryMax := boardCategory.1
        mismatchThreshold := mismatch.1
        healthCheckInterval := interval.1
        disconnectGrace := grace.1 }
    origins :=
      { matchWindow := matchWindow.2
        stalenessWindow := stalenessWindow.2
        secondaryThreshold := threshold.2
        minDurationSeconds := minDuration.2
        boardCategoryMax := boardCategory.2
        mismatchThreshold := mismatch.2
        healthCheckInterval := interval.2
        disconnectGrace := grace.2 } }

/-- The settings of the file that the environment names, of an empty one if it names none. -/
def fileSettings (env : Environment) (contents : String → Except ReadFailure ByteArray) :
    Except SettingsError FileSettings :=
  match env.value? "HANDFUSE_CONFIG" with
  | none => .ok .empty
  | some path =>
    match contents path with
    | .error failure => .error (.unreadable failure)
    | .ok bytes =>
      match String.fromUTF8? bytes with
      | none => .error (.unreadable .notText)
      | some text =>
        match FileSettings.read? text with
        | some settings => .ok settings
        | none => .error .malformed

/-- Merges the layers and refuses settings that are not valid. -/
def findWith (env : Environment) (file : Except SettingsError FileSettings) :
    Except SettingsError FoundSettings := do
  let resolved ← merge env (← file)
  match resolved.settings.validate with
  | .ok () => return resolved
  | .error fault => .error (.faulty fault)

/-- Finds the settings. -/
def find (env : Environment) (contents : String → Except ReadFailure ByteArray) :
    Except SettingsError FoundSettings :=
  findWith env (fileSettings env contents)

end Layers

end Showdown
