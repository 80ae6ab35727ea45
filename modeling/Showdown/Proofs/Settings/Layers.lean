import Showdown.Proofs.Settings.Valid
import Showdown.Proofs.Text.Blank
import Showdown.Settings.Layers

/-!
# Settings and their layers

Each of the eight settings is found by itself (`Found`): it is what its variable says if it has one
that is set, else what the file says, else the usual value. There are settings only if all eight are
found and valid, and then they are these, each with its layer (`findWith_eq_ok_iff`). So no setting
depends on the variable or on the entry of another one (`eq_of_findWith`).

Otherwise several things may be in the way at once (`Trouble`): the file, a variable that cannot be
read, a window that nobody gave, a fault of the settings that were found. The first of them is
reported (`findWith_eq_error_iff`).
-/

namespace Showdown

/-! ### Settings one by one -/

/-- The settings, in the order in which they are looked up. -/
inductive Setting where
  /-- How long a hand waits for its second observation. -/
  | matchWindow
  /-- How long a source may be silent before it counts as stale. -/
  | stalenessWindow
  /-- The least confidence at which the video is used by itself. -/
  | secondaryThreshold
  /-- The playing time from which on a hand counts as long. -/
  | minDurationSeconds
  /-- The greatest value of a category that makes a board strong by itself. -/
  | boardCategoryMax
  /-- The number of disagreements in a row that is reported. -/
  | mismatchThreshold
  /-- The time between two checks of health. -/
  | healthCheckInterval
  /-- How long a table may stay disconnected before it is removed. -/
  | disconnectGrace

namespace Setting

/-- The place of a setting. -/
def index : Setting → Nat
  | matchWindow => 0
  | stalenessWindow => 1
  | secondaryThreshold => 2
  | minDurationSeconds => 3
  | boardCategoryMax => 4
  | mismatchThreshold => 5
  | healthCheckInterval => 6
  | disconnectGrace => 7

/-- What the value of a setting is. -/
abbrev Value : Setting → Type
  | secondaryThreshold => Float
  | minDurationSeconds | mismatchThreshold => UInt32
  | boardCategoryMax => UInt8
  | matchWindow | stalenessWindow | healthCheckInterval | disconnectGrace => Nat

/-- The variable of a setting. -/
def variableName? : Setting → Option String
  | matchWindow => some "HANDFUSE_MATCH_WINDOW_MS"
  | stalenessWindow => some "HANDFUSE_STALENESS_WINDOW_MS"
  | secondaryThreshold => some "HANDFUSE_SECONDARY_THRESHOLD"
  | minDurationSeconds => some "HANDFUSE_MIN_DURATION_SECS"
  | boardCategoryMax => some "HANDFUSE_BOARD_CATEGORY_MAX"
  | mismatchThreshold => some "HANDFUSE_MISMATCH_THRESHOLD"
  | healthCheckInterval | disconnectGrace => none

/-- The name of a setting in the file. -/
def key : Setting → String
  | matchWindow => "match_window_ms"
  | stalenessWindow => "staleness_window_ms"
  | secondaryThreshold => "secondary_confidence_threshold"
  | minDurationSeconds => "min_duration_seconds"
  | boardCategoryMax => "board_category_max"
  | mismatchThreshold => "mismatch_threshold"
  | healthCheckInterval => "health_check_interval_ms"
  | disconnectGrace => "disconnect_grace_ms"

/-- The value of a setting that a text stands for. -/
def read : (i : Setting) → String → Option i.Value
  | secondaryThreshold => Decimal.real?
  | minDurationSeconds | mismatchThreshold => Layers.uint32?
  | boardCategoryMax => Layers.uint8?
  | matchWindow | stalenessWindow | healthCheckInterval | disconnectGrace => Layers.uint64?

/-- The value of a setting that a file gives. -/
def entry (file : FileSettings) : (i : Setting) → Option i.Value
  | matchWindow => file.matchWindow
  | stalenessWindow => file.stalenessWindow
  | secondaryThreshold => file.secondaryThreshold
  | minDurationSeconds => file.minDurationSeconds
  | boardCategoryMax => file.boardCategoryMax
  | mismatchThreshold => file.mismatchThreshold
  | healthCheckInterval => file.healthCheckInterval
  | disconnectGrace => file.disconnectGrace

/-- The usual value of a setting; the windows have none. -/
def usual : (i : Setting) → Option i.Value
  | matchWindow | stalenessWindow => none
  | secondaryThreshold => some 0.8
  | minDurationSeconds => some 120
  | boardCategoryMax => some 7
  | mismatchThreshold => some 3
  | healthCheckInterval => some 5000
  | disconnectGrace => some 600000

/-- The value of a setting. -/
def value (s : Settings) : (i : Setting) → i.Value
  | matchWindow => s.matchWindow
  | stalenessWindow => s.stalenessWindow
  | secondaryThreshold => s.secondaryThreshold
  | minDurationSeconds => s.minDurationSeconds
  | boardCategoryMax => s.boardCategoryMax
  | mismatchThreshold => s.mismatchThreshold
  | healthCheckInterval => s.healthCheckInterval
  | disconnectGrace => s.disconnectGrace

/-- The layer of a setting. -/
def layer (o : Origins) : Setting → Layer
  | matchWindow => o.matchWindow
  | stalenessWindow => o.stalenessWindow
  | secondaryThreshold => o.secondaryThreshold
  | minDurationSeconds => o.minDurationSeconds
  | boardCategoryMax => o.boardCategoryMax
  | mismatchThreshold => o.mismatchThreshold
  | healthCheckInterval => o.healthCheckInterval
  | disconnectGrace => o.disconnectGrace

theorem index_lt (i : Setting) : i.index < 8 := by
  cases i <;> decide

theorem eq_of_index {i j : Setting} (h : i.index = j.index) : i = j := by
  cases i <;> cases j <;> first | rfl | cases h

end Setting

/-! ### What the layers give -/

variable {env env' : Environment} {file : FileSettings} {i j : Setting} {name raw : String}

/-- A variable is set, to a text that is not blank. -/
def Environment.Gives (env : Environment) (name raw : String) : Prop :=
  env name = some raw ∧ ¬ Text.AllBlank raw.toList

theorem Environment.value?_eq_some_iff : env.value? name = some raw ↔ env.Gives name raw := by
  have blank : Text.isAllBlank raw = true ↔ Text.AllBlank raw.toList := List.all_eq_true
  rw [Environment.value?, Environment.Gives, ← blank, Option.filter_eq_some_iff]
  simp

theorem Environment.value?_eq_none_iff : env.value? name = none ↔ ∀ raw, ¬ env.Gives name raw := by
  simp only [Option.eq_none_iff_forall_ne_some, ne_eq, Environment.value?_eq_some_iff]

/-- No variable gives a setting: it has none, or the variable is not set, or it is blank. -/
def Setting.Unset (i : Setting) (env : Environment) : Prop :=
  ∀ name raw, i.variableName? = some name → ¬ env.Gives name raw

/-- How the look-up of a setting comes out. -/
inductive LookUp (env : Environment) (file : FileSettings) (i : Setting) :
    Except SettingsError (i.Value × Layer) → Prop where
  /-- Its variable is set, and can be read. -/
  | environment {name raw : String} {a : i.Value} (has : i.variableName? = some name)
    (gives : env.Gives name raw) (clear : i.read (Text.trimmed raw) = some a) :
    LookUp env file i (.ok (a, .environment))
  /-- Its variable is set, and cannot be read. -/
  | unclear {name raw : String} (has : i.variableName? = some name) (gives : env.Gives name raw)
    (unclear : i.read (Text.trimmed raw) = none) : LookUp env file i (.error (.unclear name raw))
  /-- No variable gives it, but the file does. -/
  | file {a : i.Value} (unset : i.Unset env) (entered : i.entry file = some a) :
    LookUp env file i (.ok (a, .file))
  /-- Neither a variable nor the file gives it, but it has a usual value. -/
  | usual {a : i.Value} (unset : i.Unset env) (absent : i.entry file = none)
    (known : i.usual = some a) : LookUp env file i (.ok (a, .usual))
  /-- Nothing gives it. -/
  | missing (unset : i.Unset env) (absent : i.entry file = none) (unknown : i.usual = none) :
    LookUp env file i (.error (.missing i.key))

/-- How the look-up of a setting comes out depends on its own variable and entry alone. -/
theorem LookUp.congr {file' : FileSettings} {outcome : Except SettingsError (i.Value × Layer)}
    (h : LookUp env file i outcome)
    (given : ∀ name raw, i.variableName? = some name →
      (env.Gives name raw ↔ env'.Gives name raw))
    (entered : i.entry file = i.entry file') : LookUp env' file' i outcome := by
  have still (unset : i.Unset env) : i.Unset env' := fun name raw has gives =>
    unset name raw has ((given name raw has).mpr gives)
  cases h with
  | environment has gives clear => exact .environment has ((given _ _ has).mp gives) clear
  | unclear has gives unclear => exact .unclear has ((given _ _ has).mp gives) unclear
  | file unset entry => exact .file (still unset) (entered ▸ entry)
  | usual unset absent known => exact .usual (still unset) (entered ▸ absent) known
  | missing unset absent unknown => exact .missing (still unset) (entered ▸ absent) unknown

/-- All settings are what is found, with their layers. -/
def FoundSettings.From (env : Environment) (file : FileSettings) (found : FoundSettings) : Prop :=
  ∀ i : Setting, LookUp env file i (.ok (i.value found.settings, i.layer found.origins))

namespace Layers

/-! ### Looking up one setting -/

/-- Looks up a setting in the environment and in the file. -/
def given (env : Environment) (file : FileSettings) (i : Setting) :
    Except SettingsError (Option (i.Value × Layer)) :=
  match i.variableName? with
  | some name => pick env name i.read (i.entry file)
  | none => .ok ((i.entry file).map fun a => (a, .file))

/-- Adds the usual value. -/
def settle (i : Setting) (found : Option (i.Value × Layer)) :
    Except SettingsError (i.Value × Layer) :=
  match i.usual with
  | some a => .ok (orUsual a found)
  | none => required i.key found

/-- Looks up a setting in all layers. -/
def lookUp (env : Environment) (file : FileSettings) (i : Setting) :
    Except SettingsError (i.Value × Layer) :=
  given env file i >>= settle i

theorem given_of_unset (unset : i.Unset env) :
    given env file i = .ok ((i.entry file).map fun a => (a, .file)) := by
  unfold given
  split
  next name has =>
    have nothing := Environment.value?_eq_none_iff.mpr fun raw => unset name raw has
    rw [pick, nothing]
  next => rfl

theorem given_of_gives (has : i.variableName? = some name) (gives : env.Gives name raw) :
    given env file i = match i.read (Text.trimmed raw) with
      | some a => .ok (some (a, .environment))
      | none => .error (.unclear name raw) := by
  unfold given
  rw [has]
  simp only [pick, Environment.value?_eq_some_iff.mpr gives]
  cases i.read (Text.trimmed raw) <;> rfl

theorem settle_some (found : i.Value × Layer) : settle i (some found) = .ok found := by
  unfold settle
  split <;> rfl

theorem settle_none_of_some {a : i.Value} (known : i.usual = some a) :
    settle i none = .ok (a, .usual) := by
  rw [settle, known]
  rfl

theorem settle_none_of_none (unknown : i.usual = none) :
    settle i none = .error (.missing i.key) := by
  rw [settle, unknown]
  rfl

theorem lookUp_eq {outcome : Except SettingsError (i.Value × Layer)}
    (h : LookUp env file i outcome) : lookUp env file i = outcome := by
  unfold lookUp
  cases h with
  | environment has gives clear =>
    rw [given_of_gives has gives, clear]
    exact settle_some _
  | unclear has gives unclear =>
    rw [given_of_gives has gives, unclear]
    rfl
  | file unset entered =>
    rw [given_of_unset unset, entered]
    exact settle_some _
  | usual unset absent known =>
    rw [given_of_unset unset, absent]
    exact settle_none_of_some known
  | missing unset absent unknown =>
    rw [given_of_unset unset, absent]
    exact settle_none_of_none unknown

theorem exists_lookUp (env : Environment) (file : FileSettings) (i : Setting) :
    ∃ outcome, LookUp env file i outcome := by
  by_cases set : ∃ name raw, i.variableName? = some name ∧ env.Gives name raw
  · obtain ⟨name, raw, has, gives⟩ := set
    cases clear : i.read (Text.trimmed raw) with
    | some a => exact ⟨_, .environment has gives clear⟩
    | none => exact ⟨_, .unclear has gives clear⟩
  · have unset : i.Unset env := fun name raw has gives => set ⟨name, raw, has, gives⟩
    cases entered : i.entry file with
    | some a => exact ⟨_, .file unset entered⟩
    | none =>
      cases known : i.usual with
      | some a => exact ⟨_, .usual unset entered known⟩
      | none => exact ⟨_, .missing unset entered known⟩

/-- **A setting is looked up in the environment, then in the file, then among the usual values.** -/
theorem lookUp_eq_iff {outcome : Except SettingsError (i.Value × Layer)} :
    lookUp env file i = outcome ↔ LookUp env file i outcome := by
  refine ⟨?_, lookUp_eq⟩
  rintro rfl
  obtain ⟨outcome, h⟩ := exists_lookUp env file i
  rwa [lookUp_eq h]

/-! ### Looking up all settings -/

/-- All settings are looked up in order. -/
theorem merge_eq (env : Environment) (file : FileSettings) : merge env file = do
    let matchWindow ← lookUp env file .matchWindow
    let stalenessWindow ← lookUp env file .stalenessWindow
    let threshold ← lookUp env file .secondaryThreshold
    let minDuration ← lookUp env file .minDurationSeconds
    let boardCategory ← lookUp env file .boardCategoryMax
    let mismatch ← lookUp env file .mismatchThreshold
    let interval ← lookUp env file .healthCheckInterval
    let grace ← lookUp env file .disconnectGrace
    return {
      settings := ⟨matchWindow.1, stalenessWindow.1, threshold.1, minDuration.1, boardCategory.1,
        mismatch.1, interval.1, grace.1⟩
      origins := ⟨matchWindow.2, stalenessWindow.2, threshold.2, minDuration.2, boardCategory.2,
        mismatch.2, interval.2, grace.2⟩ } := by
  simp only [merge, lookUp, bind_assoc]
  rfl

theorem bind_eq_ok_iff {α β ε : Type} {x : Except ε α} {k : α → Except ε β} {b : β} :
    (x >>= k) = .ok b ↔ ∃ a, x = .ok a ∧ k a = .ok b := by
  cases x <;> simp [bind, Except.bind]

theorem merge_eq_ok_iff {found : FoundSettings} :
    merge env file = .ok found ↔ found.From env file := by
  simp only [FoundSettings.From, ← lookUp_eq_iff]
  rw [merge_eq]
  constructor
  · intro h
    simp only [bind_eq_ok_iff] at h
    obtain ⟨_, _, _, _, _, _, _, _, _, _, _, _, _, _, _, _, h⟩ := h
    cases h
    intro i
    cases i <;> assumption
  · intro all
    rw [all .matchWindow, all .stalenessWindow, all .secondaryThreshold, all .minDurationSeconds,
      all .boardCategoryMax, all .mismatchThreshold, all .healthCheckInterval,
      all .disconnectGrace]
    rfl

/-- The settings before a place are found. -/
def FoundBefore (env : Environment) (file : FileSettings) (n : Nat) : Prop :=
  ∀ i : Setting, i.index < n → ∃ found, lookUp env file i = .ok found

/-- A look-up fails, and none before it does. -/
def FailsFirst (env : Environment) (file : FileSettings) (i : Setting) (e : SettingsError) : Prop :=
  lookUp env file i = .error e ∧ FoundBefore env file i.index

/-- Where something fails that begins with a look-up, it is the look-up or the rest. -/
theorem failsFirst_or {α : Type} {e : SettingsError} (i : Setting)
    {k : i.Value × Layer → Except SettingsError α} (before : FoundBefore env file i.index)
    (h : (lookUp env file i >>= k) = .error e) :
    (∃ i, FailsFirst env file i e) ∨
      ∃ found, k found = .error e ∧ FoundBefore env file (i.index + 1) := by
  cases found : lookUp env file i with
  | error e' =>
    rw [found] at h
    cases h
    exact .inl ⟨i, found, before⟩
  | ok a =>
    rw [found] at h
    refine .inr ⟨a, h, fun j early => ?_⟩
    obtain early | same := Nat.lt_succ_iff_lt_or_eq.mp early
    · exact before j early
    · exact Setting.eq_of_index same ▸ ⟨a, found⟩

/-- Looking up all settings fails for the first one that fails. -/
theorem exists_failsFirst {e : SettingsError} (h : merge env file = .error e) :
    ∃ i, FailsFirst env file i e := by
  rw [merge_eq] at h
  have before : FoundBefore env file 0 := nofun
  refine (failsFirst_or .matchWindow before h).elim id fun ⟨_, h, before⟩ => ?_
  refine (failsFirst_or .stalenessWindow before h).elim id fun ⟨_, h, before⟩ => ?_
  refine (failsFirst_or .secondaryThreshold before h).elim id fun ⟨_, h, before⟩ => ?_
  refine (failsFirst_or .minDurationSeconds before h).elim id fun ⟨_, h, before⟩ => ?_
  refine (failsFirst_or .boardCategoryMax before h).elim id fun ⟨_, h, before⟩ => ?_
  refine (failsFirst_or .mismatchThreshold before h).elim id fun ⟨_, h, before⟩ => ?_
  refine (failsFirst_or .healthCheckInterval before h).elim id fun ⟨_, h, before⟩ => ?_
  refine (failsFirst_or .disconnectGrace before h).elim id fun ⟨_, h, _⟩ => ?_
  cases h

end Layers

/-- Settings are found in one way only. -/
theorem FoundSettings.From.eq {found found' : FoundSettings} (h : found.From env file)
    (h' : found'.From env file) : found = found' :=
  Except.ok.inj ((Layers.merge_eq_ok_iff.mpr h).symm.trans (Layers.merge_eq_ok_iff.mpr h'))

/-! ### What can be in the way -/

/-- What keeps settings from being found. -/
inductive Trouble where
  /-- The file. -/
  | noFile (e : SettingsError)
  /-- A variable that cannot be read. -/
  | unclear (i : Setting) (name raw : String)
  /-- A setting that nothing gives. -/
  | missing (i : Setting)
  /-- A fault of the settings that are found. -/
  | faulty (fault : SettingsFault)

namespace Trouble

/-- Something is in the way, whether or not something else is as well. -/
def Applies (env : Environment) (file : Except SettingsError FileSettings) : Trouble → Prop
  | noFile e => file = .error e
  | unclear i name raw =>
    i.variableName? = some name ∧ env.Gives name raw ∧ i.read (Text.trimmed raw) = none
  | missing i => i.Unset env ∧ i.usual = none ∧ ∃ f, file = .ok f ∧ i.entry f = none
  | faulty fault => ∃ f found, file = .ok f ∧ FoundSettings.From env f found ∧
      fault.Applies found.settings

/-- The place of a trouble: the file first, then the settings one by one, faults last. -/
def place : Trouble → Nat
  | noFile _ => 0
  | unclear i _ _ => 2 * i.index + 1
  | missing i => 2 * i.index + 2
  | faulty fault => 17 + fault.order

/-- The complaint about a trouble. -/
def complaint : Trouble → SettingsError
  | noFile e => e
  | unclear _ name raw => .unclear name raw
  | missing i => .missing i.key
  | faulty fault => .faulty fault

theorem lookUp_of_unclear {source : Except SettingsError FileSettings}
    (h : (unclear i name raw).Applies env source) (file : FileSettings) :
    LookUp env file i (.error (.unclear name raw)) :=
  .unclear h.1 h.2.1 h.2.2

theorem lookUp_of_missing (h : (missing i).Applies env (.ok file)) :
    LookUp env file i (.error (.missing i.key)) := by
  obtain ⟨unset, unknown, _, read, absent⟩ := h
  cases read
  exact .missing unset absent unknown

/-- No two troubles of one place apply. -/
theorem eq_of_applies {source : Except SettingsError FileSettings} (a b : Trouble)
    (ha : a.Applies env source) (hb : b.Applies env source) (same : a.place = b.place) :
    a = b := by
  cases a <;> cases b <;> simp only [place] at same
  case noFile.noFile =>
    cases ha.symm.trans hb
    rfl
  case unclear.unclear i _ _ j _ _ =>
    obtain ⟨has, gives, -⟩ := ha
    obtain ⟨has', gives', -⟩ := hb
    obtain rfl : i = j := Setting.eq_of_index (by omega)
    cases has.symm.trans has'
    cases gives.1.symm.trans gives'.1
    rfl
  case missing.missing =>
    exact congrArg _ (Setting.eq_of_index (by omega))
  case faulty.faulty =>
    obtain ⟨_, found, rfl, origin, applies⟩ := ha
    obtain ⟨_, found', read, origin', applies'⟩ := hb
    cases read
    rw [← origin.eq origin'] at applies'
    exact congrArg _ (SettingsFault.eq_of_applies _ _ applies applies' (Nat.add_left_cancel same))
  -- the settings take the places before 17, of which the odd ones are for unclear variables
  all_goals grind [Setting.index_lt]

theorem eq_unclear_of_place {t : Trouble} (h : t.place = 2 * i.index + 1) :
    ∃ name raw, t = .unclear i name raw := by
  have last := i.index_lt
  cases t <;> simp only [place] at h
  case unclear j name raw =>
    obtain rfl : j = i := Setting.eq_of_index (by omega)
    exact ⟨name, raw, rfl⟩
  all_goals omega

/-- Once the file is read, what is in the way makes a look-up fail, or comes after all of them. -/
theorem lookUp_or_late {t : Trouble} (h : t.Applies env (.ok file)) :
    (∃ i e, LookUp env file i (.error e) ∧ 2 * i.index < t.place) ∨ 17 ≤ t.place := by
  cases t with
  | noFile => cases h
  | unclear i => exact .inl ⟨i, _, lookUp_of_unclear h file, Nat.lt_succ_self _⟩
  | missing i => exact .inl ⟨i, _, lookUp_of_missing h, Nat.lt_add_of_pos_right (by decide)⟩
  | faulty => exact .inr (Nat.le_add_right _ _)

end Trouble

namespace Layers

/-- What keeps the settings from being looked up is the first thing in the way. -/
theorem firstOf_of_failsFirst {e : SettingsError} (h : FailsFirst env file i e) :
    ∃ t, FirstOf (Trouble.Applies env (.ok file)) Trouble.place t ∧ t.complaint = e := by
  obtain ⟨fails, before⟩ := h
  have later {j : Setting} {e : SettingsError} (h : LookUp env file j (.error e)) :
      i.index ≤ j.index := by
    by_contra early
    obtain ⟨_, found⟩ := before j (Nat.not_le.mp early)
    cases found.symm.trans (lookUp_eq h)
  have least (t : Trouble) (applies : t.Applies env (.ok file)) : 2 * i.index + 1 ≤ t.place := by
    obtain ⟨j, e, failed, late⟩ | late := Trouble.lookUp_or_late applies
    · have := later failed
      omega
    · have := i.index_lt
      omega
  cases lookUp_eq_iff.mp fails with
  | unclear has gives bad => exact ⟨.unclear i _ _, ⟨⟨has, gives, bad⟩, least⟩, rfl⟩
  | missing unset absent unknown =>
    refine ⟨.missing i, ⟨⟨unset, unknown, file, rfl, absent⟩, fun t applies => ?_⟩, rfl⟩
    -- only the variable of the setting itself comes in between, and it is not set
    obtain same | late := Nat.eq_or_lt_of_le (least t applies)
    · obtain ⟨name, raw, rfl⟩ := Trouble.eq_unclear_of_place same.symm
      exact absurd applies.2.1 (unset name raw applies.1)
    · exact late

/-- If all settings are found, only a fault can be in the way. -/
theorem exists_fault_of_from {found : FoundSettings} {t : Trouble} (origin : found.From env file)
    (h : t.Applies env (.ok file)) : ∃ fault, t = .faulty fault ∧ fault.Applies found.settings := by
  have fine (i : Setting) {e : SettingsError} (h : LookUp env file i (.error e)) : False := by
    cases (lookUp_eq (origin i)).symm.trans (lookUp_eq h)
  cases t with
  | noFile => cases h
  | unclear i => exact (fine i (Trouble.lookUp_of_unclear h file)).elim
  | missing i => exact (fine i (Trouble.lookUp_of_missing h)).elim
  | faulty fault =>
    obtain ⟨_, found', read, origin', applies⟩ := h
    cases read
    exact ⟨fault, rfl, origin.eq origin' ▸ applies⟩

/-- A fault of the settings that are found is the first thing in the way. -/
theorem firstOf_of_fault {found : FoundSettings} {fault : SettingsFault}
    (origin : found.From env file)
    (first : FirstOf (SettingsFault.Applies found.settings) SettingsFault.order fault) :
    FirstOf (Trouble.Applies env (.ok file)) Trouble.place (.faulty fault) := by
  refine ⟨⟨file, found, rfl, origin, first.applies⟩, fun t applies => ?_⟩
  obtain ⟨other, rfl, fault⟩ := exists_fault_of_from origin applies
  exact Nat.add_le_add_left (first.first other fault) 17

/-! ### Settings that are found -/

/-- Settings are handed on if they are valid. -/
def passed (resolved : FoundSettings) : Except SettingsError FoundSettings :=
  match resolved.settings.validate with
  | .ok () => .ok resolved
  | .error fault => .error (.faulty fault)

theorem findWith_ok (env : Environment) (file : FileSettings) :
    findWith env (.ok file) = merge env file >>= passed :=
  rfl

theorem passed_eq_ok_iff {resolved found : FoundSettings} :
    passed resolved = .ok found ↔ resolved = found ∧ resolved.settings.Valid := by
  rw [← Settings.validate_eq_ok_iff, passed]
  cases resolved.settings.validate <;> simp

theorem exists_of_passed {resolved : FoundSettings} {e : SettingsError}
    (h : passed resolved = .error e) :
    ∃ fault, FirstOf (SettingsFault.Applies resolved.settings) SettingsFault.order fault ∧
      e = .faulty fault := by
  unfold passed at h
  split at h
  · cases h
  next fault refused =>
    cases h
    exact ⟨fault, Settings.firstOf_of_validate refused, rfl⟩

/-- **There are settings if all of them are found and valid.** -/
theorem findWith_eq_ok_iff {source : Except SettingsError FileSettings} {found : FoundSettings} :
    findWith env source = .ok found ↔
      ∃ f, source = .ok f ∧ found.From env f ∧ found.settings.Valid := by
  cases source with
  | error e => exact ⟨nofun, fun ⟨_, read, _⟩ => nomatch read⟩
  | ok file =>
    rw [findWith_ok, bind_eq_ok_iff]
    simp [merge_eq_ok_iff, passed_eq_ok_iff]

/-- What keeps settings from being found is the first thing in the way. -/
theorem exists_firstOf {source : Except SettingsError FileSettings} {e : SettingsError}
    (h : findWith env source = .error e) :
    ∃ t, FirstOf (Trouble.Applies env source) Trouble.place t ∧ t.complaint = e := by
  cases source with
  | error e' =>
    cases h
    exact ⟨.noFile e, ⟨rfl, fun _ _ => Nat.zero_le _⟩, rfl⟩
  | ok file =>
    rw [findWith_ok] at h
    cases merged : merge env file with
    | error e' =>
      rw [merged] at h
      cases h
      obtain ⟨i, fails⟩ := exists_failsFirst merged
      exact firstOf_of_failsFirst fails
    | ok found =>
      rw [merged] at h
      obtain ⟨fault, first, rfl⟩ := exists_of_passed h
      exact ⟨.faulty fault, firstOf_of_fault (merge_eq_ok_iff.mp merged) first, rfl⟩

/-- Nothing is in the way of settings that are found. -/
theorem not_applies_of_findWith {source : Except SettingsError FileSettings}
    {found : FoundSettings} (h : findWith env source = .ok found) (t : Trouble) :
    ¬ t.Applies env source := by
  obtain ⟨file, rfl, origin, valid⟩ := findWith_eq_ok_iff.mp h
  intro applies
  obtain ⟨other, -, fault⟩ := exists_fault_of_from origin applies
  exact Settings.valid_iff.mp valid other fault

/-- **What is in the way first is reported.** -/
theorem findWith_eq_error_iff {source : Except SettingsError FileSettings} {e : SettingsError} :
    findWith env source = .error e ↔
      ∃ t, FirstOf (Trouble.Applies env source) Trouble.place t ∧ t.complaint = e :=
  eq_error_iff_firstOf (fun _ => exists_firstOf) (fun _ => not_applies_of_findWith)
    Trouble.eq_of_applies

/-- There are settings if nothing is in the way. -/
theorem exists_findWith_iff {source : Except SettingsError FileSettings} :
    (∃ found, findWith env source = .ok found) ↔ ∀ t : Trouble, ¬ t.Applies env source := by
  refine ⟨fun ⟨_, h⟩ => not_applies_of_findWith h, fun clear => ?_⟩
  cases outcome : findWith env source with
  | ok found => exact ⟨found, rfl⟩
  | error e =>
    obtain ⟨t, first, -⟩ := exists_firstOf outcome
    exact absurd first.applies (clear t)

/-- **A setting depends on its own variable and entry alone.** -/
theorem eq_of_findWith {source source' : Except SettingsError FileSettings}
    {found found' : FoundSettings} (h : findWith env source = .ok found)
    (h' : findWith env' source' = .ok found')
    (given : ∀ name raw, i.variableName? = some name →
      (env.Gives name raw ↔ env'.Gives name raw))
    (entered : ∀ f f', source = .ok f → source' = .ok f' → i.entry f = i.entry f') :
    i.value found.settings = i.value found'.settings ∧
      i.layer found.origins = i.layer found'.origins := by
  obtain ⟨file, rfl, origin, -⟩ := findWith_eq_ok_iff.mp h
  obtain ⟨file', rfl, origin', -⟩ := findWith_eq_ok_iff.mp h'
  have carried := (origin i).congr given (entered file file' rfl rfl)
  simpa using (lookUp_eq carried).symm.trans (lookUp_eq (origin' i))

/-! ### The file -/

/-- What becomes of the file. -/
inductive FileRead (env : Environment) (contents : String → Except ReadFailure ByteArray) :
    Except SettingsError FileSettings → Prop where
  /-- No file is named. -/
  | unnamed (unset : ∀ raw, ¬ env.Gives "HANDFUSE_CONFIG" raw) : FileRead env contents (.ok .empty)
  /-- The file that is named cannot be read. -/
  | unreadable {path : String} {failure : ReadFailure} (named : env.Gives "HANDFUSE_CONFIG" path)
    (failed : contents path = .error failure) :
    FileRead env contents (.error (.unreadable failure))
  /-- The file that is named is no text. -/
  | notText {path : String} {bytes : ByteArray} (named : env.Gives "HANDFUSE_CONFIG" path)
    (read : contents path = .ok bytes) (garbage : String.fromUTF8? bytes = none) :
    FileRead env contents (.error (.unreadable .notText))
  /-- The text of the file gives no settings. -/
  | malformed {path text : String} {bytes : ByteArray}
    (named : env.Gives "HANDFUSE_CONFIG" path) (read : contents path = .ok bytes)
    (decoded : String.fromUTF8? bytes = some text) (bad : FileSettings.read? text = none) :
    FileRead env contents (.error .malformed)
  /-- The file gives settings. -/
  | settings {path text : String} {bytes : ByteArray} {file : FileSettings}
    (named : env.Gives "HANDFUSE_CONFIG" path) (read : contents path = .ok bytes)
    (decoded : String.fromUTF8? bytes = some text) (good : FileSettings.read? text = some file) :
    FileRead env contents (.ok file)

variable {contents : String → Except ReadFailure ByteArray}

theorem fileRead_fileSettings (env : Environment)
    (contents : String → Except ReadFailure ByteArray) :
    FileRead env contents (fileSettings env contents) := by
  unfold fileSettings
  split
  next unset => exact .unnamed (Environment.value?_eq_none_iff.mp unset)
  next path set =>
    have named := Environment.value?_eq_some_iff.mp set
    split
    next failed => exact .unreadable named failed
    next read =>
      split
      next garbage => exact .notText named read garbage
      next decoded =>
        split
        next good => exact .settings named read decoded good
        next bad => exact .malformed named read decoded bad

/-- The file is what becomes of it. -/
theorem fileSettings_eq_iff {source : Except SettingsError FileSettings} :
    fileSettings env contents = source ↔ FileRead env contents source := by
  refine ⟨fun h => h ▸ fileRead_fileSettings env contents, fun h => ?_⟩
  unfold fileSettings
  cases h with
  | unnamed unset => rw [Environment.value?_eq_none_iff.mpr unset]
  | unreadable named failed => simp only [Environment.value?_eq_some_iff.mpr named, failed]
  | notText named read garbage =>
    simp only [Environment.value?_eq_some_iff.mpr named, read, garbage]
  | malformed named read decoded bad =>
    simp only [Environment.value?_eq_some_iff.mpr named, read, decoded, bad]
  | settings named read decoded good =>
    simp only [Environment.value?_eq_some_iff.mpr named, read, decoded, good]

/-- A variable that is blank counts as one that is not set. -/
theorem find_congr (same : ∀ name raw, env.Gives name raw ↔ env'.Gives name raw) :
    find env contents = find env' contents := by
  have named : env.value? = env'.value? := by
    funext name
    refine Option.ext fun raw => ?_
    rw [Environment.value?_eq_some_iff, Environment.value?_eq_some_iff, same]
  have files : fileSettings env contents = fileSettings env' contents := by
    rw [fileSettings, fileSettings, named]
  have lookUps : lookUp env = lookUp env' := by
    funext file i
    obtain ⟨outcome, h⟩ := exists_lookUp env file i
    rw [lookUp_eq h, lookUp_eq (h.congr (fun name raw _ => same name raw) rfl)]
  have merges : merge env = merge env' := by
    funext file
    rw [merge_eq, merge_eq, lookUps]
  rw [find, find, findWith, findWith, files, merges]

/-- **Settings are found in the environment, in the file and among the usual values.** They are
found if nothing is in the way, and then each is what its own layers say, and all are valid; else
the first thing in the way is reported. Each depends on its own variable and entry alone, and a
blank variable is as good as none. -/
theorem found_in_layers (env : Environment) :
    (∀ source, (∃ found, findWith env source = .ok found) ↔
      ∀ t : Trouble, ¬ t.Applies env source) ∧
    (∀ source found, findWith env source = .ok found ↔
      ∃ f, source = .ok f ∧ found.From env f ∧ found.settings.Valid) ∧
    (∀ source e, findWith env source = .error e ↔
      ∃ t, FirstOf (Trouble.Applies env source) Trouble.place t ∧ t.complaint = e) ∧
    (∀ (i : Setting) env' source source' found found', findWith env source = .ok found →
      findWith env' source' = .ok found' →
      (∀ name raw, i.variableName? = some name → (env.Gives name raw ↔ env'.Gives name raw)) →
      (∀ f f', source = .ok f → source' = .ok f' → i.entry f = i.entry f') →
      i.value found.settings = i.value found'.settings ∧
        i.layer found.origins = i.layer found'.origins) ∧
    ∀ contents, find env contents = findWith env (fileSettings env contents) ∧
      (∀ source, fileSettings env contents = source ↔ FileRead env contents source) ∧
      ∀ env', (∀ name raw, env.Gives name raw ↔ env'.Gives name raw) →
        find env contents = find env' contents :=
  ⟨fun _ => exists_findWith_iff, fun _ _ => findWith_eq_ok_iff, fun _ _ => findWith_eq_error_iff,
    fun _ _ _ _ _ _ => eq_of_findWith,
    fun _ => ⟨rfl, fun _ => fileSettings_eq_iff, fun _ => find_congr⟩⟩

/-- An environment that gives the windows. -/
def windowsGiven : Environment
  | "HANDFUSE_MATCH_WINDOW_MS" => some " 3000 "
  | "HANDFUSE_STALENESS_WINDOW_MS" => some "30000"
  | _ => none

/-- The same with a blank threshold. -/
def blankGiven (name : String) : Option String :=
  if name = "HANDFUSE_SECONDARY_THRESHOLD" then some "  " else windowsGiven name

/-- What is found there. -/
def windowsFound : FoundSettings where
  settings := .usual 3000 30000
  origins := ⟨.environment, .environment, .usual, .usual, .usual, .usual, .usual, .usual⟩

theorem found_in_layers_windowsGiven :
    findWith windowsGiven (.ok .empty) = .ok windowsFound ∧
    (Setting.matchWindow.value windowsFound.settings = Setting.matchWindow.value
        { windowsFound.settings with disconnectGrace := 1000 } ∧
      Setting.matchWindow.layer windowsFound.origins = Setting.matchWindow.layer
        { windowsFound.origins with disconnectGrace := .file }) ∧
    find windowsGiven (fun _ => .error .notFound) = find blankGiven (fun _ => .error .notFound) := by
  obtain ⟨-, -, -, alone, read⟩ := found_in_layers windowsGiven
  refine ⟨rfl, alone .matchWindow blankGiven (.ok .empty)
    (.ok { FileSettings.empty with disconnectGrace := some 1000 }) windowsFound
    ⟨{ windowsFound.settings with disconnectGrace := 1000 },
      { windowsFound.origins with disconnectGrace := .file }⟩ rfl rfl ?_ ?_,
    (read _).2.2 blankGiven fun name raw => ?_⟩
  · rintro _ raw ⟨⟩
    exact Iff.rfl
  · rintro _ _ ⟨⟩ ⟨⟩
    rfl
  · unfold Environment.Gives blankGiven
    split
    next same =>
      subst same
      constructor
      · rintro ⟨⟨⟩, -⟩
      · rintro ⟨⟨⟩, visible⟩
        exact absurd (by decide) visible
    next => rfl

end Layers

end Showdown
