import Showdown.Proofs.Health.Calls
import Mathlib.Data.List.Infix

/-!
# What the monitor recalls

What the monitor knows of a table can be read off the record of the table, without going through it
sign by sign (`Sign.recalled?`). The table was registered when it was first heard of, and each
source was last seen when it last delivered. A source is stale if a sweep was made after that and
the latest one found it silent for a window. Both sources have been stale since the first sweep of
the longest final run of sweeps that all found them so.

This is what the monitor knows whatever the times of the calls are, also if they go backwards
(`knows_what_is_recalled`). Only if they do can a sweep find a stale source fresh again.
-/

namespace Showdown

namespace Sign

variable (window : Nat) (source : Source) (record : List Sign)

/-! ### What there is to be recalled -/

/-- When the table was first heard of. -/
def registered? : Option Nat :=
  (record.filterMap seen?).head?

/-- When a source last delivered. -/
def lastSeen? : Option Nat :=
  (record.filterMap (seenFrom? source)).getLast?

/-- When the latest sweep was made. -/
def lastSwept? : Option Nat :=
  (record.filterMap swept?).getLast?

/-- What came after the last arrival from a source. If there was none, this is all. -/
def sinceSeen : List Sign :=
  record.rtakeWhile fun sign => (sign.seenFrom? source).isNone

/-- A sweep came after the last arrival from the source, and the latest one came at least a window
later. A source that never delivered counts as seen when the table was first heard of. -/
def isStale : Bool :=
  (lastSwept? (sinceSeen source record)).any fun time =>
    ((lastSeen? source record).or (registered? record)).any fun seen => window ≤ time - seen

/-- The record ends with a sweep that found both sources stale. -/
def endsSilent : Bool :=
  (record.getLast?.bind swept?).isSome && isStale window .primary record &&
    isStale window .secondary record

/-- The longest final run of sweeps that all found both sources stale. Each sweep stands there with
all that came before it. -/
def silence : List (List Sign) :=
  record.inits.rtakeWhile (endsSilent window)

/-- The time of the first sweep of the final silence. -/
def silentSince? : Option Nat :=
  (silence window record).head?.bind lastSwept?

/-- What is recalled of a source. -/
def recalledFeed : Feed :=
  ⟨if isStale window source record then .stale else .fresh, lastSeen? source record⟩

/-- What is recalled of a table. -/
def recalled? : Option Channel :=
  (registered? record).map fun registeredAt =>
    { primary := recalledFeed window .primary record
      secondary := recalledFeed window .secondary record
      registeredAt := registeredAt
      disconnectedSince := silentSince? window record }

/-! ### One more sign -/

variable {window source record} {now : Nat}

theorem registered?_concat (record : List Sign) (sign : Sign) :
    registered? (record ++ [sign]) = (registered? record).or sign.seen? := by
  cases sign <;> simp [registered?, List.filterMap_append, seen?, List.head?_append]

theorem lastSeen?_seen (other : Source) :
    lastSeen? source (record ++ [.seen other now]) =
      if other = source then some now else lastSeen? source record := by
  by_cases own : other = source <;> simp [lastSeen?, seenFrom?, own]

theorem lastSeen?_swept :
    lastSeen? source (record ++ [.swept now]) = lastSeen? source record := by
  simp [lastSeen?, seenFrom?]

theorem lastSwept?_seen (other : Source) :
    lastSwept? (record ++ [.seen other now]) = lastSwept? record := by
  simp [lastSwept?, swept?]

theorem lastSwept?_swept : lastSwept? (record ++ [.swept now]) = some now := by
  simp [lastSwept?, swept?]

theorem sinceSeen_own : sinceSeen source (record ++ [.seen source now]) = [] :=
  List.rtakeWhile_concat_neg _ _ _ (by simp [seenFrom?])

theorem sinceSeen_of_ne {sign : Sign} (h : sign.seenFrom? source = none) :
    sinceSeen source (record ++ [sign]) = sinceSeen source record ++ [sign] :=
  List.rtakeWhile_concat_pos _ _ _ (by simp [h])

/-- A source that delivers is not stale. -/
theorem isStale_own : isStale window source (record ++ [.seen source now]) = false := by
  simp [isStale, sinceSeen_own, lastSwept?]

/-- An arrival from the other source does not matter, unless it is the first. -/
theorem isStale_other (known : (registered? record).isSome) {other : Source} (h : other ≠ source) :
    isStale window source (record ++ [.seen other now]) = isStale window source record := by
  obtain ⟨registeredAt, known⟩ := Option.isSome_iff_exists.mp known
  have after : sinceSeen source (record ++ [.seen other now]) =
      sinceSeen source record ++ [.seen other now] := sinceSeen_of_ne (if_neg h)
  simp only [isStale, after, lastSwept?_seen, lastSeen?_seen, if_neg h, registered?_concat, known,
    Option.some_or]

theorem isStale_swept :
    isStale window source (record ++ [.swept now]) =
      ((lastSeen? source record).or (registered? record)).any fun seen => window ≤ now - seen := by
  have after : sinceSeen source (record ++ [.swept now]) =
      sinceSeen source record ++ [.swept now] := sinceSeen_of_ne rfl
  simp [isStale, after, lastSwept?_swept, lastSeen?_swept, registered?_concat, seen?]

theorem silence_concat (sign : Sign) :
    silence window (record ++ [sign]) =
      if endsSilent window (record ++ [sign]) then
        silence window record ++ [record ++ [sign]]
      else [] := by
  have inits : (record ++ [sign]).inits = record.inits ++ [record ++ [sign]] := by
    simp [List.inits_append]
  rw [silence, inits, List.rtakeWhile_concat]
  rfl

/-- A record that ends with a sweep has a latest sweep. -/
theorem lastSwept?_of_endsSilent (h : endsSilent window record) :
    ∃ time, lastSwept? record = some time := by
  cases record using List.reverseRecOn with
  | nil => simp [endsSilent] at h
  | append_singleton record last =>
    cases last with
    | seen => simp [endsSilent, swept?] at h
    | swept time => exact ⟨time, lastSwept?_swept⟩

/-- A silence is over with the next arrival. -/
theorem silentSince?_seen (other : Source) :
    silentSince? window (record ++ [.seen other now]) = none := by
  simp [silentSince?, silence_concat, endsSilent, swept?]

/-- A sweep that finds both sources stale belongs to the silence that there was before, and is the
first of a new one if there was none. -/
theorem silentSince?_swept :
    silentSince? window (record ++ [.swept now]) =
      if isStale window .primary (record ++ [.swept now]) ∧
          isStale window .secondary (record ++ [.swept now]) then
        some ((silentSince? window record).getD now)
      else none := by
  have ends : endsSilent window (record ++ [.swept now]) =
      (isStale window .primary (record ++ [.swept now]) &&
        isStale window .secondary (record ++ [.swept now])) := by
    simp [endsSilent, swept?]
  rw [silentSince?, silence_concat, ends]
  simp only [Bool.and_eq_true]
  split
  · cases h : silence window record with
    | nil => simp [silentSince?, h, lastSwept?_swept]
    | cons first later =>
      have silent : endsSilent window first :=
        List.mem_rtakeWhile_imp (h ▸ List.mem_cons_self : first ∈ silence window record)
      obtain ⟨time, swept⟩ := lastSwept?_of_endsSilent silent
      simp [silentSince?, h, swept]
  · rfl

/-! ### What is recalled is what is known -/

theorem Begins.of_concat {last : Sign} (h : Begins (record ++ [last])) : Begins record := by
  cases record with
  | nil => simp [Begins]
  | cons first later => exact h

theorem Begins.registered (h : Begins record) : record = [] ∨ (registered? record).isSome := by
  cases record with
  | nil => exact .inl rfl
  | cons first later =>
    cases first with
    | seen source now => exact .inr (by simp [registered?, seen?])
    | swept now => simp [Begins, seen?] at h

theorem recalledFeed_own :
    recalledFeed window source (record ++ [.seen source now]) = .seenAt now := by
  simp [recalledFeed, isStale_own, lastSeen?_seen, Feed.seenAt]

theorem recalledFeed_other (known : (registered? record).isSome) {other : Source}
    (h : other ≠ source) :
    recalledFeed window source (record ++ [.seen other now]) =
      recalledFeed window source record := by
  simp [recalledFeed, isStale_other known h, lastSeen?_seen, h]

theorem recalledFeed_swept {registeredAt : Nat} (known : registered? record = some registeredAt) :
    recalledFeed window source (record ++ [.swept now]) =
      (recalledFeed window source record).reassess window registeredAt now := by
  have origin : (lastSeen? source record).or (registered? record) =
      some ((lastSeen? source record).getD registeredAt) := by
    rw [known]
    cases lastSeen? source record <;> rfl
  by_cases late : window ≤ now - (lastSeen? source record).getD registeredAt <;>
    simp [recalledFeed, Feed.reassess, isStale_swept, lastSeen?_swept, origin, late]

/-- An arrival is recalled as it is noted. -/
theorem recalled?_seen (begins : record = [] ∨ (registered? record).isSome) (source : Source) :
    recalled? window (record ++ [.seen source now]) =
      Channel.take window (recalled? window record) (.seen source now) := by
  rcases begins with rfl | known
  · cases source <;> rfl
  · obtain ⟨registeredAt, h⟩ := Option.isSome_iff_exists.mp known
    cases source <;>
      simp [recalled?, Channel.take, Channel.observe, registered?_concat, h, recalledFeed_own,
        recalledFeed_other known, silentSince?_seen]

/-- A sweep is recalled as it is made. -/
theorem recalled?_swept :
    recalled? window (record ++ [.swept now]) =
      Channel.take window (recalled? window record) (.swept now) := by
  cases known : registered? record with
  | none => simp [recalled?, Channel.take, registered?_concat, known, seen?]
  | some registeredAt =>
    have liveness (source : Source) :
        ((recalledFeed window source record).reassess window registeredAt now).liveness = .stale ↔
          isStale window source (record ++ [.swept now]) := by
      rw [← recalledFeed_swept known]
      simp [recalledFeed]
    simp [recalled?, Channel.take, Channel.reassess, registered?_concat, known,
      recalledFeed_swept known, silentSince?_swept, Status.ofLiveness_eq_disconnected, liveness]

/-- There is a final silence if and only if both sources are stale. -/
theorem isSome_silentSince? :
    (silentSince? window record).isSome ↔ ∀ source, isStale window source record := by
  cases record using List.reverseRecOn with
  | nil =>
    have never : silentSince? window [] = none := by
      simp [silentSince?, silence, List.rtakeWhile, endsSilent]
    refine iff_of_false (by simp [never]) fun stale => ?_
    simpa [isStale, sinceSeen, lastSwept?] using stale .primary
  | append_singleton record last =>
    cases last with
    | seen source now =>
      refine iff_of_false (by simp [silentSince?_seen]) fun stale => ?_
      simpa [isStale_own] using stale source
    | swept now =>
      rw [silentSince?_swept]
      constructor
      · intro silent source
        split at silent
        · rename_i both
          cases source <;> simp [both]
        · cases silent
      · intro stale
        simp [stale]

theorem mem_of_lastSwept? {time : Nat} (h : lastSwept? record = some time) :
    .swept time ∈ record := by
  obtain ⟨sign, mem, swept⟩ := List.mem_filterMap.mp (List.mem_of_getLast? h)
  cases sign with
  | seen => cases swept
  | swept now => exact Option.some.inj swept ▸ mem

/-- A stale source is stale for another sweep too, unless it is made for an earlier time. -/
theorem isStale_later (stale : isStale window source record)
    (later : ∀ time, .swept time ∈ record → time ≤ now) :
    isStale window source (record ++ [.swept now]) := by
  rw [isStale_swept]
  cases swept : lastSwept? (sinceSeen source record) with
  | none => simp [isStale, swept] at stale
  | some time =>
    have made : .swept time ∈ record :=
      (List.rtakeWhile_suffix _ _).mem (mem_of_lastSwept? swept)
    cases origin : (lastSeen? source record).or (registered? record) with
    | none => simp [isStale, swept, origin] at stale
    | some seen =>
      have late : window ≤ time - seen := by simpa [isStale, swept, origin] using stale
      have inOrder := later time made
      simp only [Option.any_some, decide_eq_true_eq]
      omega

/-! ### What is recalled of a table -/

section Recalled

variable {c : Channel} (recalled : recalled? window record = some c)

include recalled

theorem liveness_recalled? : c.liveness source = .stale ↔ isStale window source record := by
  obtain ⟨_, _, rfl⟩ := Option.map_eq_some_iff.mp recalled
  cases source <;> simp [Channel.liveness, recalledFeed]

theorem isSome_disconnectedSince :
    c.disconnectedSince.isSome ↔ ∀ source, c.liveness source = .stale := by
  simp only [liveness_recalled? recalled, ← isSome_silentSince?]
  obtain ⟨_, _, rfl⟩ := Option.map_eq_some_iff.mp recalled
  rfl

end Recalled

/-- What the signs of a record come to, one after another, is what is recalled of it. -/
theorem foldl_take (window : Nat) {record : List Sign} (begins : Begins record) :
    record.foldl (Channel.take window) none = recalled? window record := by
  induction record using List.reverseRecOn with
  | nil => rfl
  | append_singleton record last ih =>
    rw [List.foldl_concat, ih begins.of_concat]
    cases last with
    | seen source now => exact (recalled?_seen begins.of_concat.registered source).symm
    | swept now => exact recalled?_swept.symm

end Sign

namespace Monitor

open Sign

variable {window : Nat} {calls : List Call} {tableId : TableId}

/-- A sweep on a record was made. -/
theorem mem_of_mem_record {now : Nat} (h : .swept now ∈ record tableId calls) :
    Call.sweep now ∈ calls := by
  obtain ⟨call, mem, learned⟩ := List.mem_filterMap.mp ((List.dropWhile_suffix _).mem h)
  obtain rfl : call = .sweep now := by
    cases call <;> simp_all [Call.sign?]
  exact (List.rtakeWhile_suffix _ _).mem mem

/-- What the monitor knows of a table is what is recalled of its record. -/
theorem channel?_eq_recalled? (window : Nat) (calls : List Call) (tableId : TableId) :
    (run calls (start window)).state.channel? tableId =
      recalled? window (record tableId calls) := by
  rw [channel?_run, foldl_take window (begins_record calls)]

/-- A sweep leaves a stale source stale if no call was made for a later time than the sweep. -/
theorem stale_of_sweep {now : Nat} {c : Channel} {source : Source}
    (inOrder : ((calls ++ [Call.sweep now]).filterMap Call.time?).Pairwise (· ≤ ·))
    (known : (run calls (start window)).state.channel? tableId = some c)
    (stale : c.liveness source = .stale) :
    ∃ c', (run (calls ++ [Call.sweep now]) (start window)).state.channel? tableId = some c' ∧
      c'.liveness source = .stale := by
  rw [channel?_eq_recalled?] at known ⊢
  have registered : record tableId calls ≠ [] := by
    intro empty
    simp [empty, recalled?, registered?] at known
  have still : isStale window source (record tableId calls ++ [.swept now]) := by
    refine isStale_later ((liveness_recalled? known).mp stale) fun time swept => ?_
    rw [List.filterMap_append] at inOrder
    exact (List.pairwise_append.mp inOrder).2.2 time
      (List.mem_filterMap.mpr ⟨_, mem_of_mem_record swept, rfl⟩) now (by simp [Call.time?])
  have next : record tableId (calls ++ [Call.sweep now]) =
      record tableId calls ++ [.swept now] := by
    rw [record_sweep, if_neg (by simpa using registered)]
  have found : recalled? window (record tableId calls ++ [.swept now]) =
      some (c.reassess window now) := by
    rw [recalled?_swept, known]
    rfl
  exact ⟨_, next ▸ found, (liveness_recalled? found).mpr still⟩

/-- **What the monitor knows of a table is a function of the calls for it since it was last
forgotten**, whatever their times. It is noted since when the table has been disconnected if and
only if both sources are stale. If no call is made for a time before that of an earlier one, then a
sweep leaves a stale source stale. -/
theorem knows_what_is_recalled (window : Nat) (calls : List Call) (tableId : TableId) :
    (run calls (start window)).state.channel? tableId = recalled? window (record tableId calls) ∧
      (∀ c, (run calls (start window)).state.channel? tableId = some c →
        (c.disconnectedSince.isSome ↔ ∀ source, c.liveness source = .stale)) ∧
      ∀ now, ((calls ++ [Call.sweep now]).filterMap Call.time?).Pairwise (· ≤ ·) →
        ∀ c source, (run calls (start window)).state.channel? tableId = some c →
          c.liveness source = .stale →
          ∃ c', (run (calls ++ [Call.sweep now]) (start window)).state.channel? tableId = some c' ∧
            c'.liveness source = .stale :=
  ⟨channel?_eq_recalled? window calls tableId,
    fun _ known => isSome_disconnectedSince (channel?_eq_recalled? window calls tableId ▸ known),
    fun _ inOrder _ _ known stale => stale_of_sweep inOrder known stale⟩

/-- Two sweeps at times in order: the second one finds the silent source stale again. -/
theorem knows_what_is_recalled_of_silence :
    let calls : List Call := [.observe "t" .primary 0, .sweep 5]
    (∀ source, ((run calls (start 3)).state.channel? "t").map (fun c => c.liveness source) =
      some .stale) ∧
    ∃ c', (run (calls ++ [Call.sweep 9]) (start 3)).state.channel? "t" = some c' ∧
      c'.liveness .primary = .stale := by
  intro calls
  obtain ⟨recalled, _, later⟩ := knows_what_is_recalled 3 calls "t"
  have known : (run calls (start 3)).state.channel? "t" =
      some ⟨⟨.stale, some 0⟩, ⟨.stale, none⟩, 0, some 5⟩ := by
    rw [recalled]
    decide
  refine ⟨fun source => ?_, later 9 (by decide) _ .primary known rfl⟩
  rw [known]
  cases source <;> rfl

end Monitor

end Showdown
