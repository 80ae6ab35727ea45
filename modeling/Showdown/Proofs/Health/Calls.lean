import Showdown.Proofs.Chain
import Showdown.Proofs.Monitor
import Mathlib.Data.List.DropRight
import Mathlib.Data.List.Induction

/-!
# Calls of the monitor

A run of the monitor is a list of calls, made one after another at any times. Of all of them one
table is only concerned by few: the arrivals for it and the sweeps since it was last forgotten, and
of the sweeps only those that came after the first arrival. These are the record of the table, and
what the monitor knows of a table is what the signs of its record come to, one after another
(`channel?_run`).
-/

namespace Showdown

/-- What one table learns of a call. -/
inductive Sign where
  /-- A source of the table delivers. -/
  | seen (source : Source) (now : Nat)
  /-- The liveness of both sources is found out again. -/
  | swept (now : Nat)
  deriving DecidableEq

namespace Sign

/-- The time of an arrival. -/
def seen? : Sign → Option Nat
  | seen _ now => some now
  | swept _ => none

/-- The time of an arrival from a source. -/
def seenFrom? (source : Source) : Sign → Option Nat
  | seen other now => if other = source then some now else none
  | swept _ => none

/-- The time of a sweep. -/
def swept? : Sign → Option Nat
  | seen .. => none
  | swept now => some now

/-- A list of signs begins with an arrival, unless it is empty. -/
def Begins (signs : List Sign) : Prop :=
  ∀ sign ∈ signs.head?, sign.seen?.isSome

end Sign

/-- What a sign makes of what is known of a table, if anything is known of it. -/
def Channel.take (window : Nat) (known : Option Channel) : Sign → Option Channel
  | .seen source now => some ((known.getD (.firstHeard now)).observe source now)
  | .swept now => known.map fun c => c.reassess window now

namespace Monitor

/-- A call of the monitor. -/
inductive Call where
  /-- A source of a table delivers. -/
  | observe (tableId : TableId) (source : Source) (now : Nat)
  /-- The liveness of all sources is found out again. -/
  | sweep (now : Nat)
  /-- A table is forgotten. -/
  | forget (tableId : TableId)
  deriving DecidableEq

/-- The time of a call, if it has one. -/
def Call.time? : Call → Option Nat
  | observe _ _ now => some now
  | sweep now => some now
  | forget _ => none

/-- What a table learns of a call. -/
def Call.sign? (tableId : TableId) : Call → Option Sign
  | observe observed source now => if observed = tableId then some (.seen source now) else none
  | sweep now => some (.swept now)
  | forget _ => none

/-- A call is made. It puts out the changes that it reports. -/
def act : Call → Monitor → Emission Monitor StatusChange
  | .observe tableId source now, m =>
    ⟨(m.observe tableId source now).1, (m.observe tableId source now).2.toList⟩
  | .sweep now, m => ⟨(m.sweep now).1, (m.sweep now).2⟩
  | .forget tableId, m => .quiet (m.forget tableId)

/-- Calls are made one after another. -/
def run : List Call → Monitor → Emission Monitor StatusChange :=
  Emission.forEach act

/-- The calls for a table since it was last forgotten, from the first arrival on. -/
def record (tableId : TableId) (calls : List Call) : List Sign :=
  ((calls.rtakeWhile fun call => call ≠ .forget tableId).filterMap (Call.sign? tableId)).dropWhile
    fun sign => sign.seen?.isNone

/-! ### The record after one more call -/

section Record

variable {tableId : TableId} (calls : List Call)

theorem record_forget : record tableId (calls ++ [.forget tableId]) = [] := by
  simp [record]

theorem record_of_ne {call : Call} (h : call ≠ .forget tableId) :
    record tableId (calls ++ [call]) =
      if (record tableId calls).isEmpty then
        (call.sign? tableId).toList.dropWhile fun sign => sign.seen?.isNone
      else record tableId calls ++ (call.sign? tableId).toList := by
  have last : [call].filterMap (Call.sign? tableId) = (call.sign? tableId).toList := by
    cases h : call.sign? tableId <;> simp [h]
  rw [record, List.rtakeWhile_concat_pos _ _ _ (by simpa using h), List.filterMap_append, last,
    List.dropWhile_append]
  rfl

theorem record_observe (source : Source) (now : Nat) :
    record tableId (calls ++ [.observe tableId source now]) =
      record tableId calls ++ [.seen source now] := by
  rw [record_of_ne calls (by simp)]
  cases h : record tableId calls <;> simp [Call.sign?, Sign.seen?]

theorem record_sweep (now : Nat) :
    record tableId (calls ++ [.sweep now]) =
      if (record tableId calls).isEmpty then [] else record tableId calls ++ [.swept now] := by
  rw [record_of_ne calls (by simp)]
  simp [Call.sign?, Sign.seen?]

/-- A call for another table leaves no trace. -/
theorem record_of_other {call : Call} (h : call ≠ .forget tableId)
    (other : call.sign? tableId = none) :
    record tableId (calls ++ [call]) = record tableId calls := by
  rw [record_of_ne calls h, other]
  cases record tableId calls <;> simp

/-- A record begins with an arrival, unless it is empty. -/
theorem begins_record : Sign.Begins (record tableId calls) := by
  intro sign head
  have begins := List.head?_dropWhile_not (fun sign : Sign => sign.seen?.isNone)
    ((calls.rtakeWhile fun call => call ≠ .forget tableId).filterMap (Call.sign? tableId))
  rw [record] at head
  rw [Option.mem_def.mp head] at begins
  simpa using begins

end Record

/-! ### Runs -/

theorem run_concat (calls : List Call) (call : Call) (m : Monitor) :
    run (calls ++ [call]) m = (run calls m).andThen (act call) := by
  rw [run, Emission.forEach_append]
  simp [Emission.forEach, Emission.andThen, Emission.quiet]

@[simp] theorem window_act (call : Call) (m : Monitor) : (act call m).state.window = m.window := by
  cases call <;> rfl

@[simp] theorem window_run (calls : List Call) (m : Monitor) :
    (run calls m).state.window = m.window := by
  induction calls using List.reverseRecOn with
  | nil => rfl
  | append_singleton calls call ih => rw [run_concat, Emission.state_andThen, window_act, ih]

/-- A call that a table learns nothing of changes nothing that is known of it. -/
theorem channel?_act_of_other {tableId : TableId} {call : Call} (h : call ≠ .forget tableId)
    (other : call.sign? tableId = none) (m : Monitor) :
    (act call m).state.channel? tableId = m.channel? tableId := by
  cases call with
  | observe observed source now =>
    refine channel?_observe_of_ne m (fun own => ?_) source now
    simp [Call.sign?, own] at other
  | sweep now => cases other
  | forget forgotten =>
    refine channel?_forget_of_ne m fun own => h ?_
    rw [own]

/-- **What the monitor knows of a table is what the signs of its record come to.** -/
theorem channel?_run (window : Nat) (calls : List Call) (tableId : TableId) :
    (run calls (start window)).state.channel? tableId =
      (record tableId calls).foldl (Channel.take window) none := by
  induction calls using List.reverseRecOn with
  | nil => simp [run, start, channel?, record]
  | append_singleton calls call ih =>
    rw [run_concat, Emission.state_andThen]
    by_cases forgotten : call = .forget tableId
    · rw [forgotten, record_forget]
      exact channel?_forget _ tableId
    cases learned : call.sign? tableId with
    | none =>
      rw [channel?_act_of_other forgotten learned, record_of_other calls forgotten learned, ih]
    | some sign =>
      cases call with
      | observe observed source now =>
        obtain ⟨rfl, rfl⟩ : observed = tableId ∧ Sign.seen source now = sign := by
          simpa [Call.sign?] using learned
        rw [record_observe, List.foldl_concat, ← ih]
        exact channel?_observe _ _ source now
      | sweep now =>
        rw [record_sweep]
        change ((run calls (start window)).state.sweep now).1.channel? tableId = _
        rw [channel?_sweep, ih, window_run]
        cases h : record tableId calls with
        | nil => rfl
        | cons first later => simp [start, Channel.take]
      | forget other => cases learned

end Monitor

end Showdown
