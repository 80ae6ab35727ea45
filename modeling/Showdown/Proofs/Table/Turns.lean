import Showdown.Proofs.Table.Liveness
import Showdown.Proofs.Table.Memory

/-!
# The turns of a table

A table that runs takes one turn after another. In each it handles a message, and if the messages
come to an end without one that shuts it down, then it takes one more turn, deserted, in which it
gives up the hands that still wait. `run_eq` says that a run is just that.

What a turn can be to a hand is said here too: an observation of it, news of the sources, a timer
that runs out, or the end.
-/

namespace Showdown.Table

/-- What a table does at one time. -/
inductive Turn where
  /-- It handles a message. -/
  | message (m : Message)
  /-- Nobody can send messages any more, so it gives up the hands that wait. -/
  | deserted

/-- A table takes a turn. -/
def take : Turn → Table → Emission Table Output
  | .message m => handle m
  | .deserted => giveUpAll

theorem moves_take (u : Turn) (t : Table) : Moves t (take u t) := by
  cases u with
  | deserted => exact moves_giveUpAll t
  | message m => exact moves_handle m t

/-- The turns for some messages. -/
def turns : List Message → List Turn
  | [] => [.deserted]
  | .shutdown :: _ => [.message .shutdown]
  | m :: ms => .message m :: turns ms

/-- **A run is a sequence of turns.** -/
theorem run_eq (ms : List Message) (t : Table) : t.run ms = Emission.forEach take (turns ms) t := by
  induction ms generalizing t with
  | nil => simp [run, turns, take, Emission.andThen]
  | cons m ms ih =>
    cases m with
    | shutdown => simp [run, turns, take, Emission.andThen]
    | primary | secondary | health | expired | snapshot =>
      simp only [run, turns, Emission.forEach_cons, take, funext ih]

/-! ### What a turn is to a hand -/

namespace Turn

/-- The card readings of a hand that arrive. -/
def primary? (hand : HandNumber) : Turn → Option RankedHand
  | message (.primary r) => if r.handNumber = hand then some r else none
  | _ => none

/-- The video observation of a hand that arrives. -/
def secondary? (hand : HandNumber) : Turn → Option Sighting
  | message (.secondary r) => if r.handNumber = hand then some r else none
  | _ => none

/-- The source of the observation of a hand that arrives. -/
def source? (hand : HandNumber) : Turn → Option Source
  | message (.primary r) => if r.handNumber = hand then some .primary else none
  | message (.secondary r) => if r.handNumber = hand then some .secondary else none
  | _ => none

/-- What is said of a source. -/
def tells? (source : Source) : Turn → Option Liveness
  | message (.health p s) => some (Table.told p s source)
  | _ => none

/-- The opening of a hand whose timer runs out. -/
def expires? (hand : HandNumber) : Turn → Option Nat
  | message (.expired expired generation) => if expired = hand then some generation else none
  | _ => none

/-- The last turn: the table is shut down, or deserted. -/
def ends : Turn → Bool
  | message .shutdown | deserted => true
  | _ => false

/-- The way in which a hand is resolved, if it is. It may have waited before. -/
def resolution? (waits : Bool) : Turn → Option Resolution
  | message (.primary _) | message (.secondary _) =>
    some (if waits then .matched else .sourceStale)
  | message (.health ..) => some .sourceStale
  | message (.expired ..) => some .windowExpired
  | message .snapshot => none
  | message .shutdown | deserted => some .shutdown

section Resolutions

variable {hand : HandNumber} {u : Turn}

theorem resolution?_of_observed {source : Source} (h : u.source? hand = some source)
    (waits : Bool) : u.resolution? waits = some (if waits then .matched else .sourceStale) := by
  cases u with
  | deserted => cases h
  | message m => cases m <;> first | rfl | cases h

theorem resolution?_of_runsOut {generation : Nat} (h : u.expires? hand = some generation)
    (waits : Bool) : u.resolution? waits = some .windowExpired := by
  cases u with
  | deserted => cases h
  | message m => cases m <;> first | rfl | cases h

theorem resolution?_of_told {source : Source} {liveness : Liveness}
    (h : u.tells? source = some liveness) (waits : Bool) :
    u.resolution? waits = some .sourceStale := by
  cases u with
  | deserted => cases h
  | message m => cases m <;> first | rfl | cases h

theorem resolution?_of_ends (h : u.ends = true) (waits : Bool) :
    u.resolution? waits = some .shutdown := by
  cases u with
  | deserted => rfl
  | message m => cases m <;> first | rfl | cases h

theorem source?_of_runsOut {generation : Nat} (h : u.expires? hand = some generation)
    (other : HandNumber) : u.source? other = none := by
  cases u with
  | deserted => rfl
  | message m => cases m <;> first | rfl | cases h

theorem source?_of_told {source : Source} {liveness : Liveness}
    (h : u.tells? source = some liveness) (hand : HandNumber) : u.source? hand = none := by
  cases u with
  | deserted => rfl
  | message m => cases m <;> first | rfl | cases h

theorem source?_of_ends (h : u.ends = true) (hand : HandNumber) : u.source? hand = none := by
  cases u with
  | deserted => rfl
  | message m => cases m <;> first | rfl | cases h

theorem ends_of_observed {source : Source} (h : u.source? hand = some source) :
    u.ends = false := by
  cases u with
  | deserted => cases h
  | message m => cases m <;> first | rfl | cases h

theorem tells?_of_ends (h : u.ends = true) (source : Source) : u.tells? source = none := by
  cases u with
  | deserted => rfl
  | message m => cases m <;> first | rfl | cases h

end Resolutions

theorem source?_eq_primary_iff (u : Turn) (hand : HandNumber) :
    u.source? hand = some .primary ↔ (u.primary? hand).isSome := by
  cases u with
  | deserted => simp [source?, primary?]
  | message m => cases m <;> simp [source?, primary?]

theorem source?_eq_secondary_iff (u : Turn) (hand : HandNumber) :
    u.source? hand = some .secondary ↔ (u.secondary? hand).isSome := by
  cases u with
  | deserted => simp [source?, secondary?]
  | message m => cases m <;> simp [source?, secondary?]

end Turn

theorem source?_message_eq_none_iff {hand : HandNumber} {m : Message} :
    (Turn.message m).source? hand = none ↔ m.observed? ≠ some hand := by
  cases m <;> simp [Turn.source?, Message.observed?]

/-- The observation that arrives, if there is one, is put in the place of an earlier one. -/
def Pending.put (p : Pending) (hand : HandNumber) (u : Turn) : Pending :=
  { p with
    primary := (u.primary? hand).or p.primary
    secondary := (u.secondary? hand).or p.secondary }

theorem Pending.put_of_unobserved {hand : HandNumber} {u : Turn} (h : u.source? hand = none)
    (p : Pending) : p.put hand u = p := by
  cases u with
  | deserted => rfl
  | message m =>
    cases m with
    | primary r | secondary r =>
      have other : r.handNumber ≠ hand := by simpa [Turn.source?] using h
      simp [put, Turn.primary?, Turn.secondary?, other]
    | health | expired | snapshot | shutdown => rfl

theorem Pending.put_eq_renew (p : Pending) (hand : HandNumber) (u : Turn) :
    p.put hand u = p.renew ⟨u.primary? hand, u.secondary? hand, 0, false⟩ := rfl

/-- A hand that is opened by an observation has this one. -/
theorem Pending.has_observed (hand : HandNumber) (u : Turn) (source : Source) :
    Pending.has ⟨u.primary? hand, u.secondary? hand, 0, false⟩ source = true ↔
      u.source? hand = some source := by
  cases source with
  | primary => exact (u.source?_eq_primary_iff hand).symm
  | secondary => exact (u.source?_eq_secondary_iff hand).symm

theorem Pending.has_put (p : Pending) (hand : HandNumber) (u : Turn) (source : Source) :
    (p.put hand u).has source = true ↔ u.source? hand = some source ∨ p.has source = true := by
  rw [put_eq_renew, has_renew, Bool.or_eq_true, has_observed]

theorem Pending.missing_of_awaited {p : Pending} {source : Source}
    (awaited : p.awaited = some source) : p.has source = false :=
  ((p.awaited_eq_some_iff source).mp awaited).2

/-- A source that is missing is the one that the hand waits for. -/
theorem Pending.awaited_of_missing {p : Pending} {source : Source} (awaits : p.awaited.isSome)
    (missing : p.has source = false) : p.awaited = some source := by
  obtain ⟨other, awaited⟩ := Option.isSome_iff_exists.mp awaits
  have held := ((p.awaited_eq_some_iff other).mp awaited).1
  have same : other = source := by
    cases other <;> cases source <;> first | rfl | (rw [Source.other, missing] at held; cases held)
  exact same ▸ awaited

/-- After the first observation of a hand, the other one is missing. -/
theorem Pending.awaited_of_observed {hand : HandNumber} {u : Turn} {source : Source}
    (observed : u.source? hand = some source) (generation : Nat) (timed : Bool) :
    Pending.awaited ⟨u.primary? hand, u.secondary? hand, generation, timed⟩ =
      some source.other := by
  cases u with
  | deserted => cases observed
  | message m =>
    cases m with
    | primary r | secondary r =>
      by_cases own : r.handNumber = hand
      · simp only [Turn.source?, own, ↓reduceIte, Option.some.injEq] at observed
        simp [awaited, Turn.primary?, Turn.secondary?, own, ← observed, Source.other]
      · simp [Turn.source?, own] at observed
    | health | expired | snapshot | shutdown => cases observed

/-- What arrives again changes nothing about what is missing. -/
theorem Pending.awaited_put {p : Pending} {hand : HandNumber} {u : Turn}
    (unchanged : ∀ source, u.source? hand = some source → p.has source = true) :
    (p.put hand u).awaited = p.awaited :=
  awaited_renew fun source has => unchanged source ((has_observed hand u source).mp has)

/-- What a table does in a turn with an observation. -/
theorem take_of_observed {hand : HandNumber} {u : Turn} {source : Source}
    (observed : u.source? hand = some source) (t : Table) : take u t =
      t.observe source hand ⟨u.primary? hand, u.secondary? hand, 0, false⟩ := by
  cases u with
  | deserted => cases observed
  | message m =>
    cases m with
    | primary r | secondary r =>
      by_cases own : r.handNumber = hand
      · simp only [Turn.source?, own, ↓reduceIte, Option.some.injEq] at observed
        simp only [take, handle, observePrimary_eq, observeSecondary_eq, own, ← observed,
          Turn.primary?, Turn.secondary?, ↓reduceIte]
      · simp [Turn.source?, own] at observed
    | health | expired | snapshot | shutdown => cases observed

/-! ### Liveness and openings -/

theorem liveness_take (u : Turn) (t : Table) (source : Source) :
    (take u t).state.liveness source = (u.tells? source).getD (t.liveness source) := by
  cases u with
  | deserted => exact congrFun (kept_forEach liveness_giveUp _ t) source
  | message m =>
    rw [take, liveness_handle]
    cases m <;> rfl

theorem generation_resolve (resolution : Resolution) (hand : HandNumber) (t : Table) :
    (t.resolve resolution hand).state.generation = t.generation := by
  cases hp : t.pending[hand]? with
  | none => rw [resolve_of_not_pending hp]; rfl
  | some p => exact (resolve_leaves hp resolution).generation

theorem generation_giveUp (hand : HandNumber) (t : Table) :
    (t.giveUp hand).state.generation = t.generation := by
  cases hp : t.pending[hand]? with
  | none => rw [giveUp_of_not_pending hp]; rfl
  | some p => exact (giveUp_leaves hp).generation

theorem Observed.le_generation {t : Table} {hand : HandNumber} {e : Emission Table Output}
    (o : Observed hand t e) : t.generation ≤ e.state.generation := by
  cases o with
  | late | held => exact Nat.le_refl _
  | opened => exact Nat.le_succ _
  | cut =>
    rw [Emission.state_after, generation_resolve]
    exact Nat.le_succ _
  | matched => rw [generation_resolve]

/-- The openings of a table are counted. -/
theorem le_generation_take (u : Turn) (t : Table) :
    t.generation ≤ (take u t).state.generation := by
  cases u with
  | deserted => exact Nat.le_of_eq (kept_forEach generation_giveUp _ t).symm
  | message m =>
    rw [take]
    cases m with
    | primary | secondary => exact Observed.le_generation (observed_handle rfl t)
    | health p s =>
      set t' : Table := { t with primary := p, secondary := s }
      exact Nat.le_of_eq (kept_forEach (generation_resolve .sourceStale) t'.cutOff t').symm
    | expired hand generation =>
      show _ ≤ (t.expire hand generation).state.generation
      unfold expire
      split
      · rw [generation_resolve]
      · exact Nat.le_refl _
    | snapshot => exact Nat.le_refl _
    | shutdown => exact Nat.le_of_eq (kept_forEach generation_giveUp _ t).symm

/-- An observation of the video that names no category. -/
def unnamed : Sighting :=
  { tableId := "T1", handNumber := 7, category := none, confidence := 0.5, observedAt := .epoch }

end Showdown.Table
