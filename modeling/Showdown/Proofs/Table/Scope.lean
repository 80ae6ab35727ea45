import Showdown.Proofs.Agenda
import Showdown.Proofs.Table.Moves

/-!
# What a table says is about itself

All results, events and timers that come of a message are those of the table that handles it
(`own_handle`). So what one table puts out does not concern the results, events and timers of
another one.
-/

namespace Showdown

/-! ### What effects and outputs are about -/

/-- The table that an effect is about, if it is a result or an event. -/
def Effect.tableId? : Effect → Option TableId
  | fused r => some r.tableId
  | event e => some e.tableId
  | note _ => none

@[simp] theorem Effect.tableId?_fused (r : FusedHand) : (fused r).tableId? = some r.tableId := rfl

@[simp] theorem Effect.tableId?_event (e : Event) : (event e).tableId? = some e.tableId := rfl

@[simp] theorem Effect.tableId?_note (n : Note) : (note n).tableId? = none := rfl

/-- The results and events of a table among some effects, in order. -/
def Effect.ofTable (tableId : TableId) (out : List Effect) : List Effect :=
  out.filter fun e => e.tableId? == some tableId

@[simp] theorem Effect.ofTable_nil (tableId : TableId) : Effect.ofTable tableId [] = [] := rfl

@[simp] theorem Effect.ofTable_append (tableId : TableId) (out out' : List Effect) :
    Effect.ofTable tableId (out ++ out') =
      Effect.ofTable tableId out ++ Effect.ofTable tableId out' :=
  List.filter_append ..

namespace Table

/-- The table that an output is about, if it is a timer, a result or an event. -/
def Output.tableId? : Output → Option TableId
  | .effect e => e.tableId?
  | .startTimer key | .stopTimer key => some key.tableId
  | .snapshot _ | .closed _ => none

@[simp] theorem Output.tableId?_effect (e : Effect) : (effect e).tableId? = e.tableId? := rfl

@[simp] theorem Output.tableId?_startTimer (key : TimerKey) :
    (startTimer key).tableId? = some key.tableId := rfl

@[simp] theorem Output.tableId?_stopTimer (key : TimerKey) :
    (stopTimer key).tableId? = some key.tableId := rfl

@[simp] theorem Output.tableId?_snapshot (s : Snapshot) : (snapshot s).tableId? = none := rfl

@[simp] theorem Output.tableId?_closed (s : Tally) : (closed s).tableId? = none := rfl

/-- All timers, results and events among some outputs are those of one table. -/
def Own (tableId : TableId) (out : List Output) : Prop :=
  ∀ o ∈ out, ∀ other, o.tableId? = some other → other = tableId

@[simp] theorem own_nil (tableId : TableId) : Own tableId [] := by
  simp [Own]

@[simp] theorem own_append {tableId : TableId} {out out' : List Output} :
    Own tableId (out ++ out') ↔ Own tableId out ∧ Own tableId out' :=
  List.forall_mem_append

@[simp] theorem own_cons {tableId : TableId} {o : Output} {out : List Output} :
    Own tableId (o :: out) ↔
      (∀ other, o.tableId? = some other → other = tableId) ∧ Own tableId out :=
  List.forall_mem_cons

@[simp] theorem tableId?_noted (n : Note) : (noted n).tableId? = none := rfl

/-! ### Messages -/

theorem own_track (outcome : Outcome) (t : Table) : Own t.tableId (track outcome t).out := by
  cases outcome with
  | ambiguous =>
    simp only [track, disagree]
    split
    · simp [Event.tableId]
    · exact own_nil _
  | crossValidated =>
    simp only [track, agree]
    split <;> simp
  | primaryOnly | secondaryFallback | manualRequired => exact own_nil _

theorem own_release (hand : HandNumber) (p : Pending) (t : Table) :
    Own t.tableId (t.release hand p).out := by
  unfold release
  split <;> simp [timerKey]

theorem own_handOn {r : FusedHand} {t : Table} (own : r.tableId = t.tableId) :
    Own t.tableId (handOn r t).out := by
  simp [handOn, own]

theorem own_resolve (resolution : Resolution) (hand : HandNumber) (t : Table) :
    Own t.tableId (t.resolve resolution hand).out := by
  unfold resolve
  split
  · exact own_nil _
  · rename_i p _
    have result : (t.fuse hand p resolution).tableId = t.tableId :=
      congrArg HandId.tableId (Policy.id_decide ..)
    obtain ⟨streak, same⟩ :=
      (onlyStreak_track (t.fuse hand p resolution).outcome).state (t.release hand p).state
    simp only [Emission.out_andThen, own_append]
    refine ⟨⟨own_release hand p t, own_track _ (t.release hand p).state⟩, ?_⟩
    rw [Emission.state_andThen, same]
    exact own_handOn result

theorem own_giveUp (hand : HandNumber) (t : Table) : Own t.tableId (t.giveUp hand).out := by
  unfold giveUp
  split
  · exact own_nil _
  · rename_i p _
    simp only [Emission.out_andThen, own_append]
    exact ⟨own_release hand p t, own_handOn (t := (t.release hand p).state) rfl⟩

/-- Hands that leave one after another. -/
theorem own_forEach {f : HandNumber → Table → Emission Table Output}
    (tableId : ∀ hand t, (f hand t).state.tableId = t.tableId)
    (own : ∀ hand t, Own t.tableId (f hand t).out) (hands : List HandNumber) (t : Table) :
    Own t.tableId (Emission.forEach f hands t).out := by
  have kept := Emission.forEach_keeps
    (P := fun t' out => t'.tableId = t.tableId ∧ Own t.tableId out) (f := f)
    (fun hand t' out h => ?_) hands t [] ⟨rfl, own_nil _⟩
  · simpa using kept.2
  · refine ⟨(tableId hand t').trans h.1, own_append.mpr ⟨h.2, ?_⟩⟩
    rw [← h.1]
    exact own hand t'

theorem Observed.own {t : Table} {hand : HandNumber} {e : Emission Table Output}
    (o : Observed hand t e) : Own t.tableId e.out := by
  cases o with
  | late | held => simp
  | opened => simp [timerKey]
  | cut _ q source =>
    have result := own_resolve .sourceStale hand
      { t with generation := t.generation + 1, pending := t.pending.insert hand q }
    exact own_append.mpr ⟨by simp, result⟩
  | matched _ q => exact own_resolve _ hand { t with pending := t.pending.insert hand q }

/-- **All that comes of a message is about the table that handles it.** -/
theorem own_handle (m : Message) (t : Table) : Own t.tableId (t.handle m).out := by
  cases m with
  | primary | secondary => exact Observed.own (observed_handle rfl t)
  | health primary secondary =>
    exact own_forEach (fun hand t => tableId_moves (moves_resolve _ hand t)) (own_resolve _) _
      { t with primary := primary, secondary := secondary }
  | expired hand generation =>
    simp only [handle, expire]
    split
    · exact own_resolve _ hand t
    · simp
  | snapshot => simp [handle]
  | shutdown =>
    simp only [handle, close, giveUpAll, Emission.out_andThen, Emission.out_after, own_append]
    refine ⟨⟨?_, ?_⟩, by simp⟩
    · split <;> simp
    · exact own_forEach (fun hand t => tableId_moves (moves_giveUp hand t)) own_giveUp _ t

/-! ### Other tables -/

/-- What a table puts out does not concern the results and events of another one. -/
theorem ofTable_of_own {tableId other : TableId} {out : List Output} (own : Own tableId out)
    (h : tableId ≠ other) : Effect.ofTable other (out.filterMap Output.effect?) = [] := by
  refine List.filter_eq_nil_iff.mpr fun e he => ?_
  obtain ⟨o, ho, eq⟩ := List.mem_filterMap.mp he
  cases o with
  | effect e' =>
    obtain rfl : e' = e := Option.some.inj eq
    simpa using fun about => h (own _ ho other about).symm
  | startTimer | stopTimer | snapshot | closed => cases eq

open Agenda

/-- What a table puts out does not concern the timers of another one. -/
theorem ofTable_heed_of_ne {tableId other : TableId} {out : List Output} (own : Own tableId out)
    (h : tableId ≠ other) {a : Agenda} (ordered : a.Ordered) (due : Nat) :
    (out.foldl (Agenda.heed due) a).ofTable other = a.ofTable other := by
  induction out generalizing a with
  | nil => rfl
  | cons o out ih =>
    obtain ⟨now, later⟩ := own_cons.mp own
    refine (ih later (ordered.heed due [o])).trans ?_
    cases o with
    | startTimer key =>
      exact ofTable_start_of_ne ordered fun eq => h (eq.symm.trans (now _ rfl)).symm
    | stopTimer key =>
      exact ofTable_stop_of_ne a fun eq => h (eq.symm.trans (now _ rfl)).symm
    | effect | snapshot | closed => rfl

/-- What a table puts out does the same to its timers, whatever other timers there are. -/
theorem ofTable_heed_of_own {tableId : TableId} {out : List Output} (own : Own tableId out)
    {a b : Agenda} (oa : a.Ordered) (ob : b.Ordered) (same : a.ofTable tableId = b.ofTable tableId)
    (due : Nat) : (out.foldl (Agenda.heed due) a).ofTable tableId =
      (out.foldl (Agenda.heed due) b).ofTable tableId := by
  induction out generalizing a b with
  | nil => exact same
  | cons o out ih =>
    obtain ⟨now, later⟩ := own_cons.mp own
    refine ih later (oa.heed due [o]) (ob.heed due [o]) ?_
    cases o with
    | startTimer key =>
      have mine : key.tableId = tableId := now _ rfl
      simp only [Agenda.heed]
      rw [ofTable_start_of_own oa mine, ofTable_start_of_own ob mine, same]
    | stopTimer key =>
      simp only [Agenda.heed]
      rw [ofTable_stop, ofTable_stop, same]
    | effect | snapshot | closed => exact same

/-- What comes of a timer that runs out starts no timer, whatever the time. -/
theorem heed_expire (hand : HandNumber) (generation : Nat) (t : Table) :
    ∃ keep : Timer → Bool, ∀ due a,
      (t.expire hand generation).out.foldl (Agenda.heed due) a = ⟨a.timers.filter keep⟩ := by
  have untouched (a : Agenda) : a = ⟨a.timers.filter fun _ => true⟩ := by
    rw [List.filter_true]
  unfold expire
  split
  · cases hp : t.pending[hand]? with
    | none =>
      rw [resolve_of_not_pending hp]
      exact ⟨_, fun _ a => untouched a⟩
    | some p =>
      have left := resolve_leaves hp .windowExpired
      by_cases timed : p.timed
      · exact ⟨fun u => u.key != t.timerKey hand p.generation, fun due a => by
          rw [left.agenda, if_pos timed]
          rfl⟩
      · exact ⟨_, fun due a => by
          rw [left.agenda, if_neg timed]
          exact untouched a⟩
  · exact ⟨_, fun _ a => untouched a⟩

end Table

end Showdown
