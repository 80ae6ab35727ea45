import Showdown.Proofs.Floor.Informed
import Showdown.Proofs.Floor.Lifetimes
import Showdown.Proofs.Table.Closing

/-!
# What becomes of waiting hands when tables are removed

A check of health removes the tables that have been disconnected for too long, and that costs no
hand its second observation: no hand waits at a table that the monitor holds disconnected
(`Clear`). The table may well believe that a source delivers. But it was told when it became
disconnected, and then it resolved all hands that waited; and an observation, which makes a hand
wait, ends the disconnection first.

So hands are given up only when somebody asks for a table to be closed (`spared_of_run`).
-/

namespace Showdown.Floor

open Effect

variable {tableId recipient : TableId} {f : Floor} {e : Emission Floor Effect}
variable {closed : TableId → Prop} {m : Table.Message}

/-- A hand waits at a table. -/
def Waits (tableId : TableId) (f : Floor) : Prop :=
  ∃ t, f.tables[tableId]? = some t ∧ ∃ hand : HandNumber, t.pending[hand]? ≠ none

/-- No hand waits at a table that the monitor holds disconnected. -/
def Clear (f : Floor) : Prop :=
  ∀ tableId, f.status? tableId = some .disconnected → ¬ f.Waits tableId

/-- A floor whose results are taken at once, and whose tables are as they should be. -/
structure Sound (f : Floor) : Prop where
  /-- Results are taken at once. -/
  outlet : f.outlet = none
  /-- Each open table goes by its name and remembers some results. -/
  lifetimes : ∃ out, Lifetimes f out
  /-- Every hand waits for a source that its table takes to deliver. -/
  tables : TablesSound f

/-- No hand begins to wait and no table becomes disconnected, and the hands that are given up waited
at tables that are closed. -/
structure Quiets (closed : TableId → Prop) (f : Floor) (e : Emission Floor Effect) : Prop where
  /-- Where a hand waits, one waited before. -/
  waits : ∀ tableId, e.state.Waits tableId → f.Waits tableId
  /-- A disconnected table was so before. -/
  status : ∀ tableId, e.state.status? tableId = some .disconnected →
    f.status? tableId = some .disconnected
  /-- A hand that is given up waited at a table that is closed. -/
  givenUp : ∀ r ∈ fusedOf e.out, r.resolution = .shutdown →
    closed r.tableId ∧ f.Waits r.tableId

/-! ### Chains of steps -/

theorem Quiets.clear (q : Quiets closed f e) (c : Clear f) : Clear e.state :=
  fun tableId silent waits => c tableId (q.status tableId silent) (q.waits tableId waits)

theorem quiets_quiet (f : Floor) : Quiets closed f (.quiet f) :=
  ⟨fun _ => id, fun _ => id, by simp [fusedOf]⟩

theorem Quiets.andThen {g : Floor → Emission Floor Effect} (q : Quiets closed f e)
    (q' : Quiets closed e.state (g e.state)) : Quiets closed f (e.andThen g) where
  waits tableId w := q.waits tableId (q'.waits tableId w)
  status tableId silent := q.status tableId (q'.status tableId silent)
  givenUp r hr ended := by
    rw [Emission.out_andThen, fusedOf_append] at hr
    rcases List.mem_append.mp hr with hr | hr
    · exact q.givenUp r hr ended
    · exact (q'.givenUp r hr ended).imp_right (q.waits r.tableId)

theorem Quiets.after (q : Quiets closed f e) {out : List Effect}
    (idle : out.all isIdle = true) : Quiets closed f (e.after out) where
  waits := q.waits
  status := q.status
  givenUp := by
    rw [Emission.out_after, fusedOf_append, fusedOf_of_idle idle, List.nil_append]
    exact q.givenUp

theorem Sound.named (sound : Sound f) {t : Table} (ht : f.tables[tableId]? = some t) :
    t.tableId = tableId :=
  sound.lifetimes.elim fun _ l => l.tableId ht

theorem Sound.steps (sound : Sound f) (s : Steps f e) : Sound e.state :=
  ⟨s.outlet sound.outlet, sound.lifetimes.elim fun out l => ⟨out ++ e.out, l.steps s⟩,
    sound.tables.steps s⟩

theorem Sound.noting (sound : Sound f) (monitor : Monitor) :
    Sound { f with monitor := monitor } :=
  ⟨sound.outlet, sound.lifetimes.imp fun _ l => ⟨l.tableId, l.remembers, l.apart⟩, sound.tables⟩

theorem Quiets.forEach {α : Type} {g : α → Floor → Emission Floor Effect}
    (steps : ∀ a (f : Floor), f.outlet = none → Steps f (g a f)) {as : List α}
    (quiets : ∀ a ∈ as, ∀ f, Sound f → Quiets closed f (g a f)) (sound : Sound f) :
    Quiets closed f (Emission.forEach g as f) := by
  induction as generalizing f with
  | nil => exact quiets_quiet f
  | cons a as ih =>
    obtain ⟨first, rest⟩ := List.forall_mem_cons.mp quiets
    exact (first f sound).andThen (ih rest (sound.steps (steps a f sound.outlet)))

/-! ### Messages -/

/-- A table is changed, and no hand waits there that did not wait before. -/
theorem Waits.of_insert {f' : Floor} {t : Table}
    (tables : f'.tables = f.tables.insert recipient t)
    (own : ∀ hand : HandNumber, t.pending[hand]? ≠ none → f.Waits recipient)
    (w : f'.Waits tableId) : f.Waits tableId := by
  obtain ⟨u, hu, hand, waits⟩ := w
  rw [tables, getElem?_insert_eq_some_iff] at hu
  rcases hu with ⟨rfl, rfl⟩ | ⟨-, hu⟩
  · exact own hand waits
  · exact ⟨u, hu, hand, waits⟩

theorem waits_deliver_of_ne (taken : f.outlet = none) (h : tableId ≠ recipient)
    (w : (f.deliver m recipient).state.Waits tableId) : f.Waits tableId := by
  cases ht : f.tables[recipient]? with
  | none => rwa [deliver_of_notOpen ht] at w
  | some t =>
    obtain ⟨u, hu, waits⟩ := w
    rw [deliver_of_open taken ht, getElem?_insert_of_ne _ h] at hu
    exact ⟨u, hu, waits⟩

/-- A table that goes on gives no hand up. -/
theorem resolution_ne_shutdown_deliver (taken : f.outlet = none) (goesOn : m ≠ .shutdown)
    (recipient : TableId) : ∀ r ∈ fusedOf (f.deliver m recipient).out,
      r.resolution ≠ .shutdown := by
  cases ht : f.tables[recipient]? with
  | none => simp [deliver_of_notOpen ht, fusedOf]
  | some t =>
    rw [deliver_of_open taken ht, Table.fusedOf_effects]
    exact fun r hr => Table.resolution_ne_shutdown goesOn hr

theorem quiets_deliver (taken : f.outlet = none) (unobserved : m.observed? = none)
    (goesOn : m ≠ .shutdown) (recipient : TableId) :
    Quiets closed f (f.deliver m recipient) where
  waits tableId w := by
    cases ht : f.tables[recipient]? with
    | none => rwa [deliver_of_notOpen ht] at w
    | some t =>
      rw [deliver_of_open taken ht] at w
      refine Waits.of_insert rfl (fun hand waits => ⟨t, ht, hand, fun idle => ?_⟩) w
      exact waits (Table.not_pending_handle unobserved idle)
  status tableId silent := by
    rwa [status?, monitor_deliver, ← status?] at silent
  givenUp r hr ended :=
    absurd ended (resolution_ne_shutdown_deliver taken goesOn recipient r hr)

theorem quiets_openTable (tableId : TableId) (f : Floor) :
    Quiets closed f (f.openTable tableId) := by
  cases ht : f.tables[tableId]? with
  | none =>
    rw [openTable_of_notOpen ht]
    refine ⟨fun _ => Waits.of_insert rfl fun hand waits => absurd ?_ waits, fun _ => id, ?_⟩
    · simp [Table.opened]
    · simp [noted, fusedOf, fused?]
  | some t =>
    rw [openTable_of_open (by rw [ht]; rfl)]
    exact quiets_quiet f

/-! ### Arrivals -/

/-- The monitor takes note of something first, by which no table becomes disconnected. -/
theorem Quiets.noting (monitor : Monitor) (q : Quiets closed { f with monitor := monitor } e)
    (status : ∀ tableId, { f with monitor := monitor }.status? tableId = some .disconnected →
      f.status? tableId = some .disconnected) : Quiets closed f e where
  waits := q.waits
  status tableId silent := status tableId (q.status tableId silent)
  givenUp := q.givenUp

theorem status_heardFrom_ne (source : Source) (tableId : TableId) (f : Floor) :
    (f.heardFrom source tableId).status ≠ .disconnected := by
  rcases Channel.status_observe ((f.monitor.channel? tableId).getD (.firstHeard f.now)) source f.now
    with healthy | degraded
  · exact fun silent => Status.noConfusion (healthy.symm.trans silent)
  · exact fun silent => Status.noConfusion (degraded.symm.trans silent)

/-- A table that is heard of is not disconnected, and the others are as before. -/
theorem status?_observe {source : Source} {heard : TableId}
    (silent : { f with monitor := (f.monitor.observe heard source f.now).1 }.status? tableId =
      some .disconnected) : tableId ≠ heard ∧ f.status? tableId = some .disconnected := by
  by_cases own : tableId = heard
  · subst own
    rw [status?, Monitor.channel?_observe] at silent
    exact absurd (Option.some.inj silent) (status_heardFrom_ne source tableId f)
  · rw [status?, Monitor.channel?_observe_of_ne _ own] at silent
    exact ⟨own, silent⟩

theorem quiets_arrive (taken : f.outlet = none) (source : Source) (heard : TableId) :
    Quiets closed f (f.arrive source heard) := by
  unfold arrive
  refine Quiets.noting (f.monitor.observe heard source f.now).1 ?_
    fun _ silent => (status?_observe silent).2
  simp only
  split
  · exact quiets_quiet _
  · exact (quiets_deliver (by exact taken) rfl Table.Message.noConfusion heard).after (by rfl)

theorem quiets_hear (taken : f.outlet = none) (source : Source) (heard : TableId) :
    Quiets closed f (f.hear source heard) := by
  unfold hear
  split
  · exact quiets_arrive taken source heard
  · exact (quiets_quiet _).noting _ fun _ silent => (status?_observe silent).2

/-! ### Tables that are closed -/

theorem quiets_closeTable (sound : Sound f) (asked : closed tableId) :
    Quiets closed f (f.closeTable tableId) := by
  cases ht : f.tables[tableId]? with
  | none =>
    rw [closeTable_of_notOpen ht]
    exact quiets_quiet f
  | some t =>
    rw [closeTable_of_open sound.outlet ht]
    refine ⟨fun other w => ?_, fun _ => id, fun r hr ended => ?_⟩
    · obtain ⟨u, hu, waits⟩ := w
      exact ⟨u, ((getElem?_erase_eq_some_iff ..).mp hu).2, waits⟩
    · rw [Table.fusedOf_effects] at hr
      rw [Table.tableId_of_mem_results _ _ r hr, sound.named ht]
      refine ⟨asked, t, ht, ?_⟩
      by_contra idle
      rw [Table.results_shutdown (by simpa using idle)] at hr
      cases hr

theorem quiets_remove (sound : Sound f) (asked : closed tableId) :
    Quiets closed f (f.remove tableId) := by
  have forgotten (other : TableId)
      (silent : { f with monitor := f.monitor.forget tableId }.status? other =
        some .disconnected) : f.status? other = some .disconnected := by
    by_cases own : other = tableId
    · rw [status?, own, Monitor.channel?_forget] at silent
      cases silent
    · rwa [status?, Monitor.channel?_forget_of_ne _ own] at silent
  unfold remove
  simp only
  split
  · exact ((quiets_closeTable (sound.noting _) asked).after rfl).noting _ forgotten
  · exact (quiets_quiet _).noting _ forgotten

/-! ### Time -/

theorem quiets_strike (timer : Timer) (f : Floor) (sound : Sound f) :
    Quiets closed f (strike timer f) := by
  unfold strike
  split
  · have stopped : { f with agenda := f.agenda.stop timer.key }.outlet = none := sound.outlet
    have expired : Quiets closed _ _ := quiets_deliver stopped
      (m := .expired timer.key.hand timer.key.generation) rfl Table.Message.noConfusion
      timer.key.tableId
    exact ⟨expired.waits, expired.status, expired.givenUp⟩
  · exact quiets_quiet f

theorem quiets_advance (sound : Sound f) (ms : Nat) : Quiets closed f (f.advance ms) := by
  rw [advance, advanceTo_eq sound.outlet]
  have struck : Quiets closed f (Emission.forEach strike (f.agenda.due (f.now + ms)) f) :=
    Quiets.forEach steps_strike (fun timer _ f sound => quiets_strike timer f sound) sound
  exact ⟨struck.waits, struck.status, struck.givenUp⟩

/-! ### Checks of health -/

/-- What the tables make of what a sweep finds. -/
theorem quiets_forward (sound : Sound f) (time : Nat) :
    Quiets closed { f with monitor := (f.monitor.sweep time).1 }
      (Emission.forEach forward (f.monitor.sweep time).2
        { f with monitor := (f.monitor.sweep time).1 }) :=
  Quiets.forEach steps_forward
    (fun c _ _ sound => quiets_deliver sound.outlet rfl Table.Message.noConfusion c.tableId)
    (sound.noting _)

theorem waits_sweep (sound : Sound f) {time : Nat} (w : (f.sweep time).state.Waits tableId) :
    f.Waits tableId := by
  have forwarded : Quiets (fun _ => False) _ _ := quiets_forward sound time
  exact forwarded.waits tableId w

theorem resolution_ne_shutdown_sweep (sound : Sound f) (time : Nat) :
    ∀ r ∈ fusedOf (f.sweep time).out, r.resolution ≠ .shutdown := by
  intro r hr ended
  rw [sweep, Emission.out_after, fusedOf_append, fusedOf_of_idle (idle_changes f _),
    List.nil_append] at hr
  have forwarded : Quiets (fun _ => False) _ _ := quiets_forward sound time
  exact (forwarded.givenUp r hr ended).1

/-- A table that becomes disconnected is told, and all hands that wait there are resolved. -/
theorem Clear.sweep (clear : Clear f) (sound : Sound f) (time : Nat) :
    Clear (f.sweep time).state := by
  intro tableId silent waits
  have waited := waits_sweep sound waits
  have swept := sound.steps (steps_sweep time f sound.outlet)
  rw [status?_sweep] at silent
  obtain ⟨c, hc, silent⟩ := Option.map_eq_some_iff.mp silent
  cases found : Channel.change? tableId c (c.reassess f.monitor.window time) with
  | none =>
    refine clear tableId ?_ waited
    rw [status?, hc, Option.map_some, Channel.change?_eq_none found, silent]
  | some change =>
    obtain ⟨t, ht, hand, waits⟩ := waits
    have told := told?_sweep sound.outlet time tableId
    rw [Monitor.found?, hc, Option.bind_some, found, Option.toList_some, List.foldl_cons,
      List.foldl_nil, told?, ht, Channel.status_of_change found, silent] at told
    obtain ⟨-, -, told⟩ := Option.map_eq_some_iff.mp told.symm
    obtain ⟨out, invariant⟩ := swept.tables tableId t ht
    exact waits (invariant.not_pending_of_disconnected told.symm hand)

theorem status?_of_overdue {time : Nat} (late : tableId ∈ (f.sweep time).state.overdue time) :
    (f.sweep time).state.status? tableId = some .disconnected := by
  obtain ⟨c, hc, late⟩ := Monitor.mem_overdue.mp late
  rw [status?, hc]
  rw [channel?_sweep] at hc
  obtain ⟨before, -, rfl⟩ := Option.map_eq_some_iff.mp hc
  exact congrArg some (Channel.status_of_isOverdue late)

/-- A check of health removes tables at which no hand waits. -/
theorem quiets_removals (clear : Clear f) (sound : Sound f) (time : Nat) :
    Quiets (fun _ => False) (f.sweep time).state
      (Emission.forEach remove ((f.sweep time).state.overdue time) (f.sweep time).state) := by
  have removed : Quiets (· ∈ (f.sweep time).state.overdue time) (f.sweep time).state
      (Emission.forEach remove ((f.sweep time).state.overdue time) (f.sweep time).state) :=
    Quiets.forEach steps_remove (fun _ listed _ sound => quiets_remove sound listed)
      (sound.steps (steps_sweep time f sound.outlet))
  refine ⟨removed.waits, removed.status, fun r hr ended => ?_⟩
  obtain ⟨late, waits⟩ := removed.givenUp r hr ended
  exact absurd waits (clear.sweep sound time r.tableId (status?_of_overdue late))

/-! ### Requests -/

/-- No hand waits at a disconnected table afterwards, and all hands that are given up are hands of
tables that are closed. -/
structure Orderly (closed : TableId → Prop) (e : Emission Floor Effect) : Prop where
  /-- No hand waits at a disconnected table. -/
  clear : Clear e.state
  /-- A hand is given up with its table. -/
  givenUp : ∀ r ∈ fusedOf e.out, r.resolution = .shutdown → closed r.tableId

theorem Quiets.orderly (q : Quiets closed f e) (clear : Clear f) : Orderly closed e :=
  ⟨q.clear clear, fun r hr ended => (q.givenUp r hr ended).1⟩

theorem Orderly.andThen {g : Floor → Emission Floor Effect} (o : Orderly closed e)
    (o' : Orderly closed (g e.state)) : Orderly closed (e.andThen g) := by
  refine ⟨o'.clear, fun r hr ended => ?_⟩
  rw [Emission.out_andThen, fusedOf_append] at hr
  rcases List.mem_append.mp hr with hr | hr
  · exact o.givenUp r hr ended
  · exact o'.givenUp r hr ended

/-- An observation arrives. It may make a hand wait, but its table is not disconnected any more. -/
theorem orderly_receive (clear : Clear f) (sound : Sound f) (source : Source)
    (goesOn : m ≠ .shutdown) (recipient : TableId) : Orderly closed
      (((f.openTable recipient).andThen (arrive source recipient)).andThen
        (deliver m recipient)) := by
  have opened := (steps_openTable recipient f sound.outlet).outlet sound.outlet
  have arrived := (steps_arrive source recipient _ opened).outlet opened
  have ready : Orderly closed ((f.openTable recipient).andThen (arrive source recipient)) :=
    ((quiets_openTable recipient f).andThen (quiets_arrive opened source recipient)).orderly clear
  refine ready.andThen ⟨fun tableId silent waits => ?_, fun r hr ended => ?_⟩
  · rw [status?, monitor_deliver, ← status?] at silent
    by_cases own : tableId = recipient
    · rw [own, Emission.state_andThen, status?_arrive] at silent
      exact status_heardFrom_ne source recipient _ (Option.some.inj silent)
    · exact ready.clear tableId silent (waits_deliver_of_ne arrived own waits)
  · exact absurd ended (resolution_ne_shutdown_deliver arrived goesOn recipient r hr)

theorem orderly_check (clear : Clear f) (sound : Sound f) (time : Nat) :
    Orderly closed (f.check time) := by
  have swept : Orderly closed (f.sweep time) :=
    ⟨clear.sweep sound time, fun r hr ended =>
      absurd ended (resolution_ne_shutdown_sweep sound time r hr)⟩
  have removed := (quiets_removals clear sound time).orderly swept.clear
  exact swept.andThen ⟨removed.clear, fun r hr ended => (removed.givenUp r hr ended).elim⟩

/-- Somebody asks for a table to be closed. -/
def Request.closes (tableId : TableId) : Request → Bool
  | remove removed => removed == tableId
  | closeAll => true
  | _ => false

theorem orderly_act (clear : Clear f) (sound : Sound f) (q : Request) :
    Orderly (fun tableId => q.closes tableId = true) (f.act q) := by
  cases q with
  | hand r => exact orderly_receive clear sound .primary Table.Message.noConfusion r.tableId
  | sighting r =>
    cases h : r.validate with
    | ok =>
      simp only [act, attempt, admitSighting, h]
      exact orderly_receive clear sound .secondary Table.Message.noConfusion r.tableId
    | error =>
      simp only [act, attempt, admitSighting, h]
      exact (quiets_quiet f).orderly clear
  | hear heard source => exact (quiets_hear sound.outlet source heard).orderly clear
  | tellHealth told primary secondary =>
    exact (quiets_deliver sound.outlet rfl Table.Message.noConfusion told).orderly clear
  | advance ms => exact (quiets_advance sound ms).orderly clear
  | check time => exact orderly_check clear sound time
  | remove removed => exact (quiets_remove sound (beq_self_eq_true removed)).orderly clear
  | closeAll =>
    refine Quiets.orderly (Quiets.after ?_ rfl) clear
    exact Quiets.forEach steps_closeTable (fun _ _ _ sound => quiets_closeTable sound rfl) sound

theorem orderly_perform (clear : Clear f) (sound : Sound f) (q : Request) :
    Orderly (fun tableId => q.closes tableId = true) (f.perform q) := by
  rcases perform_eq_or_refused q f with carried | ⟨-, refused⟩
  · have acted := orderly_act clear sound q
    have sound' := sound.steps (steps_act q f sound.outlet)
    rw [carried]
    exact acted.andThen ((quiets_advance sound' 0).orderly acted.clear)
  · rw [refused]
    exact (quiets_quiet f).orderly clear

/-! ### Runs -/

theorem sound_opened (s : Settings) (calendar : Nat → UtcTime) : Sound (opened s calendar) where
  outlet := rfl
  lifetimes := ⟨[], lifetimes_opened s calendar⟩
  tables := tablesSound_opened s calendar

theorem clear_opened (s : Settings) (calendar : Nat → UtcTime) : Clear (opened s calendar) := by
  intro tableId silent
  simp [status?, opened, Monitor.start, Monitor.channel?] at silent

theorem sound_run (s : Settings) (calendar : Nat → UtcTime) (qs : List Request) :
    Sound (run qs (opened s calendar)).state :=
  (sound_opened s calendar).steps (steps_run qs _ rfl)

theorem clear_run (s : Settings) (calendar : Nat → UtcTime) (qs : List Request) :
    Clear (run qs (opened s calendar)).state := by
  induction qs using List.reverseRecOn with
  | nil => exact clear_opened s calendar
  | append_singleton qs q ih =>
    rw [run_concat]
    exact (orderly_perform ih (sound_run s calendar qs) q).clear

/-- **No hand is given up by a check of health**, whatever the settings are and whatever time the
check is for: no hand waits at a table that the monitor holds disconnected. Hands are given up only
when somebody asks for their tables to be closed. -/
theorem spared_of_run (s : Settings) (calendar : Nat → UtcTime) (qs : List Request) :
    (∀ time, ∀ r ∈ fusedOf ((run qs (opened s calendar)).state.perform (.check time)).out,
      r.resolution ≠ .shutdown) ∧
    (∀ q, ∀ r ∈ fusedOf ((run qs (opened s calendar)).state.perform q).out,
      r.resolution = .shutdown → q = .closeAll ∨ q = .remove r.tableId) ∧
    ∀ (tableId : TableId) (t : Table),
      (run qs (opened s calendar)).state.tables[tableId]? = some t →
      (run qs (opened s calendar)).state.status? tableId = some .disconnected →
      t.snapshot.pendingHands = [] := by
  have clear := clear_run s calendar qs
  have orderly := orderly_perform clear (sound_run s calendar qs)
  refine ⟨fun time r hr ended => ?_, fun q r hr ended => ?_, fun tableId t ht silent => ?_⟩
  · exact Bool.false_ne_true ((orderly (.check time)).givenUp r hr ended)
  · have asked := (orderly q).givenUp r hr ended
    cases q with
    | remove removed => exact .inr (congrArg Request.remove (eq_of_beq asked))
    | closeAll => exact .inl rfl
    | hand | sighting | hear | tellHealth | advance | check => cases asked
  · refine List.eq_nil_iff_forall_not_mem.mpr fun hand waits => ?_
    refine clear tableId silent ⟨t, ht, hand, fun idle => ?_⟩
    have listed : hand ∈ t.pending := Std.TreeMap.mem_keys.mp waits
    simp [Std.TreeMap.mem_iff_isSome_getElem?, idle] at listed

/-- Even without any grace a table that is removed has been told before that its sources are
silent. -/
example :
    let impatient := { Settings.usual 1000 0 with disconnectGrace := 0 }
    let e := run [.hand reading, .check 0] (opened impatient fun _ => .epoch)
    (fusedOf e.out).map FusedHand.resolution = [.sourceStale] ∧ e.state.openTables = [] := by
  decide +kernel

end Showdown.Floor
