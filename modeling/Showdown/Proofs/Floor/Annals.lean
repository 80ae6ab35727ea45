import Showdown.Proofs.Floor.Docket
import Showdown.Proofs.Floor.Informed

/-!
# The history of the status of a table

A table counts as healthy when it is first heard of. From then on until it is removed, each change
of its status begins where the one before it ended, and the last one leads to the status that the
monitor holds (`annals_of_run`). Most changes are published: those that a sweep finds, and those
that an observation brings about, or anything else that is heard of a table that is open.

There is one exception. If a source of a table is heard of that is not open, then the monitor takes
note of it, but nobody is told. What is published has a gap there, which shows in the next change
that is published (`gap_of_run`).
-/

namespace Showdown

/-! ### What is published -/

/-- The change of status of a table that is published. -/
def Effect.change? (tableId : TableId) : Effect → Option StatusChange
  | event (.statusChanged report) =>
    if report.change.tableId = tableId then some report.change else none
  | _ => none

/-- The changes of status of a table that are published by some effects, in order. -/
def Effect.changesOf (tableId : TableId) (out : List Effect) : List StatusChange :=
  out.filterMap (change? tableId)

@[simp] theorem Effect.changesOf_nil (tableId : TableId) : changesOf tableId [] = [] := rfl

@[simp] theorem Effect.changesOf_append (tableId : TableId) (out out' : List Effect) :
    changesOf tableId (out ++ out') = changesOf tableId out ++ changesOf tableId out' :=
  List.filterMap_append

theorem Effect.changesOf_published (f : Floor) (tableId : TableId) (changes : List StatusChange) :
    changesOf tableId (changes.map f.published) =
      changes.filter fun c => c.tableId == tableId := by
  induction changes with
  | nil => rfl
  | cons c changes ih =>
    by_cases own : c.tableId = tableId <;> simp_all [changesOf, change?, Floor.published]

theorem Effect.changesOf_noted (tableId : TableId) (notes : List Note) :
    changesOf tableId (notes.map Floor.noted) = [] := by
  simp [changesOf, change?, Floor.noted]

/-! ### What tables say -/

namespace Table

/-- An output by which no change of status is published. -/
def Output.isPlain : Output → Bool
  | .effect (.event (.statusChanged _)) => false
  | _ => true

/-- By none of some outputs a change of status is published. -/
abbrev Plain (out : List Output) : Prop :=
  out.all Output.isPlain = true

theorem plain_track (outcome : Outcome) (t : Table) : Plain (track outcome t).out := by
  cases outcome with
  | ambiguous =>
    simp only [track, disagree]
    split <;> rfl
  | crossValidated =>
    simp only [track, agree]
    split <;> rfl
  | primaryOnly | secondaryFallback | manualRequired => rfl

theorem plain_release (hand : HandNumber) (p : Pending) (t : Table) :
    Plain (t.release hand p).out := by
  unfold release
  split <;> rfl

theorem plain_resolve (resolution : Resolution) (hand : HandNumber) (t : Table) :
    Plain (t.resolve resolution hand).out := by
  unfold resolve
  split
  · rfl
  · simp only [Plain, Emission.out_andThen, List.all_append, Bool.and_eq_true]
    exact ⟨⟨plain_release .., plain_track ..⟩, rfl⟩

theorem plain_giveUp (hand : HandNumber) (t : Table) : Plain (t.giveUp hand).out := by
  unfold giveUp
  split
  · rfl
  · simp only [Plain, Emission.out_andThen, List.all_append, Bool.and_eq_true]
    exact ⟨plain_release .., rfl⟩

theorem plain_forEach {g : HandNumber → Table → Emission Table Output}
    (plain : ∀ hand t, Plain (g hand t).out) (hands : List HandNumber) (t : Table) :
    Plain (Emission.forEach g hands t).out := by
  induction hands generalizing t with
  | nil => rfl
  | cons hand hands ih =>
    simp only [Plain, Emission.forEach_cons, Emission.out_andThen, List.all_append,
      Bool.and_eq_true]
    exact ⟨plain hand t, ih _⟩

theorem Observed.plain {t : Table} {hand : HandNumber} {e : Emission Table Output}
    (o : Observed hand t e) : Plain e.out := by
  cases o with
  | late | opened | held => rfl
  | cut => exact plain_resolve ..
  | matched => exact plain_resolve ..

/-- **A table publishes no change of status**: this is done for it. -/
theorem plain_handle (m : Message) (t : Table) : Plain (t.handle m).out := by
  cases m with
  | primary | secondary => exact Observed.plain (observed_handle rfl t)
  | health primary secondary => exact plain_forEach (plain_resolve _) _ _
  | expired hand generation =>
    simp only [handle, expire]
    split
    · exact plain_resolve ..
    · rfl
  | snapshot => rfl
  | shutdown =>
    simp only [Plain, handle, close, giveUpAll, Emission.out_andThen, Emission.out_after,
      List.all_append, Bool.and_eq_true]
    refine ⟨⟨?_, plain_forEach plain_giveUp _ t⟩, rfl⟩
    split <;> rfl

theorem Plain.changesOf {out : List Output} (plain : Plain out) (tableId : TableId) :
    Effect.changesOf tableId (out.filterMap Output.effect?) = [] := by
  rw [Effect.changesOf, List.filterMap_filterMap, List.filterMap_eq_nil_iff]
  intro o ho
  have silent := List.all_eq_true.mp plain o ho
  cases o with
  | effect e =>
    cases e with
    | event e =>
      cases e with
      | statusChanged => cases silent
      | graded | broadcastable | disagreement => rfl
    | fused | note => rfl
  | startTimer | stopTimer | snapshot | closed => rfl

end Table

/-! ### Changes and the monitor -/

namespace Floor

variable {tableId other : TableId} {f : Floor} {e : Emission Floor Effect}

/-- The status of a table; one that the monitor does not know counts as healthy. -/
def statusOf (f : Floor) (tableId : TableId) : Status :=
  (f.status? tableId).getD .healthy

/-- The changes of the status of a table that are published lead from its status before to its status
after. -/
def Announces (tableId : TableId) (f : Floor) (e : Emission Floor Effect) : Prop :=
  Status.Leads (f.statusOf tableId) (Effect.changesOf tableId e.out) (e.state.statusOf tableId)

theorem announces_of_unchanged (silent : Effect.changesOf tableId e.out = [])
    (same : e.state.status? tableId = f.status? tableId) : Announces tableId f e := by
  rw [Announces, silent, statusOf, statusOf, same]
  rfl

theorem announces_quiet (f : Floor) : Announces tableId f (.quiet f) :=
  announces_of_unchanged rfl rfl

theorem Announces.andThen {g : Floor → Emission Floor Effect} (a : Announces tableId f e)
    (b : Announces tableId e.state (g e.state)) : Announces tableId f (e.andThen g) := by
  rw [Announces, Emission.out_andThen, Effect.changesOf_append]
  exact Status.Leads.append a b

theorem Announces.forEach {α : Type} {g : α → Floor → Emission Floor Effect}
    (steps : ∀ a (f : Floor), f.outlet = none → Steps f (g a f)) {as : List α}
    (announces : ∀ a ∈ as, ∀ f, f.outlet = none → Announces tableId f (g a f))
    (taken : f.outlet = none) : Announces tableId f (Emission.forEach g as f) := by
  induction as generalizing f with
  | nil => exact announces_quiet f
  | cons a as ih =>
    obtain ⟨first, rest⟩ := List.forall_mem_cons.mp announces
    exact (first f taken).andThen (ih rest ((steps a f taken).outlet taken))

/-- No change is published by some steps if none is by any of them. -/
theorem changesOf_forEach {α : Type} {g : α → Floor → Emission Floor Effect}
    (steps : ∀ a (f : Floor), f.outlet = none → Steps f (g a f))
    (silent : ∀ a (f : Floor), f.outlet = none → Effect.changesOf tableId (g a f).out = [])
    (taken : f.outlet = none) (as : List α) :
    Effect.changesOf tableId (Emission.forEach g as f).out = [] := by
  induction as generalizing f with
  | nil => rfl
  | cons a as ih =>
    rw [Emission.forEach_cons, Emission.out_andThen, Effect.changesOf_append, silent a f taken,
      ih ((steps a f taken).outlet taken), List.append_nil]

/-! ### Tables -/

theorem changesOf_deliver (taken : f.outlet = none) (m : Table.Message) (recipient : TableId) :
    Effect.changesOf tableId (f.deliver m recipient).out = [] := by
  cases ht : f.tables[recipient]? with
  | none =>
    rw [deliver_of_notOpen ht]
    rfl
  | some t =>
    rw [deliver_of_open taken ht]
    exact (Table.plain_handle m t).changesOf tableId

theorem announces_deliver (taken : f.outlet = none) (m : Table.Message) (recipient : TableId) :
    Announces tableId f (f.deliver m recipient) :=
  announces_of_unchanged (changesOf_deliver taken m recipient)
    (by rw [status?, monitor_deliver, status?])

theorem announces_openTable (opened : TableId) (f : Floor) :
    Announces tableId f (f.openTable opened) := by
  refine announces_of_unchanged ?_ (by rw [status?, monitor_openTable, status?])
  unfold openTable
  split <;> rfl

theorem announces_closeTable (taken : f.outlet = none) (closed : TableId) :
    Announces tableId f (f.closeTable closed) := by
  refine announces_of_unchanged ?_ (by rw [status?, monitor_closeTable taken, status?])
  cases ht : f.tables[closed]? with
  | none =>
    rw [closeTable_of_notOpen ht]
    rfl
  | some t =>
    rw [closeTable_of_open taken ht]
    exact (Table.plain_handle .shutdown t).changesOf tableId

/-! ### Arrivals -/

theorem changesOf_arrive (taken : f.outlet = none) (source : Source) (heard : TableId) :
    Effect.changesOf tableId (f.arrive source heard).out =
      if heard = tableId then (f.monitor.observe heard source f.now).2.toList else [] := by
  unfold arrive
  simp only
  split
  · rename_i unchanged
    simp [unchanged]
  · rename_i c changed
    have own := Monitor.tableId_of_observe changed
    rw [Emission.out_after, Effect.changesOf_append, changesOf_deliver (by exact taken),
      changed, List.append_nil, ← own]
    by_cases mine : c.tableId = tableId <;>
      simp [Effect.changesOf, List.filterMap_cons, Effect.change?, noted, published, mine]

/-- A source of a table delivers, and the change is the one that the monitor finds. -/
theorem leads_observe (source : Source) (heard : TableId) (f : Floor) :
    Status.Leads (f.statusOf heard) (f.monitor.observe heard source f.now).2.toList
      (f.heardFrom source heard).status := by
  have before : f.statusOf heard =
      ((f.monitor.channel? heard).getD (.firstHeard f.now)).status := by
    rw [statusOf, status?]
    cases f.monitor.channel? heard <;> rfl
  rw [before, Monitor.change_observe]
  exact Status.leads_change heard _ _

theorem announces_arrive (taken : f.outlet = none) (source : Source) (heard : TableId) :
    Announces tableId f (f.arrive source heard) := by
  by_cases own : heard = tableId
  · subst own
    rw [Announces, changesOf_arrive taken, if_pos rfl, statusOf, statusOf, status?_arrive]
    exact leads_observe source heard f
  · exact announces_of_unchanged (by rw [changesOf_arrive taken, if_neg own])
      (status?_arrive_of_ne (Ne.symm own) source f)

/-- An observation arrives. -/
theorem announces_receive (taken : f.outlet = none) (source : Source) (m : Table.Message)
    (recipient : TableId) : Announces tableId f (((f.openTable recipient).andThen
      (arrive source recipient)).andThen (deliver m recipient)) := by
  have opened := (steps_openTable recipient f taken).outlet taken
  have arrived := (steps_arrive source recipient _ opened).outlet opened
  exact ((announces_openTable recipient f).andThen
    (announces_arrive opened source recipient)).andThen (announces_deliver arrived m recipient)

/-! ### Checks of health -/

theorem changesOf_sweep (taken : f.outlet = none) (time : Nat) :
    Effect.changesOf tableId (f.sweep time).out = (f.monitor.found? time tableId).toList := by
  have notes := Effect.changesOf_noted tableId ((f.monitor.sweep time).2.map Note.statusChanged)
  rw [List.map_map] at notes
  unfold sweep
  simp only [Emission.out_after, Effect.changesOf_append]
  rw [changesOf_forEach steps_forward (fun c _ taken => changesOf_deliver taken _ c.tableId)
    (by exact taken), Effect.changesOf_published, Monitor.filter_sweep, List.append_nil]
  exact congrArg (· ++ _) notes

theorem announces_sweep (taken : f.outlet = none) (time : Nat) :
    Announces tableId f (f.sweep time) := by
  rw [Announces, changesOf_sweep taken, Monitor.found?, statusOf, statusOf, status?_sweep, status?]
  cases f.monitor.channel? tableId with
  | none => rfl
  | some c => exact Status.leads_change tableId c _

theorem announces_remove_of_ne (taken : f.outlet = none) (removed : TableId)
    (h : removed ≠ tableId) : Announces tableId f (f.remove removed) := by
  have forgotten : { f with monitor := f.monitor.forget removed }.status? tableId =
      f.status? tableId := by
    rw [status?, Monitor.channel?_forget_of_ne f.monitor (Ne.symm h), status?]
  unfold remove
  simp only
  split
  · have closed : Announces tableId { f with monitor := f.monitor.forget removed } _ :=
      announces_closeTable (by exact taken) removed
    rw [Announces, statusOf, forgotten] at closed
    exact closed
  · exact announces_of_unchanged rfl forgotten

/-! ### Time -/

theorem changesOf_strike (taken : f.outlet = none) (timer : Timer) :
    Effect.changesOf tableId (strike timer f).out = [] := by
  unfold strike
  split
  · exact changesOf_deliver (f := { f with agenda := f.agenda.stop timer.key }) taken _ _
  · rfl

theorem changesOf_advance (taken : f.outlet = none) (ms : Nat) :
    Effect.changesOf tableId (f.advance ms).out = [] := by
  rw [advance, advanceTo_eq taken]
  exact changesOf_forEach steps_strike (fun timer _ taken => changesOf_strike taken timer) taken _

theorem announces_advance (taken : f.outlet = none) (ms : Nat) :
    Announces tableId f (f.advance ms) := by
  refine announces_of_unchanged (changesOf_advance taken ms) ?_
  exact congrArg (fun d => d.channel.map Channel.status) (docket_advance taken ms)

/-! ### Requests -/

/-- The table is removed by a request, or at least the monitor forgets it. -/
def Request.removes (tableId : TableId) (q : Request) (f : Floor) : Bool :=
  match q with
  | remove removed => removed == tableId
  | check time => ((f.sweep time).state.overdue time).contains tableId
  | _ => false

/-- A change of the status of a table of which nobody is told: a source of the table delivers, and
the table is not open. -/
def Request.overlooked? (tableId : TableId) (q : Request) (f : Floor) : Option StatusChange :=
  match q with
  | hear heard source =>
    if heard = tableId ∧ ¬ f.tables.contains tableId then
      (f.monitor.observe heard source f.now).2
    else none
  | _ => none

/-- All changes of the status of a table lead from its status before to its status after: those that
are published, and the one that is overlooked. -/
def Amounts (tableId : TableId) (overlooked : Option StatusChange) (f : Floor)
    (e : Emission Floor Effect) : Prop :=
  Status.Leads (f.statusOf tableId) (Effect.changesOf tableId e.out ++ overlooked.toList)
    (e.state.statusOf tableId)

theorem Announces.amounts (a : Announces tableId f e) : Amounts tableId none f e := by
  rw [Amounts, Option.toList_none, List.append_nil]
  exact a

theorem announces_check (taken : f.outlet = none) {time : Nat}
    (stays : tableId ∉ (f.sweep time).state.overdue time) :
    Announces tableId f (f.check time) := by
  have swept := (steps_sweep time f taken).outlet taken
  refine (announces_sweep taken time).andThen
    (Announces.forEach steps_remove (fun removed listed f taken => ?_) swept)
  exact announces_remove_of_ne taken removed fun own => stays (own ▸ listed)

theorem announces_closeAll (taken : f.outlet = none) : Announces tableId f f.closeAll := by
  have closed : Announces tableId f (Emission.forEach closeTable f.tables.keys f) :=
    Announces.forEach steps_closeTable (fun closed _ _ taken => announces_closeTable taken closed)
      taken
  exact closed

theorem amounts_hear (taken : f.outlet = none) (source : Source) (heard : TableId) :
    Amounts tableId ((Request.hear heard source).overlooked? tableId f) f (f.hear source heard) := by
  by_cases isOpen : f.tables.contains heard
  · have told : (Request.hear heard source).overlooked? tableId f = none := by
      refine if_neg ?_
      rintro ⟨rfl, closed⟩
      exact closed isOpen
    rw [told, hear, if_pos isOpen]
    exact (announces_arrive taken source heard).amounts
  · rw [hear, if_neg isOpen]
    by_cases own : heard = tableId
    · subst own
      have overlooked : (Request.hear heard source).overlooked? heard f =
          (f.monitor.observe heard source f.now).2 := if_pos ⟨rfl, isOpen⟩
      have after : { f with monitor := (f.monitor.observe heard source f.now).1 }.statusOf heard =
          (f.heardFrom source heard).status := by
        rw [statusOf, status?, Monitor.channel?_observe]
        rfl
      rw [Amounts, overlooked, Emission.state_quiet, after]
      exact leads_observe source heard f
    · have told : (Request.hear heard source).overlooked? tableId f = none :=
        if_neg fun h => own h.1
      rw [told]
      refine (announces_of_unchanged rfl ?_).amounts
      rw [status?, Emission.state_quiet, Monitor.channel?_observe_of_ne _ (Ne.symm own), status?]

theorem amounts_act (taken : f.outlet = none) {q : Request} (stays : q.removes tableId f = false) :
    Amounts tableId (q.overlooked? tableId f) f (f.act q) := by
  cases q with
  | hand r => exact (announces_receive taken .primary (.primary r) r.tableId).amounts
  | sighting r =>
    refine Announces.amounts ?_
    cases h : r.validate with
    | ok =>
      simp only [act, attempt, admitSighting, h]
      exact announces_receive taken .secondary (.secondary r) r.tableId
    | error =>
      simp only [act, attempt, admitSighting, h]
      exact announces_quiet f
  | hear heard source => exact amounts_hear taken source heard
  | tellHealth told primary secondary => exact (announces_deliver taken _ told).amounts
  | advance ms => exact (announces_advance taken ms).amounts
  | check time => exact (announces_check taken (by simpa [Request.removes] using stays)).amounts
  | remove removed =>
    exact (announces_remove_of_ne taken removed (by simpa [Request.removes] using stays)).amounts
  | closeAll => exact (announces_closeAll taken).amounts

theorem amounts_perform (taken : f.outlet = none) {q : Request}
    (stays : q.removes tableId f = false) :
    Amounts tableId (q.overlooked? tableId f) f (f.perform q) := by
  have acted := amounts_act taken stays
  rcases perform_eq_or_refused q f with carried | ⟨quiet, refused⟩
  · have taken' := (steps_act q f taken).outlet taken
    have same : Announces tableId (f.act q).state ((f.act q).state.advance 0) :=
      announces_advance taken' 0
    rw [Announces, changesOf_advance taken'] at same
    rw [Amounts, carried, Emission.out_andThen, Effect.changesOf_append, changesOf_advance taken',
      List.append_nil, Emission.state_andThen, ← show _ = _ from same]
    exact acted
  · rw [refused, ← quiet]
    exact acted

/-! ### Runs -/

/-- What requests contribute, since the last one by which a table was removed. -/
def sinceRemoval {α : Type} (tableId : TableId) (contributes : Request → Floor → List α) :
    List Request → Floor → List α → List α
  | [], _, past => past
  | q :: qs, f, past =>
    sinceRemoval tableId contributes qs (f.perform q).state
      (if q.removes tableId f then [] else past ++ contributes q f)

/-- The changes of the status of a table that were published since it was last removed, in order. -/
def bulletin (tableId : TableId) (qs : List Request) (f : Floor) : List StatusChange :=
  sinceRemoval tableId (fun q f => Effect.changesOf tableId (f.perform q).out) qs f []

/-- A change in the history of a table. -/
structure Entry where
  /-- The change. -/
  change : StatusChange
  /-- Whether it is published. -/
  isPublished : Bool

/-- What a request adds to the history of a table. -/
def Request.entries (tableId : TableId) (q : Request) (f : Floor) : List Entry :=
  (Effect.changesOf tableId (f.perform q).out).map (⟨·, true⟩) ++
    (q.overlooked? tableId f).toList.map (⟨·, false⟩)

/-- All changes of the status of a table since it was last removed, in order. -/
def annals (tableId : TableId) (qs : List Request) (f : Floor) : List Entry :=
  sinceRemoval tableId (Request.entries tableId) qs f []

theorem sinceRemoval_concat {α : Type} (contributes : Request → Floor → List α)
    (qs : List Request) (q : Request) (f : Floor) (past : List α) :
    sinceRemoval tableId contributes (qs ++ [q]) f past =
      if q.removes tableId (run qs f).state then []
      else sinceRemoval tableId contributes qs f past ++ contributes q (run qs f).state := by
  induction qs generalizing f past with
  | nil => rfl
  | cons q' qs ih => exact ih ..

/-- What is contributed in part was contributed. -/
theorem sinceRemoval_filterMap {α β : Type} {part : α → Option β}
    {contributes : Request → Floor → List α} (qs : List Request) (f : Floor) (past : List α) :
    (sinceRemoval tableId contributes qs f past).filterMap part =
      sinceRemoval tableId (fun q f => (contributes q f).filterMap part) qs f
        (past.filterMap part) := by
  induction qs generalizing f past with
  | nil => rfl
  | cons q qs ih =>
    rw [sinceRemoval, ih, sinceRemoval]
    split <;> simp

/-- What is contributed was contributed by one of the requests. -/
theorem mem_sinceRemoval {α : Type} {contributes : Request → Floor → List α} {qs : List Request}
    {f : Floor} {a : α} (h : a ∈ sinceRemoval tableId contributes qs f []) :
    ∃ before q after, qs = before ++ q :: after ∧ a ∈ contributes q (run before f).state := by
  induction qs using List.reverseRecOn with
  | nil => cases h
  | append_singleton qs q ih =>
    rw [sinceRemoval_concat] at h
    split at h
    · cases h
    · rcases List.mem_append.mp h with h | h
      · obtain ⟨before, q', after, rfl, given⟩ := ih h
        exact ⟨before, q', after ++ [q], by simp, given⟩
      · exact ⟨qs, q, [], rfl, h⟩

theorem statusOf_opened (s : Settings) (calendar : Nat → UtcTime) (tableId : TableId) :
    (opened s calendar).statusOf tableId = .healthy := by
  simp [statusOf, status?, opened, Monitor.start, Monitor.channel?]

/-- A table that a request removes is unknown to the monitor afterwards. -/
theorem statusOf_of_removes (taken : f.outlet = none) {q : Request}
    (removed : q.removes tableId f = true) : (f.perform q).state.statusOf tableId = .healthy := by
  have docket : (f.perform q).state.docket tableId = (f.docket tableId).step tableId f.now q :=
    docket_perform taken q
  have forgotten : ((f.perform q).state.docket tableId).channel = none := by
    cases q with
    | remove => rw [docket, Docket.step, if_pos (eq_of_beq removed)]; rfl
    | check time =>
      have late := List.contains_iff_mem.mp removed
      rw [mem_overdue_iff, docket_sweep taken] at late
      rw [docket, Docket.step, if_pos late]
      rfl
    | hand | sighting | hear | tellHealth | advance | closeAll => cases removed
  rw [statusOf, status?, show (f.perform q).state.monitor.channel? tableId = none from forgotten]
  rfl

theorem leads_annals {start : Floor} (healthy : start.statusOf tableId = .healthy)
    (taken : start.outlet = none) (qs : List Request) :
    Status.Leads .healthy ((annals tableId qs start).map Entry.change)
      ((run qs start).state.statusOf tableId) := by
  induction qs using List.reverseRecOn with
  | nil => exact healthy.symm
  | append_singleton qs q ih =>
    have taken' := (steps_run qs start taken).outlet taken
    rw [annals, sinceRemoval_concat, run_concat]
    cases removed : q.removes tableId (run qs start).state with
    | true => exact (statusOf_of_removes taken' removed).symm
    | false =>
      rw [if_neg Bool.false_ne_true, List.map_append]
      refine ih.append ?_
      have changes : (q.entries tableId (run qs start).state).map Entry.change =
          Effect.changesOf tableId ((run qs start).state.perform q).out ++
            (q.overlooked? tableId (run qs start).state).toList := by
        simp [Request.entries, Function.comp_def]
      rw [changes]
      exact amounts_perform taken' removed

theorem published_annals (tableId : TableId) (qs : List Request) (f : Floor) :
    ((annals tableId qs f).filter Entry.isPublished).map Entry.change = bulletin tableId qs f := by
  have given (q : Request) (f : Floor) : (q.entries tableId f).filterMap
      (fun e => if e.isPublished then (some ∘ Entry.change) e else none) =
        Effect.changesOf tableId (f.perform q).out := by
    simp [Request.entries]
  rw [← List.filterMap_eq_map, List.filterMap_filter, annals, sinceRemoval_filterMap, bulletin]
  simp only [given]
  rfl

theorem overlooked_of_mem_annals {start : Floor} {qs : List Request} {entry : Entry}
    (h : entry ∈ annals tableId qs start) (unpublished : entry.isPublished = false) :
    ∃ before q after, qs = before ++ q :: after ∧
      q.overlooked? tableId (run before start).state = some entry.change := by
  obtain ⟨before, q, after, cut, given⟩ := mem_sinceRemoval h
  refine ⟨before, q, after, cut, ?_⟩
  rcases List.mem_append.mp given with given | given
  · obtain ⟨c, -, rfl⟩ := List.mem_map.mp given
    cases unpublished
  · obtain ⟨c, overlooked, rfl⟩ := List.mem_map.mp given
    exact Option.mem_toList.mp overlooked

/-- **The history of a table has no gap.** The changes of its status since it was last removed lead
from healthy to the status that the monitor holds, each beginning where the one before it ended. All
of them are published but those that nobody is told of, because a source is heard of at a table that
is not open; so without any of these, what is published has no gap either. -/
theorem annals_of_run (s : Settings) (calendar : Nat → UtcTime) (qs : List Request)
    (tableId : TableId) :
    Status.Leads .healthy ((annals tableId qs (opened s calendar)).map Entry.change)
      ((run qs (opened s calendar)).state.statusOf tableId) ∧
    ((annals tableId qs (opened s calendar)).filter Entry.isPublished).map Entry.change =
      bulletin tableId qs (opened s calendar) ∧
    (∀ entry ∈ annals tableId qs (opened s calendar), entry.isPublished = false →
      ∃ before q after, qs = before ++ q :: after ∧
        q.overlooked? tableId (run before (opened s calendar)).state = some entry.change) ∧
    ((∀ before q after, qs = before ++ q :: after →
        q.overlooked? tableId (run before (opened s calendar)).state = none) →
      Status.Leads .healthy (bulletin tableId qs (opened s calendar))
        ((run qs (opened s calendar)).state.statusOf tableId)) := by
  have taken : (opened s calendar).outlet = none := rfl
  have leads := leads_annals (statusOf_opened s calendar tableId) taken qs
  have published := published_annals tableId qs (opened s calendar)
  have overlooked : ∀ entry ∈ annals tableId qs (opened s calendar), entry.isPublished = false →
      ∃ before q after, qs = before ++ q :: after ∧
        q.overlooked? tableId (run before (opened s calendar)).state = some entry.change :=
    fun entry h unpublished => overlooked_of_mem_annals h unpublished
  refine ⟨leads, published, overlooked, fun none => ?_⟩
  have all : (annals tableId qs (opened s calendar)).filter Entry.isPublished =
      annals tableId qs (opened s calendar) := by
    refine List.filter_eq_self.mpr fun entry h => ?_
    by_contra unpublished
    obtain ⟨before, q, after, cut, some⟩ := overlooked entry h (by simpa using unpublished)
    cases (none before q after cut).symm.trans some
  rw [← published, all]
  exact leads

/-! ### A gap -/

/-- Both sources of a table that is not open fall silent, one of them delivers again, and falls silent
again. -/
def revivesUnheard : List Request :=
  [.hear "T1" .primary, .advance 2000, .check 2000, .hear "T1" .secondary, .advance 2000,
    .check 4000]

/-- **What is published of a table may have a gap**: nobody is told that the status changed from
disconnected to degraded, and the next change begins there. -/
theorem gap_of_run :
    ¬ (∀ (s : Settings) (calendar : Nat → UtcTime) (qs : List Request) (tableId : TableId),
      Status.Leads .healthy (bulletin tableId qs (opened s calendar))
        ((run qs (opened s calendar)).state.statusOf tableId)) ∧
    bulletin "T1" revivesUnheard (opened (.usual 1000 2000) fun _ => .epoch) =
      [⟨"T1", .healthy, .disconnected, .stale, .stale⟩,
        ⟨"T1", .degraded .primary, .disconnected, .stale, .stale⟩] := by
  have published : bulletin "T1" revivesUnheard (opened (.usual 1000 2000) fun _ => .epoch) =
      [⟨"T1", .healthy, .disconnected, .stale, .stale⟩,
        ⟨"T1", .degraded .primary, .disconnected, .stale, .stale⟩] := by decide +kernel
  refine ⟨fun claimed => ?_, published⟩
  have leads := claimed (.usual 1000 2000) (fun _ => .epoch) revivesUnheard "T1"
  rw [published] at leads
  obtain ⟨-, -, joined, -⟩ := leads
  cases joined

end Floor

end Showdown
