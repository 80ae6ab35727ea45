import Showdown.Proofs.Floor.Docket
import Showdown.Proofs.Floor.Lifetimes

/-!
# When a table is removed

The time for which a table has been disconnected does not begin when its sources fall silent, but
with the first check of health that finds them so. An arrival ends it, whatever becomes of the
observation. So a table is removed by a check if there was a check, at least a time of grace before,
that came after the last arrival and at least a window later (`removes_iff_due`). All of this is
about checks that are not for times before the last arrival or before the last check.

An observation that is refused is no arrival (`refused_is_no_arrival`).
-/

namespace Showdown

/-! ### What the monitor knows of a table -/

namespace Channel

/-- A table was last heard of at a given time, and some checks were made since, in order. -/
structure LastHeard (c : Channel) (window time : Nat) (passes : List Nat) : Prop where
  /-- The table was first heard of no later. -/
  registered : c.registeredAt ≤ time
  /-- The primary source was seen no later. -/
  primary : c.primary.lastSeen.getD c.registeredAt ≤ time
  /-- And so was the secondary source. -/
  secondary : c.secondary.lastSeen.getD c.registeredAt ≤ time
  /-- One of them was seen just then. -/
  last : c.primary.lastSeen = some time ∨ c.secondary.lastSeen = some time
  /-- The first check that was late enough found both of them silent. -/
  since : c.disconnectedSince = passes.find? fun pass => window ≤ pass - time

variable {c : Channel} {window time now : Nat} {passes : List Nat}

theorem lastHeard_firstHeard (window now : Nat) (source : Source) :
    ((firstHeard now).observe source now).LastHeard window now [] := by
  cases source <;> constructor <;> simp [firstHeard, observe, Feed.unseen, Feed.seenAt]

/-- An arrival ends the time for which a table was disconnected. -/
theorem LastHeard.observe (h : c.LastHeard window time passes) (later : time ≤ now)
    (source : Source) : (c.observe source now).LastHeard window now [] := by
  have registered := h.registered.trans later
  have primary := h.primary.trans later
  have secondary := h.secondary.trans later
  cases source <;> constructor <;>
    simp [Channel.observe, Feed.seenAt, registered, primary, secondary]

/-- Both sources are silent if and only if neither was seen within a window. -/
theorem LastHeard.status_reassess_iff (h : c.LastHeard window time passes) :
    (c.reassess window now).status = .disconnected ↔ window ≤ now - time := by
  have primary := h.primary
  have secondary := h.secondary
  have silent_iff : (c.reassess window now).status = .disconnected ↔
      window ≤ now - c.primary.lastSeen.getD c.registeredAt ∧
        window ≤ now - c.secondary.lastSeen.getD c.registeredAt := by
    simp only [status, reassess, Feed.reassess]
    split <;> split <;> simp_all [Status.ofLiveness]
  rw [silent_iff]
  rcases h.last with last | last <;> rw [last, Option.getD_some] <;> omega

/-- A check does not put the time off that was noted by an earlier one. -/
theorem LastHeard.reassess (h : c.LastHeard window time passes)
    (later : ∀ pass ∈ passes, pass ≤ now) :
    (c.reassess window now).LastHeard window time (passes ++ [now]) where
  registered := h.registered
  primary := h.primary
  secondary := h.secondary
  last := h.last
  since := by
    have noted : (c.reassess window now).disconnectedSince =
        if (c.reassess window now).status = .disconnected then
          some (c.disconnectedSince.getD now)
        else none := rfl
    rw [noted, List.find?_append]
    simp only [h.status_reassess_iff, h.since]
    cases first : passes.find? fun pass => window ≤ pass - time with
    | none => by_cases late : window ≤ now - time <;> simp [late]
    | some pass =>
      have late : window ≤ pass - time := by simpa using List.find?_some first
      have no_earlier := later pass (List.mem_of_find?_eq_some first)
      rw [if_pos (by omega)]
      rfl

/-- The first check that was late enough is the one that matters. -/
theorem LastHeard.isOverdue_iff (h : c.LastHeard window time passes)
    (sorted : passes.Pairwise (· ≤ ·)) (grace : Nat) : c.isOverdue grace now = true ↔
      ∃ pass ∈ passes, window ≤ pass - time ∧ grace ≤ now - pass := by
  rw [isOverdue, h.since, Option.any_eq_true]
  simp only [decide_eq_true_eq]
  constructor
  · rintro ⟨first, found, due⟩
    exact ⟨first, List.mem_of_find?_eq_some found, by simpa using List.find?_some found, due⟩
  · rintro ⟨pass, made, late, due⟩
    have some_late : (passes.find? fun pass => window ≤ pass - time).isSome := by
      rw [List.find?_isSome]
      exact ⟨pass, made, by simpa using late⟩
    obtain ⟨first, found⟩ := Option.isSome_iff_exists.mp some_late
    obtain ⟨-, earlier, rest, rfl, early⟩ := List.find?_eq_some_iff_append.mp found
    refine ⟨first, found, ?_⟩
    have first_le : first ≤ pass := by
      rcases List.mem_append.mp made with made | made
      · simpa [late] using early pass made
      · rcases List.mem_cons.mp made with rfl | made
        · exact le_rfl
        · exact List.rel_of_pairwise_cons (List.pairwise_append.mp sorted).2.1 made
    omega

end Channel

namespace Floor

/-! ### Arrivals and checks -/

namespace Request

/-- A source of a table delivers, and what it delivers is not refused. -/
def arrives (tableId : TableId) : Request → Bool
  | hand r => r.tableId == tableId
  | sighting r => r.tableId == tableId && r.validate.isOk
  | hear heard _ => heard == tableId
  | _ => false

/-- The time that a check is for. -/
def check? : Request → Option Nat
  | check time => some time
  | _ => none

/-- When a request is made, if it is an arrival or a check. -/
def moment? (arrives : Request → Bool) (now : Nat) (q : Request) : Option Nat :=
  if arrives q then some now else q.check?

end Request

/-- The times of some checks. -/
def passes (qs : List Request) : List Nat :=
  qs.filterMap Request.check?

theorem mem_passes {qs : List Request} {pass : Nat} : pass ∈ passes qs ↔ .check pass ∈ qs := by
  rw [passes, List.mem_filterMap]
  constructor
  · rintro ⟨q, hq, time⟩
    cases q <;> cases time
    exact hq
  · exact fun h => ⟨_, h, rfl⟩

/-- The times of the arrivals and checks among some requests, in the order in which they are
made. -/
def moments (arrives : Request → Bool) : List Request → Floor → List Nat
  | [], _ => []
  | q :: qs, f => (q.moment? arrives f.now).toList ++ moments arrives qs (f.perform q).state

section Arrivals

variable {arrives : Request → Bool} {start : Floor} {qs since : List Request} {q : Request}
variable {time : Nat}

theorem moments_append (arrives : Request → Bool) (qs qs' : List Request) (f : Floor) :
    moments arrives (qs ++ qs') f = moments arrives qs f ++ moments arrives qs' (run qs f).state := by
  induction qs generalizing f with
  | nil => rfl
  | cons q qs ih => rw [List.cons_append, moments, moments, ih, List.append_assoc]; rfl

theorem moments_concat (arrives : Request → Bool) (qs : List Request) (q : Request) (f : Floor) :
    moments arrives (qs ++ [q]) f =
      moments arrives qs f ++ (q.moment? arrives (run qs f).state.now).toList := by
  rw [moments_append, moments, moments, List.append_nil]

theorem moments_of_none (none_arrives : ∀ q ∈ qs, arrives q = false) (f : Floor) :
    moments arrives qs f = passes qs := by
  induction qs generalizing f with
  | nil => rfl
  | cons q qs ih =>
    obtain ⟨first, rest⟩ := List.forall_mem_cons.mp none_arrives
    rw [moments, ih rest, Request.moment?, first, passes, passes, List.filterMap_cons]
    cases q.check? <;> rfl

/-- The last arrival among some requests was at a given time, and these were made since. -/
def LastArrival (arrives : Request → Bool) (start : Floor) (qs : List Request) (time : Nat)
    (since : List Request) : Prop :=
  ∃ before q, qs = before ++ q :: since ∧ arrives q = true ∧
    (∀ q' ∈ since, arrives q' = false) ∧ (run before start).state.now = time

theorem lastArrival_of_arrives (here : arrives q = true) :
    LastArrival arrives start (qs ++ [q]) (run qs start).state.now [] :=
  ⟨qs, q, rfl, here, by simp, rfl⟩

theorem LastArrival.concat (last : LastArrival arrives start qs time since)
    (elsewhere : arrives q = false) :
    LastArrival arrives start (qs ++ [q]) time (since ++ [q]) := by
  obtain ⟨before, arrival, rfl, here, others, now⟩ := last
  refine ⟨before, arrival, by simp, here, List.forall_mem_append.mpr ⟨others, ?_⟩, now⟩
  simpa using elsewhere

/-- There is no arrival after the last one. -/
theorem eq_nil_of_last {rest since' : List Request} {q' : Request}
    (tail : q :: since = rest ++ q' :: since') (others : ∀ x ∈ since, arrives x = false)
    (here' : arrives q' = true) : rest = [] ∧ since = since' := by
  cases rest with
  | nil => exact ⟨rfl, (List.cons.inj tail).2⟩
  | cons x rest =>
    obtain ⟨-, rfl⟩ := List.cons.inj tail
    simp [others q' (by simp)] at here'

theorem LastArrival.unique (last : LastArrival arrives start qs time since) {time' : Nat}
    {since' : List Request} (last' : LastArrival arrives start qs time' since') :
    time = time' ∧ since = since' := by
  obtain ⟨before, q, rfl, here, others, rfl⟩ := last
  obtain ⟨before', q', cut, here', others', rfl⟩ := last'
  rcases List.append_eq_append_iff.mp cut with ⟨rest, rfl, tail⟩ | ⟨rest, rfl, tail⟩
  · obtain ⟨rfl, rfl⟩ := eq_nil_of_last tail others here'
    simp
  · obtain ⟨rfl, rfl⟩ := eq_nil_of_last tail others' here
    simp

/-- The last arrival and the checks since are the last of all moments. -/
theorem LastArrival.moments (last : LastArrival arrives start qs time since) :
    ∃ earlier, moments arrives qs start = earlier ++ time :: passes since := by
  obtain ⟨before, q, rfl, here, others, rfl⟩ := last
  refine ⟨Floor.moments arrives before start, ?_⟩
  rw [moments_append, Floor.moments, moments_of_none others, Request.moment?, if_pos here]
  rfl

/-- If nothing is done for an earlier time, then neither the last arrival nor a check since was later
than the next arrival or check. -/
theorem LastArrival.le_next (last : LastArrival arrives start qs time since)
    (sorted : (Floor.moments arrives (qs ++ [q]) start).Pairwise (· ≤ ·)) {next : Nat}
    (now : q.moment? arrives (run qs start).state.now = some next) :
    time ≤ next ∧ ∀ pass ∈ passes since, pass ≤ next := by
  obtain ⟨earlier, all⟩ := last.moments
  rw [moments_concat, all, now, List.pairwise_append] at sorted
  have before : ∀ moment ∈ time :: passes since, moment ≤ next := fun moment h =>
    sorted.2.2 moment (List.mem_append_right earlier h) next (List.mem_singleton_self next)
  exact List.forall_mem_cons.mp before

end Arrivals

end Floor

/-! ### Dockets -/

namespace Docket

variable {tableId : TableId} {now : Nat} {d : Docket} {q : Floor.Request}

theorem channel_step_of_arrives (here : q.arrives tableId = true) :
    ∃ source, (d.step tableId now q).channel = (d.hear source now).channel := by
  cases q with
  | hand r => exact ⟨.primary, by rw [step, if_pos (eq_of_beq here)]; rfl⟩
  | sighting r =>
    obtain ⟨own, valid⟩ := Bool.and_eq_true_iff.mp here
    exact ⟨.secondary, by rw [step, if_pos ⟨eq_of_beq own, valid⟩]; rfl⟩
  | hear heard source => exact ⟨source, by rw [step, if_pos (eq_of_beq here)]⟩
  | tellHealth | advance | check | remove | closeAll => cases here

/-- Between arrivals and checks a table may be forgotten, and otherwise nothing is learned of it. -/
theorem channel_step_of_other (elsewhere : q.arrives tableId = false) (unchecked : q.check? = none) :
    (d.step tableId now q).channel = none ∨ (d.step tableId now q).channel = d.channel := by
  cases q with
  | hand r => exact .inr (by rw [step, if_neg (ne_of_beq_false elsewhere)])
  | sighting r =>
    refine .inr ?_
    rw [step, if_neg]
    rintro ⟨own, valid⟩
    simp [Floor.Request.arrives, own, valid] at elsewhere
  | hear heard source => exact .inr (by rw [step, if_neg (ne_of_beq_false elsewhere)])
  | remove removed =>
    rw [step]
    split
    · exact .inl rfl
    · exact .inr rfl
  | check => cases unchecked
  | tellHealth | advance | closeAll => exact .inr rfl

end Docket

/-! ### Runs -/

namespace Floor

variable {tableId : TableId} {start : Floor} {qs : List Request}

/-- The monitor knows of a table what it was told by the last arrival and by the checks since. -/
def Informs (tableId : TableId) (start : Floor) (qs : List Request) (c : Channel) : Prop :=
  ∃ time since, LastArrival (Request.arrives tableId) start qs time since ∧
    c.LastHeard start.monitor.window time (passes since)

section Informs

variable {c : Channel} {d : Docket} {q : Request}

/-- Something arrives. -/
theorem informs_of_arrives (here : q.arrives tableId = true)
    (sorted : (moments (Request.arrives tableId) (qs ++ [q]) start).Pairwise (· ≤ ·))
    (informs : ∀ b, d.channel = some b → Informs tableId start qs b)
    (known : (d.step tableId (run qs start).state.now q).channel = some c) :
    Informs tableId start (qs ++ [q]) c := by
  obtain ⟨source, heard⟩ := Docket.channel_step_of_arrives (d := d) here
  obtain rfl := Option.some.inj (heard.symm.trans known)
  refine ⟨_, [], lastArrival_of_arrives here, ?_⟩
  cases hb : d.channel with
  | none => exact Channel.lastHeard_firstHeard _ _ source
  | some b =>
    obtain ⟨time, since, last, heardLast⟩ := informs b hb
    exact heardLast.observe (last.le_next sorted (if_pos here)).1 source

/-- A check is made that does not remove the table. -/
theorem informs_of_check {now : Nat}
    (sorted : (moments (Request.arrives tableId) (qs ++ [.check now]) start).Pairwise (· ≤ ·))
    (informs : Informs tableId start qs c) :
    Informs tableId start (qs ++ [.check now]) (c.reassess start.monitor.window now) := by
  obtain ⟨time, since, last, heard⟩ := informs
  refine ⟨time, since ++ [.check now], last.concat rfl, ?_⟩
  rw [passes, List.filterMap_append]
  exact heard.reassess (last.le_next sorted rfl).2

/-- Nothing is learned of the table. -/
theorem Informs.concat (informs : Informs tableId start qs c) (elsewhere : q.arrives tableId = false)
    (unchecked : q.check? = none) : Informs tableId start (qs ++ [q]) c := by
  obtain ⟨time, since, last, heard⟩ := informs
  refine ⟨time, since ++ [q], last.concat elsewhere, ?_⟩
  rw [passes, List.filterMap_append, List.filterMap_cons, unchecked, List.filterMap_nil,
    List.append_nil]
  exact heard

end Informs

theorem informs_run (taken : start.outlet = none) (unheard : start.monitor.channel? tableId = none)
    (sorted : (moments (Request.arrives tableId) qs start).Pairwise (· ≤ ·)) {c : Channel}
    (known : ((run qs start).state.docket tableId).channel = some c) :
    Informs tableId start qs c := by
  induction qs using List.reverseRecOn generalizing c with
  | nil => cases unheard.symm.trans known
  | append_singleton qs q ih =>
    have before := moments_concat (Request.arrives tableId) qs q start ▸ sorted
    have informs := fun b => ih (List.pairwise_append.mp before).1 (c := b)
    rw [docket_run_concat taken] at known
    cases here : q.arrives tableId with
    | true => exact informs_of_arrives here sorted informs known
    | false =>
      cases checked : q.check? with
      | none =>
        rcases Docket.channel_step_of_other here checked with forgotten | same
        · cases forgotten.symm.trans known
        · exact (informs c (same.symm.trans known)).concat here checked
      | some now =>
        obtain rfl : q = .check now := by cases q <;> cases checked; rfl
        rw [Docket.step] at known
        split at known
        · cases known
        · obtain ⟨b, hb, rfl⟩ := Option.map_eq_some_iff.mp known
          rw [(settings_docket_run taken tableId qs).1]
          exact informs_of_check sorted (informs b hb)

/-- Some check since the last arrival for a table came at least a window later, and that was at least
the time of grace ago. -/
def Due (arrives : Request → Bool) (start : Floor) (qs : List Request) (now : Nat) : Prop :=
  ∃ time since, LastArrival arrives start qs time since ∧
    ∃ pass, .check pass ∈ since ∧ start.monitor.window ≤ pass - time ∧ start.grace ≤ now - pass

/-- A check finds a table overdue if and only if the monitor knows it and it is due. -/
theorem isOverdue_run_iff (taken : start.outlet = none)
    (unheard : start.monitor.channel? tableId = none) {now : Nat}
    (sorted : (moments (Request.arrives tableId) (qs ++ [.check now]) start).Pairwise (· ≤ ·)) :
    (((run qs start).state.docket tableId).sweep now).isOverdue now = true ↔
      ((run qs start).state.docket tableId).channel.isSome ∧
        Due (Request.arrives tableId) start (qs ++ [.check now]) now := by
  have before := moments_concat (Request.arrives tableId) qs (.check now) start ▸ sorted
  obtain ⟨window, grace⟩ := settings_docket_run taken tableId qs
  cases hc : ((run qs start).state.docket tableId).channel with
  | none => simp [Docket.sweep, Docket.isOverdue, hc]
  | some c =>
    have informs := informs_run taken unheard (List.pairwise_append.mp before).1 hc
    obtain ⟨time, since, last, heard⟩ := informs_of_check sorted informs
    obtain ⟨earlier, all⟩ := last.moments
    have order : (passes since).Pairwise (· ≤ ·) :=
      (List.pairwise_cons.mp (List.pairwise_append.mp (all ▸ sorted)).2.1).2
    rw [Docket.isOverdue, Docket.sweep, hc, window, grace, Option.map_some, Option.any_some]
    refine (heard.isOverdue_iff order start.grace).trans ⟨?_, ?_⟩
    · rintro ⟨pass, made, late, ago⟩
      exact ⟨rfl, time, since, last, pass, mem_passes.mp made, late, ago⟩
    · rintro ⟨-, time', since', last', pass, made, late, ago⟩
      obtain ⟨rfl, rfl⟩ := last.unique last'
      exact ⟨pass, mem_passes.mpr made, late, ago⟩

/-! ### Removals -/

/-- The monitor knows a table. -/
def Tracks (tableId : TableId) (f : Floor) : Prop :=
  ∃ c, f.monitor.channel? tableId = some c

/-- A table is removed: the monitor knew it, and it forgets it, and the table is not open. -/
structure Removes (tableId : TableId) (f g : Floor) : Prop where
  /-- The monitor knew the table. -/
  tracked : f.Tracks tableId
  /-- It knows it no more. -/
  forgotten : ¬ g.Tracks tableId
  /-- The table is not open. -/
  closed : tableId ∉ g.openTables

/-- A table stays: it is open if it was, and the monitor knows it if it did. -/
structure Keeps (tableId : TableId) (f g : Floor) : Prop where
  /-- The monitor knows the table if it did before. -/
  tracks_iff : g.Tracks tableId ↔ f.Tracks tableId
  /-- The table is open if it was before. -/
  isOpen_iff : tableId ∈ g.openTables ↔ tableId ∈ f.openTables

theorem tracks_iff_docket {f : Floor} :
    f.Tracks tableId ↔ (f.docket tableId).channel.isSome = true :=
  Option.isSome_iff_exists.symm

theorem mem_openTables_iff_docket {f : Floor} :
    tableId ∈ f.openTables ↔ (f.docket tableId).isOpen = true := by
  rw [openTables, Std.TreeMap.mem_keys, Std.TreeMap.mem_iff_contains]
  rfl

section Checked

variable {now : Nat}

theorem removes_of_overdue (taken : start.outlet = none)
    (late : (((run qs start).state.docket tableId).sweep now).isOverdue now = true) :
    Removes tableId (run qs start).state (run (qs ++ [.check now]) start).state := by
  have checked := docket_run_concat taken tableId qs (.check now)
  rw [Docket.step, if_pos late] at checked
  refine ⟨?_, ?_, ?_⟩
  · rw [tracks_iff_docket]
    cases hc : ((run qs start).state.docket tableId).channel with
    | none => simp [Docket.sweep, Docket.isOverdue, hc] at late
    | some c => rfl
  · simp [tracks_iff_docket, checked, Docket.remove]
  · simp [mem_openTables_iff_docket, checked, Docket.remove]

theorem keeps_of_not_overdue (taken : start.outlet = none)
    (early : ¬ (((run qs start).state.docket tableId).sweep now).isOverdue now = true) :
    Keeps tableId (run qs start).state (run (qs ++ [.check now]) start).state := by
  have checked := docket_run_concat taken tableId qs (.check now)
  rw [Docket.step, if_neg early] at checked
  refine ⟨?_, ?_⟩
  · simp [tracks_iff_docket, checked, Docket.sweep]
  · simp [mem_openTables_iff_docket, checked, Docket.sweep]

end Checked

/-- **A check of health removes just the tables that are due**, whatever was asked before, as long as
nothing arrives or is checked for an earlier time than something before it. A table that is not
removed stays as it is. And the monitor knows every table that is open, so that none of them escapes
removal. -/
theorem removes_iff_due (s : Settings) (calendar : Nat → UtcTime) :
    (∀ (qs : List Request) (tableId : TableId) (now : Nat),
      (moments (Request.arrives tableId) (qs ++ [.check now]) (opened s calendar)).Pairwise
        (· ≤ ·) →
      (Removes tableId (run qs (opened s calendar)).state
          (run (qs ++ [.check now]) (opened s calendar)).state ↔
        (run qs (opened s calendar)).state.Tracks tableId ∧
          Due (Request.arrives tableId) (opened s calendar) (qs ++ [.check now]) now) ∧
      (Removes tableId (run qs (opened s calendar)).state
          (run (qs ++ [.check now]) (opened s calendar)).state ∨
        Keeps tableId (run qs (opened s calendar)).state
          (run (qs ++ [.check now]) (opened s calendar)).state)) ∧
    ∀ (qs : List Request) (tableId : TableId),
      tableId ∈ (run qs (opened s calendar)).state.openTables →
      (run qs (opened s calendar)).state.Tracks tableId := by
  have taken : (opened s calendar).outlet = none := rfl
  refine ⟨fun qs tableId now sorted => ?_, fun qs tableId isOpen => ?_⟩
  · have unheard : (opened s calendar).monitor.channel? tableId = none := by
      simp [opened, Monitor.start, Monitor.channel?]
    rw [tracks_iff_docket, ← isOverdue_run_iff taken unheard sorted]
    by_cases late : (((run qs (opened s calendar)).state.docket tableId).sweep now).isOverdue now
    · have removed := removes_of_overdue taken late
      exact ⟨⟨fun _ => late, fun _ => removed⟩, .inl removed⟩
    · have kept := keeps_of_not_overdue taken late
      refine ⟨⟨fun removed => ?_, fun late' => absurd late' late⟩, .inr kept⟩
      exact absurd (kept.tracks_iff.mpr removed.tracked) removed.forgotten
  · rw [mem_openTables_iff_docket] at isOpen
    exact tracks_iff_docket.mpr (tracked_docket_run taken (by simp [docket, opened]) qs isOpen)

/-! ### A refused observation -/

/-- An observation of the video that is refused. -/
def blurred : Sighting :=
  { tableId := "T1", handNumber := 7, category := none, confidence := 1.5, observedAt := .epoch }

/-- A table falls silent, but for an observation that is refused. -/
def fallsSilent : List Request :=
  [.hand reading, .advance 2000, .check 2000, .sighting blurred, .advance 1000]

/-- A floor on which tables may stay disconnected for a second. -/
def strictFloor : Floor :=
  opened { Settings.usual 1000 2000 with disconnectGrace := 1000 } fun _ => .epoch

/-- The table is removed a second after it was found silent. -/
theorem removes_of_fallsSilent :
    (moments (Request.arrives "T1") (fallsSilent ++ [.check 3000]) strictFloor).Pairwise (· ≤ ·) ∧
    Due (Request.arrives "T1") strictFloor (fallsSilent ++ [.check 3000]) 3000 ∧
    Removes "T1" (run fallsSilent strictFloor).state
      (run (fallsSilent ++ [.check 3000]) strictFloor).state := by
  have sorted : (moments (Request.arrives "T1") (fallsSilent ++ [.check 3000])
      strictFloor).Pairwise (· ≤ ·) := by decide +kernel
  have due : Due (Request.arrives "T1") strictFloor (fallsSilent ++ [.check 3000]) 3000 := by
    refine ⟨0, _, ⟨[], .hand reading, rfl, rfl, by decide, rfl⟩, 2000, by simp, ?_, ?_⟩
    · exact Nat.le_refl 2000
    · exact Nat.le_refl 1000
  have tracked : (run fallsSilent strictFloor).state.Tracks "T1" :=
    Option.isSome_iff_exists.mp (by decide +kernel)
  exact ⟨sorted, due, (((removes_iff_due _ _).1 _ _ _ sorted).1).mpr ⟨tracked, due⟩⟩

/-- Something is submitted for a table, whether it is refused or not, or a source of it is heard. -/
def Request.approaches (tableId : TableId) : Request → Bool
  | hand r => r.tableId == tableId
  | sighting r => r.tableId == tableId
  | hear heard _ => heard == tableId
  | _ => false

/-- **An observation that is refused does not put a removal off**, which it would if it counted as an
arrival. -/
theorem refused_is_no_arrival :
    ¬ ∀ (s : Settings) (calendar : Nat → UtcTime) (qs : List Request) (tableId : TableId)
      (now : Nat),
      (moments (Request.approaches tableId) (qs ++ [.check now]) (opened s calendar)).Pairwise
        (· ≤ ·) →
      (Removes tableId (run qs (opened s calendar)).state
          (run (qs ++ [.check now]) (opened s calendar)).state ↔
        (run qs (opened s calendar)).state.Tracks tableId ∧
          Due (Request.approaches tableId) (opened s calendar) (qs ++ [.check now]) now) := by
  intro claimed
  have sorted : (moments (Request.approaches "T1") (fallsSilent ++ [.check 3000])
      strictFloor).Pairwise (· ≤ ·) := by decide +kernel
  have late : (((run fallsSilent strictFloor).state.docket "T1").sweep 3000).isOverdue 3000 =
      true := by decide +kernel
  have removed := removes_of_overdue rfl late
  obtain ⟨-, time, since, last, pass, made, window, -⟩ :=
    (claimed _ _ fallsSilent "T1" 3000 sorted).mp removed
  -- as it is claimed, the refused observation was the last arrival
  have refused : LastArrival (Request.approaches "T1") strictFloor (fallsSilent ++ [.check 3000])
      2000 [.advance 1000, .check 3000] :=
    ⟨[.hand reading, .advance 2000, .check 2000], .sighting blurred, rfl, rfl, by decide,
      by decide +kernel⟩
  obtain ⟨rfl, rfl⟩ := refused.unique last
  obtain rfl : pass = 3000 := by simpa using made
  have window : 2000 ≤ 3000 - 2000 := window
  omega

end Floor

end Showdown
