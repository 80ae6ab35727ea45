import Showdown.Proofs.Health.Calls

/-!
# What the monitor reports

The changes of a table that are reported since it was last forgotten lead from health to the status
that the table has now: each begins where the one before it ended. So every change of the status is
reported by the call that brings it about, and once. The liveness of both sources that a change
names is that of the status it ends in. All this holds whatever the times of the calls are
(`reports_each_change_once`).

A sweep reports the tables in order and each of them at most once, and another one at the same time
has nothing to report (`sorted_sweep`, `sweep_again`).
-/

namespace Showdown

/-! ### One sweep -/

/-- Nothing else is found out by doing so again at the same time. -/
theorem Channel.reassess_reassess (c : Channel) (window now : Nat) :
    (c.reassess window now).reassess window now = c.reassess window now := by
  have feed (f : Feed) : (f.reassess window c.registeredAt now).reassess window c.registeredAt now =
      f.reassess window c.registeredAt now := rfl
  simp only [reassess, feed]
  split <;> rfl

/-- What stays as it is does not change. -/
theorem Channel.change?_self (tableId : TableId) (c : Channel) : change? tableId c c = none :=
  if_pos rfl

namespace Monitor

/-- **A sweep reports the tables in order, and each of them at most once.** -/
theorem sorted_sweep (m : Monitor) (now : Nat) :
    ((m.sweep now).2.map StatusChange.tableId).Pairwise (· < ·) := by
  rw [sweep, List.pairwise_map, List.pairwise_filterMap]
  refine Std.TreeMap.ordered_keys_toList.imp fun before c hc d hd => ?_
  rw [Channel.tableId_of_change hc, Channel.tableId_of_change hd]
  exact compareOfLessAndEq_eq_lt.mp before

/-- **A sweep leaves nothing to be found by another one at the same time.** -/
theorem sweep_again (m : Monitor) (now : Nat) : ((m.sweep now).1.sweep now).2 = [] := by
  refine List.eq_nil_iff_forall_not_mem.mpr fun change reported => ?_
  have found : change ∈ ((m.sweep now).1.found? now change.tableId).toList := by
    rw [← filter_sweep]
    simpa using reported
  rw [found?, channel?_sweep, window_sweep] at found
  cases known : m.channel? change.tableId with
  | none => simp [known] at found
  | some c => simp [known, Channel.reassess_reassess, Channel.change?_self] at found

/-! ### One call -/

section Call

variable {m : Monitor} {tableId : TableId} {call : Call}

/-- A table is known until it is forgotten. -/
theorem channel?_eq_none_of_act (stays : call ≠ .forget tableId)
    (h : (act call m).state.channel? tableId = none) : m.channel? tableId = none := by
  cases call with
  | observe observed source now =>
    by_cases own : observed = tableId
    · subst own
      simp [act, channel?_observe] at h
    · rwa [act, channel?_observe_of_ne m (Ne.symm own)] at h
  | sweep now => simpa [act, channel?_sweep] using h
  | forget forgotten =>
    have other : tableId ≠ forgotten := fun same => stays (same ▸ rfl)
    rwa [act, Emission.state_quiet, channel?_forget_of_ne m other] at h

/-- Of a table a call reports the change from what was known of it before to what is known of it
after. A table that is heard of for the first time was healthy before. -/
theorem filter_act (stays : call ≠ .forget tableId) :
    (act call m).out.filter (fun c => c.tableId == tableId) =
      ((act call m).state.channel? tableId).elim [] fun after =>
        (Channel.change? tableId ((m.channel? tableId).getD (.firstHeard 0)) after).toList := by
  -- where the table keeps what is known of it, there is nothing to report
  have nothing : ((m.channel? tableId).elim [] fun after =>
      (Channel.change? tableId ((m.channel? tableId).getD (.firstHeard 0)) after).toList) = [] := by
    cases m.channel? tableId with
    | none => rfl
    | some c => simp [Channel.change?_self]
  cases call with
  | observe observed source now =>
    by_cases own : observed = tableId
    · subst own
      have all : (m.observe observed source now).2.toList.filter (fun c => c.tableId == observed) =
          (m.observe observed source now).2.toList :=
        List.filter_eq_self.mpr fun c hc => by
          simpa using tableId_of_observe (Option.mem_toList.mp hc)
      simp only [act]
      rw [all, change_observe, channel?_observe]
      cases m.channel? observed <;> rfl
    · have others : (m.observe observed source now).2.toList.filter
          (fun c => c.tableId == tableId) = [] :=
        List.filter_eq_nil_iff.mpr fun c hc => by
          simpa [tableId_of_observe (Option.mem_toList.mp hc)] using own
      simp only [act]
      rw [others, channel?_observe_of_ne m (Ne.symm own), nothing]
  | sweep now =>
    simp only [act]
    rw [filter_sweep, found?, channel?_sweep]
    cases m.channel? tableId <;> rfl
  | forget forgotten =>
    have other : tableId ≠ forgotten := fun same => stays (same ▸ rfl)
    simp only [act, Emission.state_quiet, Emission.out_quiet]
    rw [channel?_forget_of_ne m other, nothing]
    rfl

end Call

/-! ### Reports of calls -/

section Reports

variable (window : Nat) {tableId : TableId} {calls : List Call} {call : Call}

/-- The changes of a table that were reported since it was last forgotten, in order. -/
def reports (tableId : TableId) (calls : List Call) : List StatusChange :=
  let before := calls.rdropWhile fun call => call ≠ .forget tableId
  let since := calls.rtakeWhile fun call => call ≠ .forget tableId
  (run since (run before (start window)).state).out.filter fun c => c.tableId == tableId

theorem reports_forget : reports window tableId (calls ++ [.forget tableId]) = [] := by
  rw [reports, List.rtakeWhile_concat_neg _ _ _ (by simp)]
  rfl

theorem reports_concat (stays : call ≠ .forget tableId) :
    reports window tableId (calls ++ [call]) =
      reports window tableId calls ++
        (act call (run calls (start window)).state).out.filter fun c => c.tableId == tableId := by
  have all : (run (calls.rtakeWhile fun call => call ≠ .forget tableId)
      (run (calls.rdropWhile fun call => call ≠ .forget tableId) (start window)).state).state =
        (run calls (start window)).state := by
    conv => rhs; rw [← List.rdropWhile_append_rtakeWhile (l := calls)
      (p := fun call => call ≠ .forget tableId), run, Emission.forEach_append]
    rfl
  rw [reports, List.rtakeWhile_concat_pos _ _ _ (by simpa using stays),
    List.rdropWhile_concat_pos _ _ _ (by simpa using stays), run_concat, Emission.out_andThen,
    List.filter_append, all]
  rfl

/-- Of a table that is not known nothing was reported. -/
theorem reports_of_unknown (calls : List Call)
    (unknown : (run calls (start window)).state.channel? tableId = none) :
    reports window tableId calls = [] := by
  induction calls using List.reverseRecOn with
  | nil => rfl
  | append_singleton calls call ih =>
    by_cases forgotten : call = .forget tableId
    · rw [forgotten, reports_forget]
    · rw [run_concat, Emission.state_andThen] at unknown
      rw [reports_concat window forgotten, ih (channel?_eq_none_of_act forgotten unknown),
        filter_act forgotten, unknown]
      rfl

/-- **What was reported of a table leads from health to its status.** -/
theorem leads_reports (calls : List Call) {c : Channel}
    (known : (run calls (start window)).state.channel? tableId = some c) :
    Status.Leads .healthy (reports window tableId calls) c.status := by
  induction calls using List.reverseRecOn generalizing c with
  | nil => simp [run, start, channel?] at known
  | append_singleton calls call ih =>
    rw [run_concat, Emission.state_andThen] at known
    by_cases forgotten : call = .forget tableId
    · subst forgotten
      simp [act, channel?_forget] at known
    · rw [reports_concat window forgotten, filter_act forgotten, known]
      refine Status.Leads.append ?_ (Status.leads_change tableId _ c)
      cases before : (run calls (start window)).state.channel? tableId with
      | none =>
        rw [reports_of_unknown window calls before]
        rfl
      | some c' => exact ih before

/-- A change that was reported ends in the status that the livenesses it names give. -/
theorem after_of_mem_reports (calls : List Call) {change : StatusChange}
    (reported : change ∈ reports window tableId calls) :
    Status.ofLiveness change.primary change.secondary = change.after := by
  induction calls using List.reverseRecOn with
  | nil => simp [reports, run] at reported
  | append_singleton calls call ih =>
    by_cases forgotten : call = .forget tableId
    · simp [forgotten, reports_forget] at reported
    · rw [reports_concat window forgotten, List.mem_append] at reported
      rcases reported with earlier | now
      · exact ih earlier
      · rw [filter_act forgotten] at now
        cases known : (act call (run calls (start window)).state).state.channel? tableId with
        | none => simp [known] at now
        | some c => exact Channel.after_of_change (by simpa [known] using now)

end Reports

/-- **The monitor reports every change of status once.** Whatever the times of the calls, the changes
of a table that were reported since it was last forgotten lead from health to its status now, each
beginning where the one before it ended and none ending where it began, and each ends in the status
that the livenesses it names give. A sweep reports the tables in order and each of them at most once,
and a second sweep at the same time reports nothing. -/
theorem reports_each_change_once (window : Nat) (calls : List Call) (tableId : TableId) :
    (∀ c, (run calls (start window)).state.channel? tableId = some c →
      Status.Leads .healthy (reports window tableId calls) c.status) ∧
    ((run calls (start window)).state.channel? tableId = none →
      reports window tableId calls = []) ∧
    (∀ change ∈ reports window tableId calls,
      Status.ofLiveness change.primary change.secondary = change.after) ∧
    ∀ now, (((run calls (start window)).state.sweep now).2.map StatusChange.tableId).Pairwise
        (· < ·) ∧
      (((run calls (start window)).state.sweep now).1.sweep now).2 = [] :=
  ⟨fun _ known => leads_reports window calls known, reports_of_unknown window calls,
    fun _ reported => after_of_mem_reports window calls reported,
    fun now => ⟨sorted_sweep _ now, sweep_again _ now⟩⟩

/-- A table falls silent, is forgotten, is heard of again, falls silent again and is revived by the
other source. What happened before it was forgotten does not belong to the history. -/
theorem reports_each_change_once_of_revival :
    let calls : List Call := [.observe "t" .primary 0, .sweep 5, .forget "t",
      .observe "t" .primary 6, .sweep 9, .observe "t" .secondary 10]
    reports 3 "t" calls = [⟨"t", .healthy, .disconnected, .stale, .stale⟩,
      ⟨"t", .disconnected, .degraded .primary, .stale, .fresh⟩] ∧
    ∃ c, (run calls (start 3)).state.channel? "t" = some c ∧ c.status = .degraded .primary ∧
      Status.Leads .healthy (reports 3 "t" calls) c.status := by
  intro calls
  obtain ⟨leads, -, -, -⟩ := reports_each_change_once 3 calls "t"
  have known : (run calls (start 3)).state.channel? "t" =
      some ⟨⟨.stale, some 6⟩, ⟨.fresh, some 10⟩, 6, none⟩ := by
    rw [channel?_run]
    decide
  refine ⟨by decide, _, known, rfl, leads _ known⟩

end Monitor

end Showdown
