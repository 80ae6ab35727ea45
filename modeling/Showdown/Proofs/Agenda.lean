import Showdown.Proofs.Table.Steps
import Mathlib.Data.List.Basic

/-!
# The order of the agenda

The agenda lists timers in the order in which they run out, whatever is started and stopped
(`Ordered.heed`). In an agenda that is in order, the timers of one table stand as they would if
there were no others: starting or stopping one of them does the same with and without the others
(`ofTable_start_of_own`, `ofTable_stop`).
-/

namespace Showdown.Agenda

/-! ### Order -/

/-- The timers are in the order in which they run out. -/
def Ordered (a : Agenda) : Prop :=
  a.timers.Pairwise fun t u => t.due ≤ u.due

theorem ordered_empty : empty.Ordered := List.Pairwise.nil

theorem place_eq_cons {t : Timer} {ts : List Timer} (first : ∀ u ∈ ts, t.due < u.due) :
    place t ts = t :: ts := by
  cases ts with
  | nil => rfl
  | cons u us => simp [place, first u List.mem_cons_self]

theorem pairwise_place (t : Timer) {ts : List Timer} (h : ts.Pairwise fun u v => u.due ≤ v.due) :
    (place t ts).Pairwise fun u v => u.due ≤ v.due := by
  induction ts with
  | nil => simp [place]
  | cons u us ih =>
    obtain ⟨head, tail⟩ := List.pairwise_cons.mp h
    by_cases earlier : t.due < u.due
    · rw [place, if_pos earlier, List.pairwise_cons]
      refine ⟨fun v hv => ?_, h⟩
      rcases List.mem_cons.mp hv with rfl | hv
      · exact Nat.le_of_lt earlier
      · exact Nat.le_trans (Nat.le_of_lt earlier) (head v hv)
    · rw [place, if_neg earlier, List.pairwise_cons]
      refine ⟨fun v hv => ?_, ih tail⟩
      rcases (mem_place t v us).mp hv with rfl | hv
      · exact Nat.le_of_not_lt earlier
      · exact head v hv

theorem Ordered.start {a : Agenda} (h : a.Ordered) (t : Timer) : (a.start t).Ordered :=
  pairwise_place t h

theorem Ordered.stop {a : Agenda} (h : a.Ordered) (key : TimerKey) : (a.stop key).Ordered :=
  h.filter _

theorem Ordered.heed {a : Agenda} (h : a.Ordered) (due : Nat) (out : List Table.Output) :
    (out.foldl (Agenda.heed due) a).Ordered := by
  induction out generalizing a with
  | nil => exact h
  | cons o out ih =>
    refine ih ?_
    cases o with
    | startTimer key => exact h.start _
    | stopTimer key => exact h.stop key
    | effect | snapshot | closed => exact h

/-- Of an ordered list, some timers stand as they would without the others. -/
theorem filter_place (p : Timer → Bool) (t : Timer) {ts : List Timer}
    (h : ts.Pairwise fun u v => u.due ≤ v.due) :
    (place t ts).filter p = if p t then place t (ts.filter p) else ts.filter p := by
  induction ts with
  | nil => simp [place, List.filter_cons]
  | cons u us ih =>
    obtain ⟨head, tail⟩ := List.pairwise_cons.mp h
    by_cases earlier : t.due < u.due
    · have first : ∀ v ∈ (u :: us).filter p, t.due < v.due := by
        intro v hv
        rcases List.mem_cons.mp (List.mem_of_mem_filter hv) with rfl | hv
        · exact earlier
        · exact Nat.lt_of_lt_of_le earlier (head v hv)
      rw [place, if_pos earlier, List.filter_cons, place_eq_cons first]
    · rw [place, if_neg earlier, List.filter_cons, ih tail, List.filter_cons]
      by_cases hu : p u
      · simp only [hu, ↓reduceIte]
        split
        · rw [place, if_neg earlier]
        · rfl
      · simp only [hu, Bool.false_eq_true, ↓reduceIte]

/-! ### Timers that run out -/

theorem mem_due {a : Agenda} {limit : Nat} {t : Timer} :
    t ∈ a.due limit ↔ t ∈ a.timers ∧ t.due ≤ limit := by
  simp [due]

theorem mem_dueBefore {a : Agenda} {limit : Nat} {t : Timer} :
    t ∈ a.dueBefore limit ↔ t ∈ a.timers ∧ t.due < limit := by
  simp [dueBefore]

/-! ### The timers of a table -/

/-- The timers of a table, in order. -/
def ofTable (a : Agenda) (tableId : TableId) : List Timer :=
  a.timers.filter fun t => t.key.tableId == tableId

theorem mem_ofTable {a : Agenda} {tableId : TableId} {t : Timer} :
    t ∈ a.ofTable tableId ↔ t ∈ a.timers ∧ t.key.tableId = tableId := by
  simp [ofTable]

theorem ofTable_start_of_own {a : Agenda} (h : a.Ordered) {tableId : TableId} {t : Timer}
    (own : t.key.tableId = tableId) :
    (a.start t).ofTable tableId = place t (a.ofTable tableId) := by
  rw [ofTable, start, filter_place _ _ h, if_pos (by simpa using own), ofTable]

theorem ofTable_start_of_ne {a : Agenda} (h : a.Ordered) {tableId : TableId} {t : Timer}
    (other : t.key.tableId ≠ tableId) : (a.start t).ofTable tableId = a.ofTable tableId := by
  rw [ofTable, start, filter_place _ _ h, if_neg (by simpa using other), ofTable]

theorem ofTable_stop (a : Agenda) (tableId : TableId) (key : TimerKey) :
    (a.stop key).ofTable tableId = (a.ofTable tableId).filter fun t => t.key != key := by
  rw [ofTable, stop, List.filter_comm, ofTable]

theorem ofTable_stop_of_ne (a : Agenda) {tableId : TableId} {key : TimerKey}
    (other : key.tableId ≠ tableId) : (a.stop key).ofTable tableId = a.ofTable tableId := by
  rw [ofTable_stop, List.filter_eq_self]
  intro t ht
  rw [bne_iff_ne]
  rintro rfl
  exact other (mem_ofTable.mp ht).2

theorem ofTable_due (a : Agenda) (tableId : TableId) (limit : Nat) :
    (a.due limit).filter (fun t => t.key.tableId == tableId) =
      (a.ofTable tableId).filter fun t => t.due ≤ limit := by
  rw [due, List.filter_comm, ofTable]

end Showdown.Agenda
