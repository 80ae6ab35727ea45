import Showdown.Proofs.Table.Moves
import Showdown.Health.Status

/-!
# Which sources a table takes to deliver

A table takes a source to deliver or not as it was told last, whatever else it has heard
(`liveness_handle`, `status_handle`).
-/

namespace Showdown

namespace Table

/-- The status of a table, as far as it was told. -/
def status (t : Table) : Status :=
  .ofLiveness t.primary t.secondary

theorem status_eq_ofLiveness (t : Table) :
    t.status = .ofLiveness (t.liveness .primary) (t.liveness .secondary) := rfl

theorem liveness_resolve (resolution : Resolution) (hand : HandNumber) (t : Table) :
    (t.resolve resolution hand).state.liveness = t.liveness := by
  cases hp : t.pending[hand]? with
  | none => rw [resolve_of_not_pending hp]; rfl
  | some p => exact (resolve_leaves hp resolution).liveness

theorem liveness_giveUp (hand : HandNumber) (t : Table) :
    (t.giveUp hand).state.liveness = t.liveness := by
  cases hp : t.pending[hand]? with
  | none => rw [giveUp_of_not_pending hp]; rfl
  | some p => exact (giveUp_leaves hp).liveness

/-- What no step changes, no number of steps changes. -/
theorem kept_forEach {α : Type} {part : Table → α} {f : HandNumber → Table → Emission Table Output}
    (h : ∀ hand t, part (f hand t).state = part t) (hands : List HandNumber) (t : Table) :
    part (Emission.forEach f hands t).state = part t := by
  induction hands generalizing t with
  | nil => rfl
  | cons hand hands ih => exact (ih _).trans (h hand t)

theorem Observed.liveness {t : Table} {hand : HandNumber} {e : Emission Table Output}
    (o : Observed hand t e) : e.state.liveness = t.liveness := by
  cases o with
  | late | opened | held => rfl
  | cut | matched => exact liveness_resolve ..

/-- What is said of the two sources, as a function of the source. -/
def told (primary secondary : Liveness) : Source → Liveness
  | .primary => primary
  | .secondary => secondary

/-- A table takes its sources to deliver or not as it is told, and from nothing else. -/
theorem liveness_handle (m : Message) (t : Table) : (t.handle m).state.liveness =
    match m with
    | .health primary secondary => told primary secondary
    | _ => t.liveness := by
  cases m with
  | primary | secondary => exact Observed.liveness (observed_handle rfl t)
  | health primary secondary =>
    refine (kept_forEach (liveness_resolve _) _ _).trans (funext fun source => ?_)
    cases source <;> rfl
  | expired hand generation =>
    simp only [handle, expire]
    split
    · exact liveness_resolve ..
    · rfl
  | snapshot => rfl
  | shutdown => exact kept_forEach liveness_giveUp _ _

/-- The status of a table after a message, if it was another one before. -/
def Message.tell (before : Status) : Message → Status
  | .health p s => .ofLiveness p s
  | _ => before

/-- A table takes its status from what it is told, and from nothing else. -/
theorem status_handle (m : Message) (t : Table) : (t.handle m).state.status = m.tell t.status := by
  have liveness := liveness_handle m t
  cases m with
  | health primary secondary =>
    rw [status_eq_ofLiveness, liveness]
    rfl
  | primary | secondary | expired | snapshot | shutdown =>
    rw [status_eq_ofLiveness, liveness]
    rfl

end Table

end Showdown
