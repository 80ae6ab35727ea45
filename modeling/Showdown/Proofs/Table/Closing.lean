import Showdown.Proofs.Monitor
import Showdown.Proofs.Table.Accounts
import Showdown.Proofs.Table.Fate
import Showdown.Proofs.Table.Invariant
import Showdown.Proofs.Table.Liveness

/-!
# Hands that are given up

Hands are given up by a table that is shut down, and in no other way (`resolution_ne_shutdown`); if
no hand waits, then none is given up either (`results_shutdown`). Only an observation makes a hand
wait (`not_pending_handle`), and at a table that has been told that both of its sources are silent
no hand waits at all (`Invariant.not_pending_of_disconnected`).
-/

namespace Showdown.Table

variable {t : Table} {m : Message}

theorem mem_resultsOf {r : FusedHand} {out : List Output} (h : r ∈ results out) :
    r ∈ resultsOf r.handNumber out :=
  List.mem_filter.mpr ⟨h, by simp⟩

/-- A result of a resolved hand tells how it was resolved. -/
theorem resolution_fuse (t : Table) (hand : HandNumber) (p : Pending) (resolution : Resolution) :
    (t.fuse hand p resolution).resolution = resolution :=
  Policy.resolution_decide ..

/-- **No hand is given up by a table that goes on.** -/
theorem resolution_ne_shutdown (goesOn : m ≠ .shutdown) {r : FusedHand}
    (h : r ∈ results (t.handle m).out) : r.resolution ≠ .shutdown := by
  have own := mem_resultsOf h
  cases fate_take r.handNumber (.message m) t with
  | spared _ _ _ stands | late _ _ _ stands =>
    rw [take] at stands
    simp [stands.unresolved] at own
  | opened _ _ _ _ _ _ unresolved _ _ | replaced _ _ _ _ unresolved _ =>
    rw [take] at unresolved
    simp [unresolved] at own
  | cut _ _ _ _ goes =>
    rw [take] at goes
    rw [goes.results, List.mem_singleton] at own
    rw [own, resolution_fuse]
    exact Resolution.noConfusion
  | resolved _ cause goes =>
    rw [take] at goes
    rw [goes.results, List.mem_singleton] at own
    rw [own, resolution_fuse]
    cases cause <;> exact Resolution.noConfusion
  | givenUp _ ends _ =>
    cases m
    case shutdown => exact absurd rfl goesOn
    all_goals cases ends

/-- A table at which no hand waits is shut down without a result. -/
theorem results_shutdown (idle : ∀ hand : HandNumber, t.pending[hand]? = none) :
    results (t.handle .shutdown).out = [] := by
  refine List.eq_nil_iff_forall_not_mem.mpr fun r h => ?_
  have own := mem_resultsOf h
  cases fate_take r.handNumber (.message .shutdown) t with
  | spared _ _ _ stands =>
    rw [take] at stands
    simp [stands.unresolved] at own
  | late observed _ _ _ | opened observed _ _ _ _ _ _ _ _ | cut observed _ _ _ _
  | replaced observed _ _ _ _ _ => cases observed
  | resolved waited _ _ | givenUp waited _ _ => simp [idle] at waited

/-- Only an observation of a hand makes it wait. -/
theorem not_pending_handle (unobserved : m.observed? = none) {hand : HandNumber}
    (closed : t.pending[hand]? = none) : (t.handle m).state.pending[hand]? = none := by
  have none_arrives : (Turn.message m).source? hand = none := by
    cases m <;> first | rfl | cases unobserved
  have fate := fate_take hand (.message m) t
  rw [take] at fate
  cases fate with
  | spared _ _ _ stands => exact stands.pending.trans closed
  | late _ _ _ stands => exact stands.pending.trans closed
  | opened observed _ _ _ _ _ _ _ _ | cut observed _ _ _ _ | replaced observed _ _ _ _ _ =>
    rw [none_arrives] at observed
    cases observed
  | resolved _ _ goes | givenUp _ _ goes => exact goes.gone

/-- Every waiting hand waits for a source that delivers, as far as the table was told. -/
theorem Invariant.not_pending_of_disconnected {out : List Output} (i : Invariant t out)
    (silent : t.status = .disconnected) (hand : HandNumber) : t.pending[hand]? = none := by
  obtain ⟨primary, secondary⟩ : t.primary = .stale ∧ t.secondary = .stale :=
    Status.ofLiveness_inj (silent : Status.ofLiveness _ _ = .ofLiveness .stale .stale)
  refine Option.eq_none_iff_forall_ne_some.mpr fun p hp => ?_
  obtain ⟨source, -, fresh⟩ := (i.waits hand p hp).awaited
  cases source with
  | primary => simp [liveness, primary] at fresh
  | secondary => simp [liveness, secondary] at fresh

end Showdown.Table
