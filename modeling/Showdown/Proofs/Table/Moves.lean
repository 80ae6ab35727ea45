import Showdown.Proofs.Chain
import Showdown.Proofs.Lookup
import Showdown.Proofs.Table.Steps

/-!
# Messages as sequences of moves

Whatever a message makes a table do is a sequence of moves of two kinds: a waiting hand leaves with
a result, or no hand leaves and no result is handed on (`moves_handle`). So what is to be said about
results, counters and remembered hands has to be checked for these two moves only (`Moves.keeps`).
-/

namespace Showdown.Table

/-- A move at which no hand leaves. -/
structure Stays (t : Table) (e : Emission Table Output) : Prop where
  /-- It is still the same table. -/
  tableId : e.state.tableId = t.tableId
  /-- It is tuned as before. -/
  settings : e.state.settings = t.settings
  /-- The same hands are remembered. -/
  history : e.state.history = t.history
  /-- Nothing is counted. -/
  tally : e.state.tally = t.tally
  /-- The streak of disagreement stays as it is. -/
  streak : e.state.streak = t.streak
  /-- No result is handed on, and nothing else of note comes of it. -/
  idle : Idle e.out
  /-- Nothing is published. -/
  unpublished : published e.out = []
  /-- A hand that waited still waits. -/
  still : ∀ hand : HandNumber, t.pending[hand]?.isSome → e.state.pending[hand]?.isSome
  /-- A hand that did not wait before is not one remembered. -/
  opened : ∀ hand : HandNumber, e.state.pending[hand]?.isSome →
    t.pending[hand]?.isSome ∨ t.history.contains hand = false

/-- A move of a table. -/
inductive Move (t : Table) (e : Emission Table Output) : Prop where
  /-- No hand leaves. -/
  | stay (s : Stays t e)
  /-- A waiting hand leaves. -/
  | leave {hand : HandNumber} {p : Pending} {r : FusedHand} (hp : t.pending[hand]? = some p)
    (l : Leaves hand p r t e)

/-- A finite sequence of moves. -/
abbrev Moves : Table → Emission Table Output → Prop := Chain Move

/-- What moves of both kinds keep, any sequence of moves keeps. -/
theorem Moves.keeps {P : Table → List Output → Prop}
    (stay : ∀ {t : Table} {e : Emission Table Output} {out : List Output},
      Stays t e → P t out → P e.state (out ++ e.out))
    (leave : ∀ {t : Table} {hand : HandNumber} {p : Pending} {r : FusedHand}
      {e : Emission Table Output} {out : List Output},
      t.pending[hand]? = some p → Leaves hand p r t e → P t out → P e.state (out ++ e.out))
    {t : Table} {e : Emission Table Output} (m : Moves t e) {out : List Output} (h : P t out) :
    P e.state (out ++ e.out) := by
  refine Chain.keeps (fun move h => ?_) m h
  cases move with
  | stay s => exact stay s h
  | leave hp l => exact leave hp l h

theorem Moves.ensures {P : Table → List Output → Prop}
    (stay : ∀ {t : Table} {e : Emission Table Output} {out : List Output},
      Stays t e → P t out → P e.state (out ++ e.out))
    (leave : ∀ {t : Table} {hand : HandNumber} {p : Pending} {r : FusedHand}
      {e : Emission Table Output} {out : List Output},
      t.pending[hand]? = some p → Leaves hand p r t e → P t out → P e.state (out ++ e.out))
    {t : Table} {e : Emission Table Output} (m : Moves t e) (h : P t []) : P e.state e.out :=
  Moves.keeps stay leave m h

/-! ### Every message is a sequence of moves -/

theorem Idle.stays {out : List Output} (h : Idle out) (unpublished : published out = [])
    (t : Table) : Stays t ⟨t, out⟩ :=
  ⟨rfl, rfl, rfl, rfl, rfl, h, unpublished, fun _ h => h, fun _ h => .inl h⟩

theorem Stays.moves {t : Table} {e : Emission Table Output} (s : Stays t e) : Moves t e :=
  .single (.stay s)

/-- An observation is put down for a hand that waits or that is not remembered. -/
theorem stays_insert {t : Table} {hand : HandNumber} (generation : Nat) (q : Pending)
    {out : List Output} (idle : Idle out) (unpublished : published out = [])
    (known : t.pending[hand]?.isSome ∨ t.history.contains hand = false) :
    Stays t ⟨{ t with generation := generation, pending := t.pending.insert hand q }, out⟩ := by
  refine ⟨rfl, rfl, rfl, rfl, rfl, idle, unpublished, fun k hk => ?_, fun k hk => ?_⟩
  · by_cases h : k = hand
    · simp [h]
    · simpa [getElem?_insert_of_ne _ h] using hk
  · by_cases h : k = hand
    · rwa [h]
    · exact .inl (by simpa [getElem?_insert_of_ne _ h] using hk)

theorem moves_resolve (resolution : Resolution) (hand : HandNumber) (t : Table) :
    Moves t (t.resolve resolution hand) := by
  cases hp : t.pending[hand]? with
  | none => rw [resolve_of_not_pending hp]; exact .refl t
  | some p => exact .single (.leave hp (resolve_leaves hp resolution))

theorem moves_giveUp (hand : HandNumber) (t : Table) : Moves t (t.giveUp hand) := by
  cases hp : t.pending[hand]? with
  | none => rw [giveUp_of_not_pending hp]; exact .refl t
  | some p => exact .single (.leave hp (giveUp_leaves hp))

theorem Observed.moves {t : Table} {hand : HandNumber} {e : Emission Table Output}
    (o : Observed hand t e) : Moves t e := by
  cases o with
  | late source => exact (Idle.stays (by rfl) rfl t).moves
  | opened unknown q source => exact (stays_insert _ q (by rfl) rfl (.inr unknown)).moves
  | cut unknown q source =>
    exact .head (e := ⟨_, [noted _]⟩) (.stay (stays_insert _ q (by rfl) rfl (.inr unknown)))
      (moves_resolve ..)
  | held waits q source => exact (stays_insert _ q (by rfl) rfl (.inl waits)).moves
  | matched waits q =>
    exact .head (e := ⟨_, []⟩) (.stay (stays_insert _ q (by rfl) rfl (.inl waits)))
      (moves_resolve ..)

theorem moves_expire (hand : HandNumber) (generation : Nat) (t : Table) :
    Moves t (t.expire hand generation) := by
  unfold expire
  split
  · exact moves_resolve ..
  · exact (Idle.stays (by rfl) rfl t).moves

theorem moves_hearHealth (primary secondary : Liveness) (t : Table) :
    Moves t (t.hearHealth primary secondary) :=
  .head (e := ⟨{ t with primary := primary, secondary := secondary }, []⟩)
    (.stay ⟨rfl, rfl, rfl, rfl, rfl, rfl, rfl, fun _ h => h, fun _ h => .inl h⟩)
    (.forEach (moves_resolve .sourceStale) _ _)

theorem moves_giveUpAll (t : Table) : Moves t t.giveUpAll := by
  refine .after (.stay (Idle.stays ?_ ?_ t)) (.forEach moves_giveUp t.pending.keys t)
  all_goals split <;> rfl

/-- **Every message is a sequence of moves.** -/
theorem moves_handle (m : Message) (t : Table) : Moves t (t.handle m) := by
  cases m with
  | primary | secondary => exact Observed.moves (observed_handle rfl t)
  | health primary secondary => exact moves_hearHealth primary secondary t
  | expired hand generation => exact moves_expire hand generation t
  | snapshot => exact (Idle.stays (by rfl) rfl t).moves
  | shutdown =>
    exact (moves_giveUpAll t).andThen (f := fun t => ⟨t, [.closed t.tally]⟩)
      (Idle.stays (by rfl) rfl _).moves

/-! ### What holds of every message -/

/-- After some moves it is still the same table. -/
theorem tableId_moves {t : Table} {e : Emission Table Output} (m : Moves t e) :
    e.state.tableId = t.tableId :=
  Moves.ensures (P := fun t' _ => t'.tableId = t.tableId) (fun s h => s.tableId.trans h)
    (fun _ l h => l.tableId.trans h) m rfl

/-- After some moves the table is tuned as before. -/
theorem settings_moves {t : Table} {e : Emission Table Output} (m : Moves t e) :
    e.state.settings = t.settings :=
  Moves.ensures (P := fun t' _ => t'.settings = t.settings) (fun s h => s.settings.trans h)
    (fun _ l h => l.settings.trans h) m rfl

theorem tableId_handle (m : Message) (t : Table) : (t.handle m).state.tableId = t.tableId :=
  tableId_moves (moves_handle m t)

/-- The results of a table are results for its hands. -/
theorem tableId_of_mem_results (m : Message) (t : Table) :
    ∀ r ∈ results (t.handle m).out, r.tableId = t.tableId := by
  refine (Moves.ensures (P := fun t' out => t'.tableId = t.tableId ∧
    ∀ r ∈ results out, r.tableId = t.tableId) (fun s h => ⟨s.tableId.trans h.1, ?_⟩)
    (fun {_ _ _ r _ _} _ l h => ⟨l.tableId.trans h.1, ?_⟩) (moves_handle m t)
    ⟨rfl, by simp⟩).2
  · rw [results_append, s.idle.results, List.append_nil]
    exact h.2
  · have own : r.tableId = t.tableId := (congrArg HandId.tableId l.id).trans h.1
    rw [results_append, l.results]
    simpa [or_imp, forall_and, own] using h.2

/-- Apart from results, nothing of note comes of a message. -/
theorem onlyFused_handle (m : Message) (t : Table) :
    Effect.OnlyFused ((t.handle m).out.filterMap Output.effect?) := by
  refine Moves.ensures (P := fun _ out => Effect.OnlyFused (out.filterMap Output.effect?))
    (fun s h => ?_) (fun _ l h => ?_) (moves_handle m t) Effect.onlyFused_nil
  · rw [List.filterMap_append]
    exact h.append s.idle.onlyFused
  · rw [List.filterMap_append]
    exact h.append l.onlyFused

/-- Every result is counted. -/
theorem tally_handle (m : Message) (t : Table) :
    (t.handle m).state.tally = (results (t.handle m).out).foldl Tally.add t.tally := by
  refine Moves.ensures (P := fun t' out => t'.tally = (results out).foldl Tally.add t.tally)
    (fun s h => ?_) (fun _ l h => ?_) (moves_handle m t) rfl
  · rw [s.tally, h, results_append, s.idle.results, List.append_nil]
  · rw [l.tally, h, results_append, l.results, List.foldl_append]
    rfl

end Showdown.Table
