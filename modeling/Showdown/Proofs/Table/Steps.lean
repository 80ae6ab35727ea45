import Showdown.Table

/-!
# What the steps of a table do

A hand can leave a table in two ways, resolved by the policy or given up, and both do the same to
the table: the hand no longer waits, its timer is stopped, the result is counted and handed on,
and the hand is remembered. `Leaves` says so once; `resolve_leaves` and `giveUp_leaves` are the
two ways. All that is proved of tables rests on these two lemmas and on the equations of
`openHand` and of observations, which `Observed` sums up, so that nothing else looks into how a hand
is resolved.

Observations of the card readers and of the video are handled in the same way. `observe` is this
way, with the source as an argument, and what is proved of observations is proved of it.
-/

namespace Showdown

/-! ### Running timers -/

namespace Agenda

/-- A timer for an opening is running. -/
def Runs (a : Agenda) (key : TimerKey) : Prop :=
  ∃ t ∈ a.timers, t.key = key

@[simp] theorem not_runs_empty (key : TimerKey) : ¬ empty.Runs key := by
  simp [Runs, empty]

theorem mem_place (t u : Timer) (ts : List Timer) : u ∈ place t ts ↔ u = t ∨ u ∈ ts := by
  induction ts with
  | nil => simp [place]
  | cons v vs ih =>
    by_cases h : t.due < v.due
    · simp [place, h]
    · simp [place, h, ih, or_left_comm]

theorem runs_start (a : Agenda) (t : Timer) (key : TimerKey) :
    (a.start t).Runs key ↔ key = t.key ∨ a.Runs key := by
  simp only [Runs, start, mem_place]
  constructor
  · rintro ⟨u, rfl | hu, rfl⟩
    · exact .inl rfl
    · exact .inr ⟨u, hu, rfl⟩
  · rintro (rfl | ⟨u, hu, rfl⟩)
    · exact ⟨t, .inl rfl, rfl⟩
    · exact ⟨u, .inr hu, rfl⟩

theorem runs_stop (a : Agenda) (stopped key : TimerKey) :
    (a.stop stopped).Runs key ↔ key ≠ stopped ∧ a.Runs key := by
  simp only [Runs, stop, List.mem_filter, bne_iff_ne]
  constructor
  · rintro ⟨u, ⟨hu, hne⟩, rfl⟩
    exact ⟨hne, u, hu, rfl⟩
  · rintro ⟨hne, u, hu, rfl⟩
    exact ⟨u, ⟨hu, hne⟩, rfl⟩

end Agenda

/-! ### Results -/

/-- The event tells of a result. -/
def Event.isVerdict : Event → Bool
  | graded .. | broadcastable .. => true
  | statusChanged _ | disagreement .. => false

namespace Effect

/-- The results among some effects, in order. -/
def fusedOf (out : List Effect) : List FusedHand :=
  out.filterMap Effect.fused?

@[simp] theorem fusedOf_append (out out' : List Effect) :
    fusedOf (out ++ out') = fusedOf out ++ fusedOf out' :=
  List.filterMap_append

/-- An effect that is no result, tells nothing of one, and does not say that a table was opened. -/
def isIdle : Effect → Bool
  | fused _ => false
  | event e => !e.isVerdict
  | note (.tableOpened _) => false
  | note _ => true

theorem fusedOf_of_idle {out : List Effect} (h : out.all isIdle = true) : fusedOf out = [] := by
  rw [List.all_eq_true] at h
  rw [fusedOf, List.filterMap_eq_nil_iff]
  intro x hx
  cases x with
  | fused r => exact absurd (h _ hx) Bool.false_ne_true
  | event | note => rfl

/-- All effects other than results are idle. -/
def OnlyFused (out : List Effect) : Prop :=
  ∀ e ∈ out, e.isIdle = true ∨ ∃ r, e = .fused r

theorem onlyFused_nil : OnlyFused [] := by
  simp [OnlyFused]

theorem OnlyFused.append {out out' : List Effect} (h : OnlyFused out) (h' : OnlyFused out') :
    OnlyFused (out ++ out') :=
  List.forall_mem_append.mpr ⟨h, h'⟩

theorem onlyFused_of_idle {out : List Effect} (h : out.all isIdle = true) : OnlyFused out :=
  fun e he => .inl (List.all_eq_true.mp h e he)

theorem OnlyFused.no_opening {out : List Effect} (h : OnlyFused out) (tableId : TableId) :
    note (.tableOpened tableId) ∉ out := by
  intro he
  rcases h _ he with idle | ⟨r, eq⟩
  · exact Bool.false_ne_true idle
  · cases eq

end Effect

theorem Policy.id_decide (policy : Policy) (hand : HandId) (primary : Option RankedHand)
    (secondary : Option Sighting) (resolution : Resolution) :
    (policy.decide hand primary secondary resolution).id = hand := by
  unfold decide
  split
  · rfl
  · split
    · split
      · split <;> rfl
      · rfl
    · rfl

theorem Policy.resolution_decide (policy : Policy) (hand : HandId) (primary : Option RankedHand)
    (secondary : Option Sighting) (resolution : Resolution) :
    (policy.decide hand primary secondary resolution).resolution = resolution := by
  unfold decide
  split
  · rfl
  · split
    · split
      · split <;> rfl
      · rfl
    · rfl

/-- The length of a streak of disagreement after one more outcome, in the word that counts it. -/
def Outcome.carry : Outcome → UInt32 → UInt32
  | .ambiguous, streak => streak + 1
  | .crossValidated, _ => 0
  | .primaryOnly, streak | .secondaryFallback, streak | .manualRequired, streak => streak

namespace Table

theorem timerKey_congr {t t' : Table} (h : t'.tableId = t.tableId) : t'.timerKey = t.timerKey := by
  funext hand generation
  rw [timerKey, h, timerKey]

/-- The results among some outputs, in order. -/
def results (out : List Output) : List FusedHand :=
  out.filterMap Output.fused?

@[simp] theorem results_nil : results [] = [] := rfl

@[simp] theorem results_append (out out' : List Output) :
    results (out ++ out') = results out ++ results out' :=
  List.filterMap_append

@[simp] theorem results_noted (n : Note) (out : List Output) :
    results (noted n :: out) = results out := rfl

@[simp] theorem results_fused (r : FusedHand) (out : List Output) :
    results (.effect (.fused r) :: out) = r :: results out := rfl

@[simp] theorem results_event (e : Event) (out : List Output) :
    results (.effect (.event e) :: out) = results out := rfl

@[simp] theorem results_startTimer (key : TimerKey) (out : List Output) :
    results (.startTimer key :: out) = results out := rfl

@[simp] theorem results_stopTimer (key : TimerKey) (out : List Output) :
    results (.stopTimer key :: out) = results out := rfl

@[simp] theorem results_snapshot (s : Snapshot) (out : List Output) :
    results (.snapshot s :: out) = results out := rfl

@[simp] theorem results_closed (s : Tally) (out : List Output) :
    results (.closed s :: out) = results out := rfl

theorem fusedOf_effects (out : List Output) :
    Effect.fusedOf (out.filterMap Output.effect?) = results out :=
  List.filterMap_filterMap

/-- The results and events among some outputs, in order. -/
def published (out : List Output) : List Effect :=
  (out.filterMap Output.effect?).filter fun e => e.note?.isNone

@[simp] theorem published_nil : published [] = [] := rfl

@[simp] theorem published_append (out out' : List Output) :
    published (out ++ out') = published out ++ published out' := by
  rw [published, List.filterMap_append, List.filter_append]
  rfl

/-- What is published of a result, given how long the streak of disagreement is with it: the result,
and in front of it the streak if the result is a disagreement with which it reaches its length. -/
def report (tableId : TableId) (threshold : UInt32) (streak : Nat) (r : FusedHand) : List Effect :=
  if r.outcome = .ambiguous ∧ streak = threshold.toNat then
    [.event (.disagreement tableId threshold), .fused r]
  else [.fused r]

/-- Outputs with no result among them, and nothing else of note. -/
def Idle (out : List Output) : Prop :=
  (out.filterMap Output.effect?).all Effect.isIdle = true

theorem Idle.results {out : List Output} (h : Idle out) : results out = [] := by
  rw [← fusedOf_effects]
  exact Effect.fusedOf_of_idle h

theorem Idle.onlyFused {out : List Output} (h : Idle out) :
    Effect.OnlyFused (out.filterMap Output.effect?) :=
  Effect.onlyFused_of_idle h

/-! ### Hands that leave -/

/-- A waiting hand leaves a table with a result, and this is all that happens. -/
structure Leaves (hand : HandNumber) (p : Pending) (r : FusedHand) (t : Table)
    (e : Emission Table Output) : Prop where
  /-- The result is one for this hand of this table. -/
  id : r.id = t.handId hand
  /-- It is still the same table. -/
  tableId : e.state.tableId = t.tableId
  /-- It is tuned as before. -/
  settings : e.state.settings = t.settings
  /-- The hand no longer waits. -/
  pending : e.state.pending = t.pending.erase hand
  /-- The hand is remembered. -/
  history : e.state.history = t.history.push hand
  /-- No hand is opened. -/
  generation : e.state.generation = t.generation
  /-- The sources deliver as before. -/
  liveness : e.state.liveness = t.liveness
  /-- The result is counted. -/
  tally : e.state.tally = t.tally.add r
  /-- The outcome is followed up in the streak of disagreement. -/
  streak : e.state.streak = r.outcome.carry t.streak
  /-- The result is handed on, and no other one. -/
  results : results e.out = [r]
  /-- The streak is published in front of it when it reaches its length, and nothing else is. -/
  published : published e.out =
    report t.tableId t.settings.mismatchThreshold (r.outcome.carry t.streak).toNat r
  /-- The timer of the hand is stopped, and no other one is started or stopped. -/
  agenda : ∀ due a, e.out.foldl (Agenda.heed due) a =
    if p.timed then a.stop (t.timerKey hand p.generation) else a
  /-- Nothing else of note comes of it. -/
  onlyFused : Effect.OnlyFused (e.out.filterMap Output.effect?)

/-- A step that does no more than follow up an outcome in the streak of disagreement. -/
structure OnlyStreak (f : Table → Emission Table Output) : Prop where
  /-- At most the streak changes. -/
  state : ∀ t, ∃ streak, (f t).state = { t with streak := streak }
  /-- No timer is started or stopped. -/
  agenda : ∀ t due a, (f t).out.foldl (Agenda.heed due) a = a
  /-- No result is handed on, and nothing else of note comes of it. -/
  idle : ∀ t, Idle (f t).out

theorem onlyStreak_quiet : OnlyStreak .quiet :=
  ⟨fun t => ⟨t.streak, rfl⟩, fun _ _ _ => rfl, fun _ => rfl⟩

theorem onlyStreak_track (outcome : Outcome) : OnlyStreak (track outcome) := by
  cases outcome with
  | crossValidated =>
    refine ⟨fun _ => ⟨_, rfl⟩, fun t due a => ?_, fun t => ?_⟩
    all_goals simp only [track, agree]; split
    all_goals rfl
  | ambiguous =>
    refine ⟨fun _ => ⟨_, rfl⟩, fun t due a => ?_, fun t => ?_⟩
    all_goals simp only [track, disagree]; split
    all_goals rfl
  | primaryOnly | secondaryFallback | manualRequired => exact onlyStreak_quiet

theorem streak_track (outcome : Outcome) (t : Table) :
    (track outcome t).state.streak = outcome.carry t.streak := by
  cases outcome <;> rfl

/-- A streak is published when a disagreement makes it reach its length. -/
theorem published_track (r : FusedHand) (t : Table) :
    published (track r.outcome t).out ++ [.fused r] =
      report t.tableId t.settings.mismatchThreshold (r.outcome.carry t.streak).toNat r := by
  cases outcome : r.outcome with
  | ambiguous =>
    simp only [track, disagree, report, outcome, Outcome.carry, true_and, UInt32.toNat_inj]
    split
    · rename_i reached
      rw [reached]
      rfl
    · rfl
  | crossValidated =>
    simp only [track, agree, report, outcome, reduceCtorEq, false_and, ↓reduceIte]
    split <;> rfl
  | primaryOnly | secondaryFallback | manualRequired => simp [track, report, outcome]

theorem leaves_of_release {t : Table} {hand : HandNumber} {r : FusedHand}
    (hr : r.id = t.handId hand) (p : Pending) :
    Leaves hand p r t (((t.release hand p).andThen (track r.outcome)).andThen (handOn r)) := by
  have hf := onlyStreak_track r.outcome
  have followed := streak_track r.outcome (t.release hand p).state
  have reported := published_track r (t.release hand p).state
  obtain ⟨streak, hs⟩ := hf.state (t.release hand p).state
  have number : r.handNumber = hand := congrArg HandId.handNumber hr
  refine ⟨hr, ?_, ?_, ?_, ?_, ?_, ?_, ?_, ?_, ?_, ?_, fun due a => ?_, ?_⟩
  all_goals simp only [Emission.state_andThen, Emission.out_andThen, handOn, hs, number]
  all_goals try rfl
  · rw [hs] at followed
    exact followed
  · simp only [results_append, (hf.idle _).results, List.append_nil, results_noted, results_fused,
      results_nil, release]
    split <;> simp
  · have quiet : published (t.release hand p).out = [] := by
      unfold release
      split <;> rfl
    rw [published_append, published_append, quiet, List.nil_append]
    exact reported
  · simp only [List.foldl_append, hf.agenda, release]
    split <;> rfl
  · simp only [List.filterMap_append, release]
    refine .append (.append ?_ (hf.idle _).onlyFused) ?_
    · split <;> exact Effect.onlyFused_nil
    · exact List.forall_mem_cons.mpr ⟨.inl rfl, List.forall_mem_singleton.mpr (.inr ⟨r, rfl⟩)⟩

theorem resolve_leaves {t : Table} {hand : HandNumber} {p : Pending}
    (hp : t.pending[hand]? = some p) (resolution : Resolution) :
    Leaves hand p (t.fuse hand p resolution) t (t.resolve resolution hand) := by
  rw [resolve, hp]
  exact leaves_of_release (Policy.id_decide ..) p

theorem resolve_of_not_pending {t : Table} {hand : HandNumber} (hp : t.pending[hand]? = none)
    (resolution : Resolution) : t.resolve resolution hand = .quiet t := by
  rw [resolve, hp]

theorem giveUp_leaves {t : Table} {hand : HandNumber} {p : Pending}
    (hp : t.pending[hand]? = some p) :
    Leaves hand p (Policy.unclassified (t.handId hand) .shutdown) t (t.giveUp hand) := by
  have l : Leaves hand p (Policy.unclassified (t.handId hand) .shutdown) t _ :=
    leaves_of_release rfl p
  -- the streak is not followed up, which is the same as to follow up an outcome that is no verdict
  have untracked : track (Policy.unclassified (t.handId hand) .shutdown).outcome = .quiet := rfl
  rw [untracked, Emission.andThen_quiet] at l
  rw [giveUp, hp]
  exact l

theorem giveUp_of_not_pending {t : Table} {hand : HandNumber} (hp : t.pending[hand]? = none) :
    t.giveUp hand = .quiet t := by
  rw [giveUp, hp]

/-! ### Openings -/

theorem openHand_of_remembered {t : Table} {hand : HandNumber}
    (remembered : t.history.contains hand = true) (p : Pending) (arrived : Source) :
    t.openHand hand p arrived = ⟨t, [noted (.late t.tableId hand arrived)]⟩ := by
  rw [openHand, if_pos remembered]

theorem openHand_of_fresh {t : Table} {hand : HandNumber} {arrived : Source}
    (unknown : t.history.contains hand = false) (fresh : t.liveness arrived.other = .fresh)
    (p : Pending) : t.openHand hand p arrived =
      ⟨{ t with
          generation := t.generation + 1
          pending := t.pending.insert hand
            { p with generation := t.generation + 1, timed := true } },
        [.startTimer (t.timerKey hand (t.generation + 1)),
          noted (.waiting t.tableId hand arrived)]⟩ := by
  simp [openHand, unknown, fresh, timerKey]

theorem openHand_of_stale {t : Table} {hand : HandNumber} {arrived : Source}
    (unknown : t.history.contains hand = false) (stale : t.liveness arrived.other = .stale)
    (p : Pending) : t.openHand hand p arrived =
      ({ t with
          generation := t.generation + 1
          pending := t.pending.insert hand
            { p with generation := t.generation + 1, timed := false } }.resolve
        .sourceStale hand).after [noted (.waiting t.tableId hand arrived)] := by
  simp [openHand, unknown, stale]

/-! ### Observations -/

/-- Whether there is an observation of a source. -/
def Pending.has (p : Pending) : Source → Bool
  | .primary => p.primary.isSome
  | .secondary => p.secondary.isSome

theorem Pending.awaited_eq_some_iff (p : Pending) (source : Source) :
    p.awaited = some source ↔ p.has source.other = true ∧ p.has source = false := by
  obtain ⟨primary, secondary, _, _⟩ := p
  cases source <;> cases primary <;> cases secondary <;> simp [awaited, has, Source.other]

/-- A hand that waits for a source has one of the two observations. -/
theorem Pending.oneSided_of_awaited {p : Pending} {source : Source}
    (awaited : p.awaited = some source) : p.primary.isSome ≠ p.secondary.isSome := by
  obtain ⟨held, missing⟩ := (p.awaited_eq_some_iff source).mp awaited
  cases source <;> simp_all [has, Source.other]

/-- A hand that waits for a source has no observation but that of the other source. -/
theorem Pending.eq_of_has {p : Pending} {source source' : Source}
    (awaited : p.awaited = some source.other) (has : p.has source' = true) : source' = source := by
  have missing := ((p.awaited_eq_some_iff source.other).mp awaited).2
  cases source <;> cases source' <;> first | rfl | simp [Source.other, has] at missing

/-- The observations that another hand has are put in the place of the earlier ones. -/
def Pending.renew (p q : Pending) : Pending :=
  { p with
    primary := q.primary.or p.primary
    secondary := q.secondary.or p.secondary }

theorem Pending.has_renew (p q : Pending) (source : Source) :
    (p.renew q).has source = (q.has source || p.has source) := by
  cases source <;> exact Option.isSome_or

/-- What arrives again changes nothing about what is missing. -/
theorem Pending.awaited_renew {p q : Pending}
    (unchanged : ∀ source, q.has source = true → p.has source = true) :
    (p.renew q).awaited = p.awaited := by
  have same (source : Source) : (p.renew q).has source = p.has source := by
    rw [has_renew, Bool.eq_iff_iff, Bool.or_eq_true]
    exact or_iff_right_of_imp (unchanged source)
  ext source
  rw [awaited_eq_some_iff, awaited_eq_some_iff, same, same]

/-- An observation of a source arrives, given by the hand that it opens if the hand does not wait.
The card readers and the video differ in the source and in the observation only. -/
def observe (source : Source) (hand : HandNumber) (q : Pending) (t : Table) :
    Emission Table Output :=
  match t.pending[hand]? with
  | some p =>
    let held := { t with pending := t.pending.insert hand (p.renew q) }
    if p.has source then ⟨held, [noted (.replaced t.tableId hand source)]⟩
    else held.resolve .matched hand
  | none => t.openHand hand q source

theorem observePrimary_eq (r : RankedHand) (t : Table) :
    t.observePrimary r = t.observe .primary r.handNumber ⟨some r, none, 0, false⟩ := rfl

theorem observeSecondary_eq (r : Sighting) (t : Table) :
    t.observeSecondary r = t.observe .secondary r.handNumber ⟨none, some r, 0, false⟩ := rfl

/-- The hand that a message is an observation of. -/
def Message.observed? : Message → Option HandNumber
  | .primary r => some r.handNumber
  | .secondary r => some r.handNumber
  | _ => none

/-- Whichever the source, an observation is handled in the same way. -/
theorem handle_of_observed {m : Message} {hand : HandNumber} (observed : m.observed? = some hand)
    (t : Table) : ∃ (source : Source) (q : Pending), q.awaited = some source.other ∧
      t.handle m = t.observe source hand q := by
  cases m with
  | primary r =>
    obtain rfl : r.handNumber = hand := Option.some.inj observed
    exact ⟨_, _, rfl, observePrimary_eq r t⟩
  | secondary r =>
    obtain rfl : r.handNumber = hand := Option.some.inj observed
    exact ⟨_, _, rfl, observeSecondary_eq r t⟩
  | health | expired | snapshot | shutdown => cases observed

section Observe

variable {t : Table} {source : Source} {hand : HandNumber} {p : Pending}

theorem observe_of_unknown (hp : t.pending[hand]? = none) (q : Pending) :
    t.observe source hand q = t.openHand hand q source := by
  rw [observe, hp]

theorem observe_of_held (hp : t.pending[hand]? = some p) (held : p.has source = true)
    (q : Pending) : t.observe source hand q =
      ⟨{ t with pending := t.pending.insert hand (p.renew q) },
        [noted (.replaced t.tableId hand source)]⟩ := by
  simp only [observe, hp, held, ↓reduceIte]

theorem observe_of_missing (hp : t.pending[hand]? = some p) (missing : p.has source = false)
    (q : Pending) : t.observe source hand q =
      { t with pending := t.pending.insert hand (p.renew q) }.resolve .matched hand := by
  simp only [observe, hp, missing, Bool.false_eq_true, ↓reduceIte]

end Observe

/-- All that an observation of a hand can do. -/
inductive Observed (hand : HandNumber) (t : Table) : Emission Table Output → Prop where
  /-- Nothing, since the hand was resolved of late. -/
  | late (source : Source) : Observed hand t ⟨t, [noted (.late t.tableId hand source)]⟩
  /-- The hand is opened, and waits. -/
  | opened (unknown : t.history.contains hand = false) (q : Pending) (source : Source) :
    Observed hand t
      ⟨{ t with generation := t.generation + 1, pending := t.pending.insert hand q },
        [.startTimer (t.timerKey hand (t.generation + 1)),
          noted (.waiting t.tableId hand source)]⟩
  /-- The hand is opened, and resolved at once. -/
  | cut (unknown : t.history.contains hand = false) (q : Pending) (source : Source) :
    Observed hand t
      (({ t with generation := t.generation + 1, pending := t.pending.insert hand q }.resolve
        .sourceStale hand).after [noted (.waiting t.tableId hand source)])
  /-- The hand waits, and goes on waiting. -/
  | held (waits : t.pending[hand]?.isSome) (q : Pending) (source : Source) :
    Observed hand t ⟨{ t with pending := t.pending.insert hand q },
      [noted (.replaced t.tableId hand source)]⟩
  /-- The hand waits, and is resolved. -/
  | matched (waits : t.pending[hand]?.isSome) (q : Pending) :
    Observed hand t ({ t with pending := t.pending.insert hand q }.resolve .matched hand)

theorem observed_openHand (hand : HandNumber) (p : Pending) (arrived : Source) (t : Table) :
    Observed hand t (t.openHand hand p arrived) := by
  cases known : t.history.contains hand with
  | true =>
    rw [openHand_of_remembered known]
    exact .late _
  | false =>
    cases live : t.liveness arrived.other with
    | fresh =>
      rw [openHand_of_fresh known live]
      exact .opened known _ _
    | stale =>
      rw [openHand_of_stale known live]
      exact .cut known _ _

theorem observed_observe (source : Source) (hand : HandNumber) (q : Pending) (t : Table) :
    Observed hand t (t.observe source hand q) := by
  cases hp : t.pending[hand]? with
  | none =>
    rw [observe_of_unknown hp]
    exact observed_openHand ..
  | some p =>
    cases held : p.has source with
    | true =>
      rw [observe_of_held hp held]
      exact .held (by simp [hp]) _ _
    | false =>
      rw [observe_of_missing hp held]
      exact .matched (by simp [hp]) _

/-- **All that a message with an observation can do.** -/
theorem observed_handle {m : Message} {hand : HandNumber} (observed : m.observed? = some hand)
    (t : Table) : Observed hand t (t.handle m) := by
  obtain ⟨source, q, -, eq⟩ := handle_of_observed observed t
  exact eq ▸ observed_observe source hand q t

/-! ### Silent sources -/

/-- The hands that are cut off are those that wait for a silent source. -/
theorem mem_cutOff_iff (t : Table) (hand : HandNumber) :
    hand ∈ t.cutOff ↔ ∃ p : Pending, t.pending[hand]? = some p ∧
      ∃ source, p.awaited = some source ∧ t.liveness source = .stale := by
  simp only [cutOff, List.mem_map, List.mem_filter, Prod.exists, exists_and_right, exists_eq_right,
    Std.TreeMap.mem_toList_iff_getElem?_eq_some, Option.any_eq_true, beq_iff_eq]

end Table

end Showdown
