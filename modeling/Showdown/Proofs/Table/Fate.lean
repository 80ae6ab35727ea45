import Showdown.Proofs.Lookup
import Showdown.Proofs.Table.Turns

/-!
# What becomes of one hand in a turn

In one turn of a table several hands may be resolved, but what becomes of one hand depends on that
hand alone. `Fate` lists all that can become of it, with the conditions under which it does, and
`fate_take` says that the list is complete. So what is to be said about the results and the timers
of a hand has to be checked for the items of this list, and nothing else looks into how a message is
handled.
-/

namespace Showdown.Table

variable {hand other : HandNumber} {t : Table} {e : Emission Table Output}

/-- The results for a hand, in order. -/
def resultsOf (hand : HandNumber) (out : List Output) : List FusedHand :=
  (results out).filter fun r => r.handNumber == hand

@[simp] theorem resultsOf_append (hand : HandNumber) (out out' : List Output) :
    resultsOf hand (out ++ out') = resultsOf hand out ++ resultsOf hand out' := by
  simp [resultsOf]

theorem resultsOf_of_idle {out : List Output} (h : Idle out) : resultsOf hand out = [] := by
  rw [resultsOf, h.results, List.filter_nil]

theorem mem_resolved_iff (out : List Output) (hand : HandNumber) :
    hand ∈ resolved out ↔ resultsOf hand out ≠ [] := by
  simp [resolved, resultsOf, List.filter_eq_nil_iff]

/-! ### A hand that is left alone -/

/-- Some outputs start and stop no timers of a hand. -/
def TimersStay (hand : HandNumber) (out : List Output) : Prop :=
  ∀ due (a : Agenda) timer, timer.key.hand = hand →
    (timer ∈ (out.foldl (Agenda.heed due) a).timers ↔ timer ∈ a.timers)

theorem TimersStay.append {out out' : List Output} (h : TimersStay hand out)
    (h' : TimersStay hand out') : TimersStay hand (out ++ out') := by
  intro due a timer own
  rw [List.foldl_append, h' due _ timer own, h due a timer own]

/-- Nothing becomes of a hand. -/
structure Stands (hand : HandNumber) (t : Table) (e : Emission Table Output) : Prop where
  /-- It waits, or not, as before. -/
  pending : e.state.pending[hand]? = t.pending[hand]?
  /-- It has no result. -/
  unresolved : resultsOf hand e.out = []
  /-- Its timers are left alone. -/
  timers : TimersStay hand e.out

theorem stands_quiet (hand : HandNumber) (t : Table) : Stands hand t (.quiet t) :=
  ⟨rfl, rfl, fun _ _ _ _ => Iff.rfl⟩

theorem Stands.andThen {f : Table → Emission Table Output} (h : Stands hand t e)
    (h' : Stands hand e.state (f e.state)) : Stands hand t (e.andThen f) where
  pending := h'.pending.trans h.pending
  unresolved := by rw [Emission.out_andThen, resultsOf_append, h.unresolved, h'.unresolved]; rfl
  timers := h.timers.append h'.timers

/-- Outputs that are no results and no timers. -/
theorem Stands.after {said : List Output} (idle : Idle said)
    (untimed : ∀ due a, said.foldl (Agenda.heed due) a = a) (h : Stands hand t e) :
    Stands hand t (e.after said) where
  pending := h.pending
  unresolved := by
    rw [Emission.out_after, resultsOf_append, resultsOf_of_idle idle, h.unresolved]; rfl
  timers := by
    intro due a timer own
    rw [Emission.out_after, List.foldl_append, untimed, h.timers due a timer own]

/-! ### A hand that leaves -/

/-- A waiting hand leaves with a result, and its timer is stopped. -/
structure Goes (hand : HandNumber) (p : Pending) (r : FusedHand) (t : Table)
    (e : Emission Table Output) : Prop where
  /-- It no longer waits. -/
  gone : e.state.pending[hand]? = none
  /-- It has this result and no other one. -/
  results : resultsOf hand e.out = [r]
  /-- Its timer is stopped, and the timers of its other openings are left alone. -/
  timers : ∀ due (a : Agenda) timer, timer.key.hand = hand →
    (timer ∈ (e.out.foldl (Agenda.heed due) a).timers ↔
      timer ∈ a.timers ∧ ¬ (p.timed = true ∧ timer.key = t.timerKey hand p.generation))

theorem Goes.andThen_stands {p : Pending} {r : FusedHand} {f : Table → Emission Table Output}
    (h : Goes hand p r t e) (h' : Stands hand e.state (f e.state)) :
    Goes hand p r t (e.andThen f) where
  gone := h'.pending.trans h.gone
  results := by rw [Emission.out_andThen, resultsOf_append, h.results, h'.unresolved]; rfl
  timers := by
    intro due a timer own
    rw [Emission.out_andThen, List.foldl_append, h'.timers due _ timer own,
      h.timers due a timer own]

theorem Stands.andThen_goes {p : Pending} {r : FusedHand} {f : Table → Emission Table Output}
    (tableId : e.state.tableId = t.tableId) (h : Stands hand t e)
    (h' : Goes hand p r e.state (f e.state)) : Goes hand p r t (e.andThen f) where
  gone := h'.gone
  results := by rw [Emission.out_andThen, resultsOf_append, h.unresolved, h'.results]; rfl
  timers := by
    intro due a timer own
    rw [Emission.out_andThen, List.foldl_append, h'.timers due _ timer own,
      h.timers due a timer own, timerKey_congr tableId]

theorem Goes.after {p : Pending} {r : FusedHand} {said : List Output} (idle : Idle said)
    (untimed : ∀ due a, said.foldl (Agenda.heed due) a = a) (h : Goes hand p r t e) :
    Goes hand p r t (e.after said) where
  gone := h.gone
  results := by
    rw [Emission.out_after, resultsOf_append, resultsOf_of_idle idle, h.results]; rfl
  timers := by
    intro due a timer own
    rw [Emission.out_after, List.foldl_append, untimed, h.timers due a timer own]

theorem Leaves.goes {p : Pending} {r : FusedHand} (l : Leaves hand p r t e) :
    Goes hand p r t e where
  gone := by simp [l.pending]
  results := by
    have number : r.handNumber = hand := congrArg HandId.handNumber l.id
    simp [resultsOf, l.results, number]
  timers := by
    intro due a timer _
    rw [l.agenda]
    by_cases timed : p.timed
    · simp [timed, Agenda.stop]
    · simp [timed]

/-- Another hand leaves. -/
theorem Leaves.stands {p : Pending} {r : FusedHand} (l : Leaves other p r t e)
    (h : hand ≠ other) : Stands hand t e where
  pending := by rw [l.pending, getElem?_erase_of_ne _ h]
  unresolved := by
    have number : r.handNumber = other := congrArg HandId.handNumber l.id
    simp [resultsOf, l.results, number, h.symm]
  timers := by
    intro due a timer own
    rw [l.agenda]
    split
    · have differs : timer.key ≠ t.timerKey other p.generation :=
        fun same => h (own.symm.trans (congrArg TimerKey.hand same))
      simp [Agenda.stop, differs]
    · rfl

/-! ### Hands that leave one after another -/

/-- Steps that make hands of a table leave, each with a certain result. -/
structure Dismisses (t : Table) (verdict : HandNumber → Pending → FusedHand)
    (f : HandNumber → Table → Emission Table Output) : Prop where
  /-- A waiting hand leaves. -/
  leaves : ∀ {t' : Table} {hand : HandNumber} {p : Pending}, t'.tableId = t.tableId →
    t'.settings = t.settings → t'.pending[hand]? = some p →
    Leaves hand p (verdict hand p) t' (f hand t')
  /-- Otherwise nothing happens. -/
  quiet : ∀ {t' : Table} {hand : HandNumber}, t'.pending[hand]? = none → f hand t' = .quiet t'

theorem fuse_congr {t' : Table} (tableId : t'.tableId = t.tableId)
    (settings : t'.settings = t.settings) : t'.fuse = t.fuse := by
  funext hand p resolution
  rw [fuse, fuse, handId, handId, tableId, settings]

theorem dismisses_resolve (resolution : Resolution) (t : Table) :
    Dismisses t (fun hand p => t.fuse hand p resolution) (resolve resolution) where
  leaves := by
    intro t' hand p tableId settings hp
    rw [← fuse_congr tableId settings]
    exact resolve_leaves hp resolution
  quiet := fun hp => resolve_of_not_pending hp resolution

theorem dismisses_giveUp (t : Table) :
    Dismisses t (fun hand _ => Policy.unclassified (t.handId hand) .shutdown) giveUp where
  leaves := by
    intro t' hand p tableId _ hp
    have same : t'.handId hand = t.handId hand := by rw [handId, handId, tableId]
    exact same ▸ giveUp_leaves hp
  quiet := giveUp_of_not_pending

section Dismissal

variable {verdict : HandNumber → Pending → FusedHand}
  {f : HandNumber → Table → Emission Table Output}

/-- A hand that is not among them, or does not wait, stands. -/
theorem Dismisses.stands (d : Dismisses t verdict f) (hands : List HandNumber) {t' : Table}
    (tableId : t'.tableId = t.tableId) (settings : t'.settings = t.settings)
    (h : hand ∉ hands ∨ t'.pending[hand]? = none) :
    Stands hand t' (Emission.forEach f hands t') := by
  induction hands generalizing t' with
  | nil => exact stands_quiet hand t'
  | cons first hands ih =>
    cases hp : t'.pending[first]? with
    | none =>
      have rest := ih tableId settings (h.imp_left fun no mem => no (List.mem_cons_of_mem _ mem))
      rw [Emission.forEach_cons, d.quiet hp]
      exact (stands_quiet hand t').andThen rest
    | some p =>
      have l := d.leaves tableId settings hp
      have ne : hand ≠ first := by
        rintro rfl
        rcases h with no | none
        · exact no List.mem_cons_self
        · rw [hp] at none
          cases none
      have now := l.stands ne
      refine now.andThen (ih (l.tableId.trans tableId) (l.settings.trans settings) ?_)
      rw [now.pending]
      exact h.imp_left fun no mem => no (List.mem_cons_of_mem _ mem)

/-- A waiting hand among them leaves. -/
theorem Dismisses.goes (d : Dismisses t verdict f) {hands : List HandNumber} {t' : Table}
    (tableId : t'.tableId = t.tableId) (settings : t'.settings = t.settings) {p : Pending}
    (hp : t'.pending[hand]? = some p) (h : hand ∈ hands) :
    Goes hand p (verdict hand p) t' (Emission.forEach f hands t') := by
  induction hands generalizing t' with
  | nil => cases h
  | cons first hands ih =>
    by_cases own : hand = first
    · subst own
      have l := d.leaves tableId settings hp
      have rest := d.stands hands (l.tableId.trans tableId) (l.settings.trans settings)
        (.inr l.goes.gone)
      exact l.goes.andThen_stands rest
    · have later : hand ∈ hands := (List.mem_cons.mp h).resolve_left own
      cases hq : t'.pending[first]? with
      | none =>
        rw [Emission.forEach_cons, d.quiet hq]
        exact (stands_quiet hand t').andThen_goes rfl (ih tableId settings hp later)
      | some q =>
        have l := d.leaves tableId settings hq
        have now := l.stands own
        exact now.andThen_goes l.tableId (ih (l.tableId.trans tableId) (l.settings.trans settings)
          (now.pending.trans hp) later)

end Dismissal

/-! ### Fates -/

/-- Why a waiting hand is resolved. -/
inductive Cause (hand : HandNumber) (u : Turn) (p : Pending) : Resolution → Prop where
  /-- The observation that was missing arrives. -/
  | matched {source : Source} (observed : u.source? hand = some source)
    (missing : p.has source = false) : Cause hand u p .matched
  /-- The timer of its opening runs out. -/
  | expired (runsOut : u.expires? hand = some p.generation) : Cause hand u p .windowExpired
  /-- The source that it waits for turns out to be silent. -/
  | stale {source : Source} (awaited : p.awaited = some source)
    (told : u.tells? source = some .stale) : Cause hand u p .sourceStale

/-- What becomes of a hand. -/
inductive Fate (hand : HandNumber) (u : Turn) (t : Table) (e : Emission Table Output) : Prop where
  /-- Nothing, since the turn has nothing to do with the hand. -/
  | spared (unobserved : u.source? hand = none)
    (noCause : ∀ p resolution, t.pending[hand]? = some p → ¬ Cause hand u p resolution)
    (goesOn : t.pending[hand]?.isSome → u.ends = false) (stands : Stands hand t e)
  /-- Nothing, since the hand was resolved of late. -/
  | late {source : Source} (observed : u.source? hand = some source)
    (closed : t.pending[hand]? = none) (remembered : t.history.contains hand = true)
    (stands : Stands hand t e)
  /-- It is opened and waits. -/
  | opened {source : Source} (observed : u.source? hand = some source)
    (closed : t.pending[hand]? = none) (unknown : t.history.contains hand = false)
    (fresh : t.liveness source.other = .fresh)
    (waits : e.state.pending[hand]? =
      some ⟨u.primary? hand, u.secondary? hand, t.generation + 1, true⟩)
    (generation : e.state.generation = t.generation + 1) (unresolved : resultsOf hand e.out = [])
    (started : ∀ generation,
      .startTimer (t.timerKey hand generation) ∈ e.out ↔ generation = t.generation + 1)
    (timers : ∀ due (a : Agenda) timer, timer.key.hand = hand →
      (timer ∈ (e.out.foldl (Agenda.heed due) a).timers ↔
        timer = ⟨due, t.timerKey hand (t.generation + 1)⟩ ∨ timer ∈ a.timers))
  /-- It is opened and resolved at once, since the other source is silent. -/
  | cut {source : Source} (observed : u.source? hand = some source)
    (closed : t.pending[hand]? = none) (unknown : t.history.contains hand = false)
    (stale : t.liveness source.other = .stale)
    (goes : Goes hand ⟨u.primary? hand, u.secondary? hand, t.generation + 1, false⟩
      (t.fuse hand ⟨u.primary? hand, u.secondary? hand, t.generation + 1, false⟩ .sourceStale) t e)
  /-- It waits on, with a new observation in place of an earlier one. -/
  | replaced {source : Source} (observed : u.source? hand = some source) {p : Pending}
    (waited : t.pending[hand]? = some p) (held : p.has source = true)
    (waits : e.state.pending[hand]? = some (p.put hand u))
    (unresolved : resultsOf hand e.out = []) (timers : TimersStay hand e.out)
  /-- It is resolved. -/
  | resolved {p : Pending} (waited : t.pending[hand]? = some p) {resolution : Resolution}
    (cause : Cause hand u p resolution)
    (goes : Goes hand p (t.fuse hand (p.put hand u) resolution) t e)
  /-- It is given up. -/
  | givenUp {p : Pending} (waited : t.pending[hand]? = some p) (ends : u.ends = true)
    (goes : Goes hand p (Policy.unclassified (t.handId hand) .shutdown) t e)

/-- Nothing becomes of a hand in a turn that is neither an observation of it nor the end, if its
timer does not run out and the source that it waits for is not said to be silent. -/
theorem Fate.of_undisturbed {u : Turn} (unobserved : u.source? hand = none)
    (goesOn : u.ends = false)
    (running : ∀ p, t.pending[hand]? = some p → u.expires? hand ≠ some p.generation)
    (untold : ∀ p source, t.pending[hand]? = some p → p.awaited = some source →
      u.tells? source ≠ some .stale)
    (stands : Stands hand t e) : Fate hand u t e := by
  refine .spared unobserved (fun p resolution hp cause => ?_) (fun _ => goesOn) stands
  cases cause with
  | matched observed =>
    rw [unobserved] at observed
    cases observed
  | expired runsOut => exact running p hp runsOut
  | stale awaited told => exact untold p _ hp awaited told

/-! ### Observations -/

/-- What becomes of a hand is a matter of how it waited before. -/
theorem Stands.of_pending {t' : Table} (h : Stands hand t' e)
    (same : t'.pending[hand]? = t.pending[hand]?) : Stands hand t e :=
  ⟨h.pending.trans same, h.unresolved, h.timers⟩

theorem Goes.of_tableId {t' : Table} {p q : Pending} {r : FusedHand} (h : Goes hand q r t' e)
    (same : t'.tableId = t.tableId) (timed : q.timed = p.timed)
    (generation : q.generation = p.generation) : Goes hand p r t e := by
  refine ⟨h.gone, h.results, ?_⟩
  rw [← timed, ← generation, ← timerKey_congr same]
  exact h.timers

theorem untimed_noted (n : Note) (due : Nat) (a : Agenda) :
    [noted n].foldl (Agenda.heed due) a = a := rfl

theorem stands_said (hand : HandNumber) (t : Table) (n : Note) : Stands hand t ⟨t, [noted n]⟩ :=
  ⟨rfl, rfl, fun _ _ _ _ => Iff.rfl⟩

/-- A hand is put down and resolved at once. -/
theorem resolve_put (t : Table) (hand : HandNumber) (q : Pending) (generation : Nat)
    (resolution : Resolution) :
    Leaves hand q (t.fuse hand q resolution)
      { t with generation := generation, pending := t.pending.insert hand q }
      ({ t with generation := generation, pending := t.pending.insert hand q }.resolve
        resolution hand) := by
  set t' : Table := { t with generation := generation, pending := t.pending.insert hand q }
  have waits : t'.pending[hand]? = some q := Std.TreeMap.getElem?_insert_self
  exact resolve_leaves waits resolution

theorem mem_start (a : Agenda) (t timer : Timer) :
    timer ∈ (a.start t).timers ↔ timer = t ∨ timer ∈ a.timers :=
  Agenda.mem_place t timer a.timers

/-- Another hand is observed. -/
theorem Observed.stands (o : Observed other t e) (h : hand ≠ other) : Stands hand t e := by
  cases o with
  | late source => exact stands_said hand t _
  | opened unknown q source =>
    refine ⟨getElem?_insert_of_ne _ h _, rfl, fun due a timer own => ?_⟩
    have differs : timer ≠ ⟨due, t.timerKey other (t.generation + 1)⟩ := by
      rintro rfl
      exact h own.symm
    exact (mem_start a _ timer).trans (or_iff_right differs)
  | cut unknown q source =>
    have left := (resolve_put t other q (t.generation + 1) .sourceStale).stands h
    exact (left.of_pending (getElem?_insert_of_ne _ h _)).after rfl (untimed_noted _)
  | held waits q source => exact ⟨getElem?_insert_of_ne _ h _, rfl, fun _ _ _ _ => Iff.rfl⟩
  | matched waits q =>
    have left := (resolve_put t other q t.generation .matched).stands h
    exact left.of_pending (getElem?_insert_of_ne _ h _)

/-- A hand is observed that does not wait. -/
theorem fate_openHand {u : Turn} {arrived : Source} (observed : u.source? hand = some arrived)
    (closed : t.pending[hand]? = none) :
    Fate hand u t (t.openHand hand ⟨u.primary? hand, u.secondary? hand, 0, false⟩ arrived) := by
  cases known : t.history.contains hand with
  | true =>
    rw [openHand_of_remembered known]
    exact .late observed closed known (stands_said hand t _)
  | false =>
    cases live : t.liveness arrived.other with
    | fresh =>
      rw [openHand_of_fresh known live]
      refine .opened observed closed known live (by simp) rfl rfl (fun generation => ?_) ?_
      · simp [noted, timerKey]
      · exact fun due a timer _ => mem_start a _ timer
    | stale =>
      rw [openHand_of_stale known live]
      have left := (resolve_put t hand
        ⟨u.primary? hand, u.secondary? hand, t.generation + 1, false⟩ (t.generation + 1)
        .sourceStale).goes
      have goes := left.of_tableId (t := t) rfl rfl rfl
      exact .cut observed closed known live (goes.after rfl (untimed_noted _))

/-- A hand has both its observations. -/
theorem goes_matched {p q : Pending} (timed : q.timed = p.timed)
    (generation : q.generation = p.generation) :
    Goes hand p (t.fuse hand q .matched) t
      ({ t with pending := t.pending.insert hand q }.resolve .matched hand) :=
  (resolve_put t hand q t.generation .matched).goes.of_tableId rfl timed generation

/-- What becomes of a hand that is observed. -/
theorem fate_of_observed {u : Turn} {source : Source} (observed : u.source? hand = some source) :
    Fate hand u t (take u t) := by
  rw [take_of_observed observed]
  cases hp : t.pending[hand]? with
  | none =>
    rw [observe_of_unknown hp]
    exact fate_openHand observed hp
  | some p =>
    cases held : p.has source with
    | true =>
      rw [observe_of_held hp held]
      exact .replaced observed hp held Std.TreeMap.getElem?_insert_self rfl
        fun _ _ _ _ => Iff.rfl
    | false =>
      rw [observe_of_missing hp held]
      exact .resolved hp (.matched observed held) (goes_matched rfl rfl)

/-- Nothing becomes of a hand when another one is observed. -/
theorem fate_of_other_observed {u : Turn} {source : Source}
    (elsewhere : u.source? other = some source) (unobserved : u.source? hand = none) :
    Fate hand u t (take u t) := by
  have differs : hand ≠ other := by
    rintro rfl
    rw [elsewhere] at unobserved
    cases unobserved
  have stands : Stands hand t (take u t) := by
    rw [take_of_observed elsewhere]
    exact (observed_observe ..).stands differs
  refine .of_undisturbed unobserved (Turn.ends_of_observed elsewhere) ?_ ?_ stands
  · intro p _ runsOut
    rw [Turn.source?_of_runsOut runsOut] at elsewhere
    cases elsewhere
  · intro p source _ _ told
    rw [Turn.source?_of_told told] at elsewhere
    cases elsewhere

/-! ### All turns -/

theorem fate_expire (hand expired : HandNumber) (generation : Nat) (t : Table) :
    Fate hand (.message (.expired expired generation)) t (t.expire expired generation) := by
  unfold expire
  split
  · rename_i running
    obtain ⟨q, hq, current⟩ := Option.any_eq_true _ _ |>.mp running
    have left := resolve_leaves hq .windowExpired
    by_cases own : hand = expired
    · subst own
      have runsOut :
          (Turn.message (.expired hand generation)).expires? hand = some q.generation := by
        simpa [Turn.expires?] using (beq_iff_eq.mp current).symm
      refine .resolved hq (.expired runsOut) ?_
      rw [Pending.put_of_unobserved rfl]
      exact left.goes
    · refine .of_undisturbed rfl rfl (fun p _ => ?_) (fun _ _ _ _ => nofun) (left.stands own)
      simp [Turn.expires?, Ne.symm own]
  · rename_i notRunning
    refine .of_undisturbed rfl rfl (fun p hp runsOut => ?_) (fun _ _ _ _ => nofun)
      (stands_said hand t _)
    by_cases own : expired = hand
    · subst own
      simp [Turn.expires?] at runsOut
      exact notRunning (by simp [hp, runsOut])
    · simp [Turn.expires?, own] at runsOut

theorem fate_hearHealth (hand : HandNumber) (p s : Liveness) (t : Table) :
    Fate hand (.message (.health p s)) t (t.hearHealth p s) := by
  set t' : Table := { t with primary := p, secondary := s }
  show Fate hand _ t (Emission.forEach (resolve .sourceStale) t'.cutOff t')
  have liveness (source : Source) : t'.liveness source = told p s source := by cases source <;> rfl
  have tableId : t'.tableId = t.tableId := rfl
  have settings : t'.settings = t.settings := rfl
  have dismisses := dismisses_resolve .sourceStale t
  by_cases cut : hand ∈ t'.cutOff
  · obtain ⟨q, hq, source, awaited, stale⟩ := (mem_cutOff_iff t' hand).mp cut
    have goes : Goes hand q (t.fuse hand q .sourceStale) t'
        (Emission.forEach (resolve .sourceStale) t'.cutOff t') :=
      dismisses.goes tableId settings hq cut
    refine .resolved hq (.stale awaited (congrArg some ((liveness source).symm.trans stale))) ?_
    rw [Pending.put_of_unobserved rfl]
    exact goes.of_tableId rfl rfl rfl
  · have stands : Stands hand t' (Emission.forEach (resolve .sourceStale) t'.cutOff t') :=
      dismisses.stands t'.cutOff tableId settings (.inl cut)
    refine .of_undisturbed rfl rfl (fun _ _ => nofun) (fun q source hq awaited told => ?_)
      (stands.of_pending rfl)
    refine cut ((mem_cutOff_iff t' hand).mpr ⟨q, hq, source, awaited, ?_⟩)
    exact (liveness source).trans (Option.some.inj told)

theorem Fate.of_end {u : Turn} (ends : u.ends = true)
    (stands : t.pending[hand]? = none → Stands hand t e)
    (goes : ∀ p, t.pending[hand]? = some p →
      Goes hand p (Policy.unclassified (t.handId hand) .shutdown) t e) : Fate hand u t e := by
  cases hp : t.pending[hand]? with
  | none =>
    refine .spared (Turn.source?_of_ends ends hand) (fun p _ hp' => ?_) (fun waits => ?_)
      (stands hp)
    · rw [hp] at hp'
      cases hp'
    · rw [hp] at waits
      cases waits
  | some p => exact .givenUp hp ends (goes p hp)

/-- The hands are given up. -/
theorem fate_giveUpAll (hand : HandNumber) (t : Table) :
    (t.pending[hand]? = none → Stands hand t t.giveUpAll) ∧
      ∀ p, t.pending[hand]? = some p →
        Goes hand p (Policy.unclassified (t.handId hand) .shutdown) t t.giveUpAll := by
  have idle : Idle (if t.pending.keys.isEmpty then []
      else [noted (.draining t.tableId t.pending.keys.length)]) := by split <;> rfl
  have untimed (due : Nat) (a : Agenda) : (if t.pending.keys.isEmpty then []
      else [noted (.draining t.tableId t.pending.keys.length)]).foldl (Agenda.heed due) a = a := by
    split <;> rfl
  have dismisses := dismisses_giveUp t
  constructor
  · intro hp
    exact (dismisses.stands _ rfl rfl (.inr hp)).after idle untimed
  · intro p hp
    have waits : hand ∈ t.pending.keys :=
      (mem_keys_or_getElem?_eq_none t.pending hand).resolve_right (by simp [hp])
    exact (dismisses.goes rfl rfl hp waits).after idle untimed

/-- **What becomes of a hand in a turn**, whatever the turn. -/
theorem fate_take (hand : HandNumber) (u : Turn) (t : Table) : Fate hand u t (take u t) := by
  cases u with
  | deserted => exact .of_end rfl (fate_giveUpAll hand t).1 (fate_giveUpAll hand t).2
  | message m =>
    cases m with
    | primary r | secondary r =>
      by_cases own : r.handNumber = hand
      · exact fate_of_observed (if_pos own)
      · exact fate_of_other_observed (if_pos rfl) (if_neg own)
    | health p s => exact fate_hearHealth hand p s t
    | expired expired generation => exact fate_expire hand expired generation t
    | snapshot =>
      exact .of_undisturbed rfl rfl (fun _ _ => nofun) (fun _ _ _ _ => nofun)
        ⟨rfl, rfl, fun _ _ _ _ => Iff.rfl⟩
    | shutdown =>
      have closing (t : Table) : Stands hand t ⟨t, [.closed t.tally]⟩ :=
        ⟨rfl, rfl, fun _ _ _ _ => Iff.rfl⟩
      obtain ⟨stands, goes⟩ := fate_giveUpAll hand t
      rw [take, handle, close]
      exact .of_end rfl (fun hp => (stands hp).andThen (closing _))
        fun p hp => (goes p hp).andThen_stands (closing _)

/-- After a turn, a timer was running before or was started for an opening in that turn. -/
theorem mem_timers_take {u : Turn} {due : Nat} {a : Agenda} {timer : Timer}
    (runs : timer ∈ ((take u t).out.foldl (Agenda.heed due) a).timers) :
    timer ∈ a.timers ∨ timer = ⟨due, t.timerKey timer.key.hand (t.generation + 1)⟩ ∧
      (take u t).state.generation = t.generation + 1 := by
  cases fate_take timer.key.hand u t with
  | spared _ _ _ stands | late _ _ _ stands =>
    exact .inl ((stands.timers due a timer rfl).mp runs)
  | opened _ _ _ _ _ generation _ _ timers =>
    exact ((timers due a timer rfl).mp runs).symm.imp_right fun is => ⟨is, generation⟩
  | replaced _ _ _ _ _ timers => exact .inl ((timers due a timer rfl).mp runs)
  | cut _ _ _ _ goes | resolved _ _ goes | givenUp _ _ goes =>
    exact .inl ((goes.timers due a timer rfl).mp runs).1

/-! ### What is brought about -/

theorem Cause.resolution?_eq {u : Turn} {p : Pending} {resolution : Resolution}
    (c : Cause hand u p resolution) : u.resolution? true = some resolution := by
  cases c with
  | matched observed _ => exact Turn.resolution?_of_observed observed true
  | expired runsOut => exact Turn.resolution?_of_runsOut runsOut true
  | stale _ told => exact Turn.resolution?_of_told told true

/-- A waiting hand is resolved if there is a cause for it. -/
theorem goes_of_cause {u : Turn} {p : Pending} {resolution : Resolution}
    (waited : t.pending[hand]? = some p) (cause : Cause hand u p resolution) :
    Goes hand p (t.fuse hand (p.put hand u) resolution) t (take u t) := by
  have kind := cause.resolution?_eq
  cases fate_take hand u t with
  | spared _ noCause _ _ => exact absurd cause (noCause p resolution waited)
  | late _ closed _ _ | opened _ closed _ _ _ _ _ _ _ | cut _ closed _ _ _ =>
    rw [waited] at closed
    cases closed
  | replaced observed waited' held _ _ _ =>
    obtain rfl := Option.some.inj (waited.symm.trans waited')
    cases cause with
    | matched observed' missing =>
      obtain rfl := Option.some.inj (observed.symm.trans observed')
      rw [missing] at held
      cases held
    | expired | stale =>
      rw [Turn.resolution?_of_observed observed] at kind
      cases kind
  | resolved waited' cause' goes =>
    obtain rfl := Option.some.inj (waited.symm.trans waited')
    obtain rfl := Option.some.inj (kind.symm.trans cause'.resolution?_eq)
    exact goes
  | givenUp _ ends _ =>
    rw [Turn.resolution?_of_ends ends] at kind
    cases cause <;> cases kind

/-- A waiting hand is given up in the end. -/
theorem goes_of_ends {u : Turn} {p : Pending} (waited : t.pending[hand]? = some p)
    (ends : u.ends = true) :
    Goes hand p (Policy.unclassified (t.handId hand) .shutdown) t (take u t) := by
  have unobserved := Turn.source?_of_ends ends hand
  cases fate_take hand u t with
  | spared _ _ goesOn _ =>
    have goes := goesOn (by simp [waited])
    rw [ends] at goes
    cases goes
  | late observed _ _ _ | opened observed _ _ _ _ _ _ _ _ | cut observed _ _ _ _
  | replaced observed _ _ _ _ _ =>
    rw [unobserved] at observed
    cases observed
  | resolved _ cause _ =>
    have kind := cause.resolution?_eq
    rw [Turn.resolution?_of_ends ends] at kind
    cases cause <;> cases kind
  | givenUp waited' _ goes =>
    obtain rfl := Option.some.inj (waited.symm.trans waited')
    exact goes

/-- A hand that is not known waits if the other source is not known to be silent, and its timer is
started. -/
theorem waits_of_unknown {u : Turn} {source : Source} (observed : u.source? hand = some source)
    (closed : t.pending[hand]? = none) (unknown : t.history.contains hand = false)
    (fresh : t.liveness source.other = .fresh) :
    (take u t).state.pending[hand]? =
        some ⟨u.primary? hand, u.secondary? hand, t.generation + 1, true⟩ ∧
      resultsOf hand (take u t).out = [] ∧
      ∀ due (a : Agenda) timer, timer.key.hand = hand →
        (timer ∈ ((take u t).out.foldl (Agenda.heed due) a).timers ↔
          timer = ⟨due, t.timerKey hand (t.generation + 1)⟩ ∨ timer ∈ a.timers) := by
  cases fate_take hand u t with
  | opened _ _ _ _ waits _ unresolved _ timers => exact ⟨waits, unresolved, timers⟩
  | spared unobserved _ _ _ => simp [unobserved] at observed
  | late _ _ known _ => simp [unknown] at known
  | cut observed' _ _ stale _ =>
    obtain rfl := Option.some.inj (observed.symm.trans observed')
    simp [fresh] at stale
  | replaced _ waited _ _ _ _ | resolved waited _ _ | givenUp waited _ _ => simp [closed] at waited

/-- A hand that is not known is resolved at once if the other source is known to be silent. -/
theorem goes_of_unknown {u : Turn} {source : Source} (observed : u.source? hand = some source)
    (closed : t.pending[hand]? = none) (unknown : t.history.contains hand = false)
    (stale : t.liveness source.other = .stale) :
    resultsOf hand (take u t).out = [t.settings.policy.decide (t.handId hand) (u.primary? hand)
      (u.secondary? hand) .sourceStale] := by
  cases fate_take hand u t with
  | cut _ _ _ _ goes => exact goes.results
  | spared unobserved _ _ _ => simp [unobserved] at observed
  | late _ _ known _ => simp [unknown] at known
  | opened observed' _ _ fresh _ _ _ _ _ =>
    obtain rfl := Option.some.inj (observed.symm.trans observed')
    simp [stale] at fresh
  | replaced _ waited _ _ _ _ | resolved waited _ _ | givenUp waited _ _ => simp [closed] at waited

end Showdown.Table
