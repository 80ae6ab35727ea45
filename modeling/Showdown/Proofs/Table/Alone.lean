import Showdown.Proofs.Table.Solo

/-!
# Hands do not interfere

Of two runs of a table, one is asked everything and the other one the same without the observations
of other hands. They number the openings of a hand differently, run different timers and resolve
different hands. Still they agree on one hand, since both show it as it is by itself: the first one
because a hand fares at a table as it would by itself (`Solo.Shows.run`), the second one for the
same reason, and the hand by itself does not notice what is left out (`Solo.run_filter`).

A table that has resolved more than 512 hands has forgotten the first ones, and then other hands do
matter: what arrives late may open a forgotten hand once more. A table with no other hand resolves
no more than one (`Only.few`).

Somebody in haste lets a number of timers run out, whichever hands they are for. Without the other
hands it has to be another number, so such a run is compared to one that differs from it in these
numbers (`Request.Alike`).
-/

namespace Showdown

/-- A hand that does not wait and is not observed stands. -/
theorem Table.stands_of_unobserved {t : Table} {hand : HandNumber} {u : Turn}
    (closed : t.pending[hand]? = none) (unobserved : u.source? hand = none) :
    Stands hand t (take u t) := by
  cases fate_take hand u t with
  | spared _ _ _ stands | late _ _ _ stands => exact stands
  | opened observed _ _ _ _ _ _ _ _ | cut observed _ _ _ _ | replaced observed _ _ _ _ _ =>
    rw [unobserved] at observed
    cases observed
  | resolved waited _ _ | givenUp waited _ _ =>
    rw [closed] at waited
    cases waited

namespace TimedTable

open Table (Turn take)

variable {a : Solo} {hands : List HandNumber} {t : TimedTable}

/-! ### Requests -/

/-- The same request, but for the number of timers that run out in haste. -/
inductive Request.Alike : Request → Request → Prop where
  /-- The same request. -/
  | same (q : Request) : Alike q q
  /-- The same time passes in haste. -/
  | hasten (count count' ms : Nat) : Alike (.hasten count ms) (.hasten count' ms)

/-- A request that concerns a hand: any but an observation of another hand. -/
def Request.concerns (hand : HandNumber) : Request → Bool
  | .primary r => r.handNumber == hand
  | .secondary r => r.handNumber == hand
  | .health .. | .snapshot | .advance _ | .hasten .. | .shutdown | .abandon => true

theorem Request.Alike.concerns_eq {q q' : Request} (h : q.Alike q') (hand : HandNumber) :
    q.concerns hand = q'.concerns hand := by
  cases h <;> rfl

theorem alike_of_forall₂ {qs qs' : List Request} (h : List.Forall₂ Request.Alike qs qs')
    (orderly : ∀ count ms, Request.hasten count ms ∉ qs) : qs' = qs := by
  induction h with
  | nil => rfl
  | cons alike _ ih =>
    cases alike with
    | same q => rw [ih fun count ms mem => orderly count ms (List.mem_cons_of_mem _ mem)]
    | hasten count count' ms => exact absurd List.mem_cons_self (orderly count ms)

/-! ### What is asked -/

namespace Solo

theorem Shows.perform_turn (h : a.Shows hands t) (few : hands.length ≤ Table.History.capacity)
    {q : Request} {u : Turn} (asked : q.turn? = some u) :
    Mirrors a.hand hands (t.perform q) (a.perform q) := by
  rw [TimedTable.perform_of_turn asked, perform_of_turn asked, ← h.accepting]
  split
  · rename_i accepting
    exact h.takeTurn accepting (expires?_of_asked asked a.hand) fun _ => few
  · exact mirrors_quiet h a.hand

theorem Shows.perform_advance (h : a.Shows hands t) (ms : Nat) :
    Mirrors a.hand hands (t.perform (.advance ms)) (a.perform (.advance ms)) := by
  obtain ⟨b, passes, mirrors⟩ := h.ticks (ticks_advance h.regular ms)
  obtain ⟨now, left⟩ := now_advance h.regular ms
  rw [now] at passes
  have same : b = a.perform (.advance ms) := by
    refine (passes.eq_pass_true fun p waits => ?_).trans (h.now ▸ rfl)
    obtain ⟨key, running⟩ := mirrors.state.running waits
    exact Nat.lt_irrefl _ (left _ running)
  exact same ▸ mirrors

/-- In haste the timer of the hand may or may not be among those that run out. -/
theorem Shows.perform_hasten (h : a.Shows hands t) (count ms : Nat) : ∃ count',
    Mirrors a.hand hands (t.perform (.hasten count ms)) (a.perform (.hasten count' ms)) := by
  obtain ⟨b, passes, mirrors⟩ := h.ticks (ticks_hasten h.regular count ms)
  rw [now_hasten h.regular, h.now] at passes
  obtain ⟨isOver, rfl⟩ := passes.eq_pass
  refine ⟨isOver.toNat, ?_⟩
  cases isOver <;> exact mirrors

/-- **What is asked of a table does to a hand what it does to the hand by itself.** -/
theorem Shows.perform (h : a.Shows hands t) (few : hands.length ≤ Table.History.capacity)
    (q : Request) : ∃ q', q.Alike q' ∧ Mirrors a.hand hands (t.perform q) (a.perform q') := by
  cases q with
  | advance ms => exact ⟨_, .same _, h.perform_advance ms⟩
  | hasten count ms =>
    obtain ⟨count', mirrors⟩ := h.perform_hasten count ms
    exact ⟨_, .hasten count count' ms, mirrors⟩
  | primary | secondary | health | snapshot | shutdown | abandon =>
    exact ⟨_, .same _, h.perform_turn few rfl⟩

theorem hand_perform (q : Request) (a : Solo) : (a.perform q).state.hand = a.hand := by
  have turn (u : Turn) : (if a.accepting then a.takeTurn u else .quiet a).state.hand = a.hand := by
    split <;> rfl
  have pass (time : Nat) (isOver : Bool) : (a.pass time isOver).state.hand = a.hand := by
    unfold pass
    split
    · split <;> rfl
    · rfl
    · rfl
  cases q with
  | advance | hasten => exact pass _ _
  | primary | secondary | health | snapshot | shutdown | abandon => exact turn _

/-- **A hand of a table fares as it would by itself**, in haste with as many timers that run out as
it takes. -/
theorem Shows.run (h : a.Shows hands t) (qs : List Request)
    (few : (hands ++ resolved (TimedTable.run qs t).out).length ≤ Table.History.capacity) :
    ∃ qs', List.Forall₂ Request.Alike qs qs' ∧
      resultsOf a.hand (TimedTable.run qs t).out = (a.run qs').out := by
  induction qs generalizing a hands t with
  | nil => exact ⟨[], .nil, rfl⟩
  | cons q qs ih =>
    have out : (TimedTable.run (q :: qs) t).out =
      (t.perform q).out ++ (TimedTable.run qs (t.perform q).state).out := rfl
    rw [out, resolved_append, ← List.append_assoc] at few
    have fewNow : hands.length ≤ Table.History.capacity := by
      simp only [List.length_append] at few
      omega
    obtain ⟨q', alike, now⟩ := h.perform fewNow q
    obtain ⟨qs', alikes, later⟩ := ih now.state few
    rw [hand_perform] at later
    refine ⟨q' :: qs', .cons alike alikes, ?_⟩
    rw [out, resultsOf_append, now.results, later]
    rfl

end Solo

/-! ### A table with no other hand -/

/-- A table has had to do with no hand but one. -/
structure Only (hand : HandNumber) (hands : List HandNumber) (t : TimedTable) : Prop where
  /-- No other hand was resolved. -/
  resolved : ∀ other ∈ hands, other = hand
  /-- No other hand waits. -/
  closed : ∀ other ≠ hand, t.table.pending[other]? = none
  /-- No timer of another hand runs. -/
  timers : ∀ timer ∈ t.agenda.timers, timer.key.hand = hand

theorem only_opened (tableId : TableId) (settings : Table.Settings) (hand : HandNumber) :
    Only hand [] (opened tableId settings) where
  resolved := fun _ mem => nomatch mem
  closed := fun _ _ => Std.TreeMap.getElem?_emptyc
  timers := fun _ runs => nomatch runs

namespace Only

variable {hand : HandNumber} {tableId : TableId} {settings : Table.Settings}

/-- No hand is resolved twice as long as there are no others in between. -/
theorem few (o : Only hand hands t) (r : t.table.Remembers hands) :
    hands.length ≤ Table.History.capacity := by
  match hands, o.resolved, r.spaced with
  | [], _, _ | [_], _, _ => simp [Table.History.capacity]
  | first :: second :: hands, own, spaced =>
    obtain rfl : first = hand := own _ (by simp)
    obtain rfl : second = first := own _ (by simp)
    have between := spaced [] _ [] hands rfl
    simp [Table.History.capacity] at between

theorem takeTurn (o : Only hand hands t) (taken : t.outlet = none) {u : Turn}
    (unobserved : ∀ other ≠ hand, u.source? other = none) :
    Only hand (hands ++ TimedTable.resolved (t.takeTurn u).out) (t.takeTurn u).state := by
  have stands (other : HandNumber) (h : other ≠ hand) :
      Table.Stands other t.table (take u t.table) :=
    Table.stands_of_unobserved (o.closed other h) (unobserved other h)
  rw [takeTurn_of_taken taken]
  refine ⟨fun other mem => ?_, fun other h => ?_, fun timer runs => ?_⟩
  · by_contra h
    rcases List.mem_append.mp mem with before | now
    · exact h (o.resolved other before)
    · rw [resolved_stamped, Table.mem_resolved_iff] at now
      exact now (stands other h).unresolved
  · exact (stands other h).pending.trans (o.closed other h)
  · by_contra h
    exact h (o.timers timer (((stands _ h).timers _ _ timer rfl).mp runs))

theorem stop (o : Only hand hands t) (key : TimerKey) :
    Only hand hands { t with agenda := t.agenda.stop key } :=
  ⟨o.resolved, o.closed, fun timer runs => o.timers timer (List.mem_of_mem_filter runs)⟩

theorem strike (o : Only hand hands t) (taken : t.outlet = none) (timer : Timer) :
    Only hand (hands ++ TimedTable.resolved (t.strike timer).out) (t.strike timer).state := by
  have nothing : hands ++ TimedTable.resolved [] = hands := List.append_nil hands
  by_cases runs : timer ∈ t.agenda.timers
  · rw [strike_of_mem runs]
    split
    · rw [send_expired]
      exact (o.stop timer.key).takeTurn taken fun _ _ => rfl
    · exact nothing.symm ▸ o.stop timer.key
  · rw [strike_of_not_mem runs]
    exact nothing.symm ▸ o

theorem ticks (o : Only hand hands t) (h : Regular tableId settings t)
    {e : Emission TimedTable Stamped} (s : Chain Ticks t e) :
    Only hand (hands ++ TimedTable.resolved e.out) e.state := by
  refine (Chain.ensures (P := fun t out => Regular tableId settings t ∧
    Only hand (hands ++ TimedTable.resolved out) t) (fun {t e out} s ⟨h, o⟩ => ⟨h.ticks s, ?_⟩) s
    ⟨h, (List.append_nil hands).symm ▸ o⟩).2
  rw [resolved_append, ← List.append_assoc]
  cases s with
  | pass _ _ =>
    rw [Emission.out_quiet]
    exact (List.append_nil _).symm ▸ ⟨o.resolved, o.closed, o.timers⟩
  | strike _ _ => exact o.strike h.taken _

theorem perform (o : Only hand hands t) (h : Regular tableId settings t) {q : Request}
    (concerned : q.concerns hand = true) :
    Only hand (hands ++ TimedTable.resolved (t.perform q).out) (t.perform q).state := by
  cases asked : q.turn? with
  | none => exact o.ticks h (ticks_perform h asked)
  | some u =>
    rw [perform_of_turn asked]
    split
    · refine o.takeTurn h.taken fun other differs => ?_
      cases q with
      | primary r | secondary r =>
        cases asked
        have own : r.handNumber = hand := beq_iff_eq.mp concerned
        simp [Turn.source?, own, differs.symm]
      | health | snapshot | advance | hasten | shutdown | abandon => cases asked <;> rfl
    · exact (List.append_nil hands).symm ▸ o

/-- There is one timer at most. -/
theorem timer_unique (o : Only a.hand hands t) (h : a.Shows hands t) :
    ∀ timer ∈ t.agenda.timers, ∀ timer' ∈ t.agenda.timers, timer = timer' := by
  intro timer runs timer' runs'
  have shown := h.stage
  generalize a.stage = stage at shown
  cases shown with
  | unseen _ _ untimed | resolved _ _ untimed =>
    exact absurd (o.timers timer runs) (untimed timer runs)
  | waits _ _ _ timers =>
    exact ((timers timer (o.timers timer runs)).mp runs).trans
      ((timers timer' (o.timers timer' runs')).mp runs').symm

end Only

/-- If there is one timer at most, it is among those that run out in haste. -/
theorem left_fireSome {tableId : TableId} {settings : Table.Settings}
    (h : Regular tableId settings t)
    (unique : ∀ timer ∈ t.agenda.timers, ∀ timer' ∈ t.agenda.timers, timer = timer') (count : Nat) :
    ∀ timer ∈ (t.fireSome (count + 1)).state.agenda.timers, t.now < timer.due := by
  obtain ⟨fired, left⟩ := ticks_forEach_fire h (inTurn_take_due h (count + 1))
  have taken := (fired.preserves (fun s h => h.ticks s) h).taken
  intro timer running
  rw [fireSome, Emission.state_andThen, goOn_of_taken taken, ite_self, Emission.state_quiet]
    at running
  obtain ⟨runs, notFired⟩ := left timer running
  by_contra isDue
  have due : timer ∈ t.agenda.due t.now := Agenda.mem_due.mpr ⟨runs, Nat.le_of_not_lt isDue⟩
  obtain ⟨first, rest, split⟩ := List.exists_cons_of_ne_nil (List.ne_nil_of_mem due)
  have mem : first ∈ t.agenda.due t.now := split ▸ List.mem_cons_self
  have same : timer = first := unique timer runs first (Agenda.mem_due.mp mem).1
  rw [split, List.take_succ_cons, same] at notFired
  exact notFired List.mem_cons_self

namespace Solo

/-- In haste the timer of the hand runs out if any does. -/
theorem Shows.perform_hasten_of_only (h : a.Shows hands t) (o : Only a.hand hands t)
    (count ms : Nat) :
    Mirrors a.hand hands (t.perform (.hasten count ms)) (a.perform (.hasten count ms)) := by
  obtain ⟨b, passes, mirrors⟩ := h.ticks (ticks_hasten h.regular count ms)
  rw [now_hasten h.regular, h.now] at passes
  obtain ⟨e, before, now, idle, same⟩ := hasten_eq h.regular count ms
  have regular := before.preserves (fun s h => h.ticks s) h.regular
  suffices b = a.perform (.hasten count ms) from this ▸ mirrors
  cases count with
  | zero =>
    refine passes.eq_pass_false fun p waits => ?_
    obtain ⟨key, running⟩ := h.running waits
    have nothing : e.out = [] := idle fun timer runs => by
      rw [o.timer_unique h timer runs _ running, h.now]
    rw [← mirrors.results, same, Emission.out_andThen, nothing, fireSome, List.take_zero,
      Emission.forEach_nil, Emission.out_andThen, Emission.state_quiet,
      goOn_of_taken regular.taken, ite_self]
    rfl
  | succ count =>
    refine passes.eq_pass_true fun p waits => ?_
    obtain ⟨key, running⟩ := mirrors.state.running waits
    obtain ⟨b', passes', mirrors'⟩ := h.ticks before
    have unique := (passes'.hand ▸ o.ticks h.regular before).timer_unique mirrors'.state
    rw [same] at running
    have later := left_fireSome regular unique count _ running
    rw [now, h.now] at later
    exact Nat.lt_irrefl _ later

/-- A hand of a table with no other hand fares as it would by itself, in haste too. -/
theorem Shows.perform_of_only (h : a.Shows hands t) (o : Only a.hand hands t) (q : Request) :
    Mirrors a.hand hands (t.perform q) (a.perform q) := by
  cases q with
  | advance ms => exact h.perform_advance ms
  | hasten count ms => exact h.perform_hasten_of_only o count ms
  | primary | secondary | health | snapshot | shutdown | abandon =>
    exact h.perform_turn (o.few h.remembers) rfl

theorem Shows.run_of_only (h : a.Shows hands t) (o : Only a.hand hands t) {qs : List Request}
    (concerned : ∀ q ∈ qs, q.concerns a.hand = true) :
    resultsOf a.hand (TimedTable.run qs t).out = (a.run qs).out := by
  induction qs generalizing a hands t with
  | nil => rfl
  | cons q qs ih =>
    obtain ⟨first, others⟩ := List.forall_mem_cons.mp concerned
    have now := h.perform_of_only o q
    have same := hand_perform q a
    have later := ih now.state (same.symm ▸ o.perform h.regular first) (same.symm ▸ others)
    rw [same] at later
    show resultsOf a.hand ((t.perform q).out ++ (TimedTable.run qs (t.perform q).state).out) = _
    rw [resultsOf_append, now.results, later]
    rfl

/-- Nothing happens to a hand when another one is observed. -/
theorem perform_of_unconcerned {q : Request} (h : q.concerns a.hand = false) :
    a.perform q = .quiet a := by
  cases q with
  | primary r | secondary r =>
    have other : r.handNumber ≠ a.hand := by simpa [Request.concerns] using h
    rw [perform_of_turn rfl, takeTurn_of_spares ⟨by simp [Turn.source?, other], fun _ => rfl, rfl⟩,
      ite_self]
  | health | snapshot | advance | hasten | shutdown | abandon => cases h

/-- A hand by itself does not depend on what does not concern it. -/
theorem run_filter (qs : List Request) (a : Solo) :
    a.run (qs.filter (Request.concerns a.hand)) = a.run qs := by
  induction qs generalizing a with
  | nil => rfl
  | cons q qs ih =>
    have cons (qs : List Request) : a.run (q :: qs) = (a.perform q).andThen (Solo.run qs) := rfl
    cases concerned : q.concerns a.hand with
    | true =>
      have rest := ih (a.perform q).state
      rw [hand_perform] at rest
      rw [List.filter_cons_of_pos concerned, cons, cons, Emission.andThen, Emission.andThen, rest]
    | false =>
      rw [List.filter_cons_of_neg (by simp [concerned]), cons, perform_of_unconcerned concerned, ih]
      rfl

end Solo

/-- **Hands do not interfere.** As long as a table has no more than 512 results, the observations of
other hands may be left out of what is asked of it: a hand has the same results at the same times,
or none. That is so if nobody is in haste; if somebody is, then it is so for another number of
timers that run out, as those of the other hands do not count. -/
theorem alone_of_run (tableId : TableId) (settings : Table.Settings) (hand : HandNumber)
    (qs : List Request)
    (few : (Table.results ((run qs (opened tableId settings)).out.map Stamped.output)).length ≤
      512) :
    ((∀ count ms, Request.hasten count ms ∉ qs) →
      resultsOf hand (run (qs.filter (Request.concerns hand)) (opened tableId settings)).out =
        resultsOf hand (run qs (opened tableId settings)).out) ∧
    ∃ qs', List.Forall₂ Request.Alike (qs.filter (Request.concerns hand)) qs' ∧
      resultsOf hand (run qs' (opened tableId settings)).out =
        resultsOf hand (run qs (opened tableId settings)).out := by
  have shown := Solo.shows_opened tableId settings hand
  have only := only_opened tableId settings hand
  have few' : ([] ++ resolved (run qs (opened tableId settings)).out).length ≤
      Table.History.capacity := by
    simpa [resolved, Table.resolved, Table.History.capacity] using few
  obtain ⟨qs', alike, whole⟩ := shown.run qs few'
  have part : resultsOf hand
      (run (qs'.filter (Request.concerns hand)) (opened tableId settings)).out =
        resultsOf hand (run qs (opened tableId settings)).out :=
    calc _ = (Solo.run (qs'.filter (Request.concerns hand)) (.opened tableId settings hand)).out :=
          shown.run_of_only only fun q mem => (List.mem_filter.mp mem).2
      _ = (Solo.run qs' (.opened tableId settings hand)).out :=
          congrArg Emission.out (Solo.run_filter qs' (.opened tableId settings hand))
      _ = _ := whole.symm
  refine ⟨fun orderly => ?_, _, ?_, part⟩
  · rw [alike_of_forall₂ alike orderly] at part
    exact part
  · exact List.rel_filter (fun _ _ h => iff_of_eq (congrArg (· = true) (h.concerns_eq hand))) alike

/-- The video observes a hand, then another one, and the first one once more. -/
def twoHands : List Request :=
  [.secondary { Table.unnamed with handNumber := 8 }, .advance 200, .secondary Table.unnamed,
    .advance 600, .secondary { Table.unnamed with handNumber := 8 }, .advance 400, .shutdown]

/-- A hand that is opened as the second one of a table is resolved as if it were the first one. -/
theorem alone_of_twoHands :
    resultsOf 7 (run (twoHands.filter (Request.concerns 7))
        (opened "T1" ⟨.standard, 1000, 3⟩)).out =
      resultsOf 7 (run twoHands (opened "T1" ⟨.standard, 1000, 3⟩)).out ∧
    (resultsOf 7 (run twoHands (opened "T1" ⟨.standard, 1000, 3⟩)).out).map
      (fun x => (x.1, x.2.resolution)) = [(1200, .windowExpired)] :=
  ⟨(alone_of_run "T1" ⟨.standard, 1000, 3⟩ 7 twoHands (by decide +kernel)).1
    (by simp [twoHands]), by decide +kernel⟩

end TimedTable

end Showdown
