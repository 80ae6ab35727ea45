import Showdown.Proofs.Lookup
import Showdown.Proofs.Table.History
import Showdown.Proofs.Table.Steps

/-!
# The invariant of a table

Whatever messages a table has handled, its parts fit together: each waiting hand waits for just
one source, which delivers, and with a timer of its own; the hands that wait are none of those
remembered; and the counters add up to the results handed on. `Invariant` lists all this of a table
and what it has put out so far, and `invariant_run` says that it holds after any messages.

In the middle of a message the invariant may fail: when the second observation of a hand has been
put down but the hand is not resolved yet, or when a source was found silent and some hands still
wait for it. The hands concerned are exempt from `Waits` until they have left the table; all the
rest, `Booked`, never fails.
-/

namespace Showdown.Table

/-! ### The parts of the invariant -/

/-- A hand waits as it should. -/
structure Pending.Waits (p : Pending) (t : Table) : Prop where
  /-- One of the two observations is there, and the other one is not. -/
  oneSided : p.primary.isSome ≠ p.secondary.isSome
  /-- The source that it waits for delivers. -/
  awaited : ∃ source, p.awaited = some source ∧ t.liveness source = .fresh
  /-- It has a timer. -/
  timed : p.timed = true

/-- The timers that are running after some outputs: started, and not stopped since. -/
def timers (out : List Output) : Agenda :=
  out.foldl (Agenda.heed 0) .empty

/-- What holds of a table and what it has put out, even in the middle of a message. -/
structure Booked (t : Table) (out : List Output) : Prop where
  /-- The openings of the waiting hands are among those counted. -/
  generation_mem : ∀ (hand : HandNumber) (p : Pending), t.pending[hand]? = some p →
    1 ≤ p.generation ∧ p.generation ≤ t.generation
  /-- No two waiting hands have the same opening. -/
  generation_inj : ∀ (hand hand' : HandNumber) (p p' : Pending), t.pending[hand]? = some p →
    t.pending[hand']? = some p' → p.generation = p'.generation → hand = hand'
  /-- No waiting hand is remembered as resolved. -/
  not_resolved : ∀ hand : HandNumber, t.pending[hand]?.isSome → hand ∉ t.history.order
  /-- The hands resolved of late are well kept. -/
  history : t.history.Sound
  /-- The total is the sum of the counters of outcomes. -/
  balanced : t.tally.Balanced
  /-- The total is the number of results handed on. -/
  total_eq_length : t.tally.total = (results out).length
  /-- The timers that are running are those of the waiting hands. -/
  runs_iff : ∀ key, (timers out).Runs key ↔
    ∃ (hand : HandNumber) (p : Pending), t.pending[hand]? = some p ∧ p.timed = true ∧
      key = t.timerKey hand p.generation

/-- All hands wait as they should, but for those exempt. -/
def AllWait (t : Table) (exempt : HandNumber → Prop) : Prop :=
  ∀ (hand : HandNumber) (p : Pending), t.pending[hand]? = some p → ¬ exempt hand → p.Waits t

/-- The invariant of a table and what it has put out. -/
structure Invariant (t : Table) (out : List Output) : Prop extends Booked t out where
  /-- Every waiting hand waits as it should. -/
  waits : ∀ (hand : HandNumber) (p : Pending), t.pending[hand]? = some p → p.Waits t

theorem Invariant.of_allWait {t : Table} {out : List Output} (b : Booked t out)
    {exempt : HandNumber → Prop} (w : AllWait t exempt) (none : ∀ hand, ¬ exempt hand) :
    Invariant t out :=
  ⟨b, fun hand p hp => w hand p hp (none hand)⟩

theorem Invariant.allWait {t : Table} {out : List Output} (i : Invariant t out)
    (exempt : HandNumber → Prop) : AllWait t exempt :=
  fun hand p hp _ => i.waits hand p hp

theorem invariant_opened (tableId : TableId) (settings : Settings) :
    Invariant (opened tableId settings) [] := by
  refine ⟨⟨?_, ?_, ?_, History.sound_empty, rfl, rfl, ?_⟩, ?_⟩ <;>
    simp [opened, timers]

/-! ### A hand leaves -/

/-- A hand that leaves takes its timer along. If it has none, then none was running for it. -/
theorem Booked.runs_leave {t : Table} {out : List Output} (b : Booked t out) {hand : HandNumber}
    {p : Pending} {r : FusedHand} {e : Emission Table Output} (hp : t.pending[hand]? = some p)
    (l : Leaves hand p r t e) (key : TimerKey) :
    (timers (out ++ e.out)).Runs key ↔
      key ≠ t.timerKey hand p.generation ∧ (timers out).Runs key := by
  rw [timers, List.foldl_append, l.agenda, ← timers]
  split
  · rw [Agenda.runs_stop]
  · rename_i untimed
    refine ⟨fun h => ⟨?_, h⟩, And.right⟩
    rintro rfl
    obtain ⟨k, q, hq, ht, hk⟩ := (b.runs_iff _).mp h
    obtain rfl : hand = k := congrArg TimerKey.hand hk
    rw [hp, Option.some.injEq] at hq
    exact untimed (hq ▸ ht)

theorem Booked.leave {t : Table} {out : List Output} (b : Booked t out) {hand : HandNumber}
    {p : Pending} {r : FusedHand} {e : Emission Table Output} (hp : t.pending[hand]? = some p)
    (l : Leaves hand p r t e) : Booked e.state (out ++ e.out) := by
  have fresh : hand ∉ t.history.order := b.not_resolved hand (by simp [hp])
  have pending : ∀ k q, e.state.pending[k]? = some q → k ≠ hand ∧ t.pending[k]? = some q := by
    intro k q hq
    rwa [l.pending, getElem?_erase_eq_some_iff] at hq
  refine ⟨?_, ?_, ?_, ?_, ?_, ?_, ?_⟩
  · intro k q hq
    rw [l.generation]
    exact b.generation_mem k q (pending k q hq).2
  · intro k k' q q' hq hq' hg
    exact b.generation_inj k k' q q' (pending k q hq).2 (pending k' q' hq').2 hg
  · intro k hk hmem
    obtain ⟨q, hq⟩ := Option.isSome_iff_exists.mp hk
    obtain ⟨hne, hq⟩ := pending k q hq
    rw [l.history] at hmem
    rcases History.mem_order_of_mem_push b.history fresh hmem with hmem | rfl
    · exact b.not_resolved k (by simp [hq]) hmem
    · exact hne rfl
  · rw [l.history]
    exact b.history.push fresh
  · rw [l.tally]
    exact b.balanced.add r
  · rw [l.tally, Tally.total_add, b.total_eq_length]
    simp [l.results]
  · intro key
    rw [b.runs_leave hp l, b.runs_iff, timerKey_congr l.tableId]
    constructor
    · rintro ⟨hne, k, q, hq, ht, rfl⟩
      have other : k ≠ hand := by
        rintro rfl
        rw [hp, Option.some.injEq] at hq
        exact hne (hq ▸ rfl)
      exact ⟨k, q, by rw [l.pending, getElem?_erase_eq_some_iff]; exact ⟨other, hq⟩, ht, rfl⟩
    · rintro ⟨k, q, hq, ht, rfl⟩
      obtain ⟨other, hq⟩ := pending k q hq
      exact ⟨fun h => other (congrArg TimerKey.hand h), k, q, hq, ht, rfl⟩

/-- What a hand needs to wait depends on whether the sources deliver, and on nothing else. -/
theorem Pending.Waits.congr {p : Pending} {t t' : Table} (w : p.Waits t)
    (h : t'.liveness = t.liveness) : p.Waits t' :=
  ⟨w.oneSided, by rw [h]; exact w.awaited, w.timed⟩

theorem AllWait.leave {t : Table} {exempt : HandNumber → Prop} (w : AllWait t exempt)
    {hand : HandNumber} {p : Pending} {r : FusedHand} {e : Emission Table Output}
    (l : Leaves hand p r t e) : AllWait e.state fun k => exempt k ∧ k ≠ hand := by
  intro k q hq hk
  rw [l.pending, getElem?_erase_eq_some_iff] at hq
  exact (w k q hq.2 fun h => hk ⟨h, hq.1⟩).congr l.liveness

/-- A step that makes a hand leave, if it waits. -/
structure Removes (f : HandNumber → Table → Emission Table Output) : Prop where
  /-- A waiting hand leaves. -/
  pending : ∀ {t : Table} {hand : HandNumber} {p : Pending}, t.pending[hand]? = some p →
    ∃ r, Leaves hand p r t (f hand t)
  /-- Otherwise nothing happens. -/
  quiet : ∀ {t : Table} {hand : HandNumber}, t.pending[hand]? = none → f hand t = .quiet t

theorem removes_resolve (resolution : Resolution) : Removes (resolve resolution) :=
  ⟨fun hp => ⟨_, resolve_leaves hp resolution⟩, fun hp => resolve_of_not_pending hp resolution⟩

theorem removes_giveUp : Removes giveUp :=
  ⟨fun hp => ⟨_, giveUp_leaves hp⟩, giveUp_of_not_pending⟩

/-- A hand that was exempt is so no more once it has been made to leave. -/
theorem Removes.step {f : HandNumber → Table → Emission Table Output} (hf : Removes f)
    {t : Table} {out : List Output} (b : Booked t out) {exempt : HandNumber → Prop}
    (w : AllWait t exempt) (hand : HandNumber) :
    Booked (f hand t).state (out ++ (f hand t).out) ∧
      AllWait (f hand t).state fun k => exempt k ∧ k ≠ hand := by
  cases hp : t.pending[hand]? with
  | none =>
    rw [hf.quiet hp, Emission.state_quiet, Emission.out_quiet, List.append_nil]
    refine ⟨b, fun k q hq hk => w k q hq fun h => hk ⟨h, ?_⟩⟩
    rintro rfl
    simp [hp] at hq
  | some p =>
    obtain ⟨r, l⟩ := hf.pending hp
    exact ⟨b.leave hp l, w.leave l⟩

/-- Once the one hand that is exempt has been made to leave, the invariant holds again. -/
theorem Removes.invariant {f : HandNumber → Table → Emission Table Output} (hf : Removes f)
    {t : Table} {out : List Output} (b : Booked t out) {hand : HandNumber}
    (w : AllWait t (· = hand)) : Invariant (f hand t).state (out ++ (f hand t).out) := by
  obtain ⟨b', w'⟩ := hf.step b w hand
  exact .of_allWait b' w' fun _ h => h.2 h.1

/-- Once all the hands that are exempt have been made to leave, the invariant holds again. -/
theorem Removes.forEach {f : HandNumber → Table → Emission Table Output} (hf : Removes f)
    (hands : List HandNumber) : ∀ {t : Table} {out : List Output}, Booked t out →
    AllWait t (· ∈ hands) → Invariant (Emission.forEach f hands t).state
      (out ++ (Emission.forEach f hands t).out) := by
  induction hands with
  | nil =>
    intro t out b w
    simpa using Invariant.of_allWait b w (by simp)
  | cons hand hands ih =>
    intro t out b w
    obtain ⟨b', w'⟩ := hf.step b w hand
    have w'' : AllWait (f hand t).state (· ∈ hands) := by
      intro k q hq hk
      refine w' k q hq fun h => hk ?_
      exact (List.mem_cons.mp h.1).resolve_left h.2
    simpa using ih b' w''

/-! ### A hand is opened or held -/

/-- Outputs without results and timers change nothing. -/
theorem Booked.append {t : Table} {out out' : List Output} (b : Booked t out)
    (hr : results out' = []) (ha : ∀ a, out'.foldl (Agenda.heed 0) a = a) :
    Booked t (out ++ out') := by
  refine { b with total_eq_length := ?_, runs_iff := fun key => ?_ }
  · rw [b.total_eq_length, results_append, hr, List.append_nil]
  · rw [timers, List.foldl_append, ha]
    exact b.runs_iff key

theorem Invariant.note {t : Table} {out : List Output} (i : Invariant t out) (n : Note) :
    Invariant t (out ++ [noted n]) :=
  ⟨i.toBooked.append rfl fun _ => rfl, i.waits⟩

/-- An observation is put down for a hand that waits, which stays the same opening. -/
theorem Booked.hold {t : Table} {out : List Output} (b : Booked t out) {hand : HandNumber}
    {p q : Pending} (hp : t.pending[hand]? = some p) (hg : q.generation = p.generation)
    (ht : q.timed = p.timed) :
    Booked { t with pending := t.pending.insert hand q } out := by
  -- every hand that waits now did so before, under the same opening and with the same timer
  have before : ∀ (k : HandNumber) (q' : Pending), (t.pending.insert hand q)[k]? = some q' →
      ∃ p', t.pending[k]? = some p' ∧ p'.generation = q'.generation ∧ p'.timed = q'.timed := by
    intro k q' hq
    rw [getElem?_insert_eq_some_iff] at hq
    rcases hq with ⟨rfl, rfl⟩ | ⟨-, hq⟩
    · exact ⟨p, hp, hg.symm, ht.symm⟩
    · exact ⟨q', hq, rfl, rfl⟩
  refine ⟨?_, ?_, ?_, b.history, b.balanced, b.total_eq_length, fun key => ?_⟩
  · intro k q' hq
    obtain ⟨p', hp', hg', -⟩ := before k q' hq
    exact hg' ▸ b.generation_mem k p' hp'
  · intro k k' q₁ q₂ h₁ h₂ hg₁₂
    obtain ⟨p₁, hp₁, hg₁, -⟩ := before k q₁ h₁
    obtain ⟨p₂, hp₂, hg₂, -⟩ := before k' q₂ h₂
    exact b.generation_inj k k' p₁ p₂ hp₁ hp₂ (by rw [hg₁, hg₂, hg₁₂])
  · intro k hk
    obtain ⟨q', hq⟩ := Option.isSome_iff_exists.mp hk
    obtain ⟨p', hp', -⟩ := before k q' hq
    exact b.not_resolved k (by simp [hp'])
  · rw [b.runs_iff]
    constructor
    · rintro ⟨k, p', hp', ht', rfl⟩
      by_cases hk : k = hand
      · subst hk
        rw [hp, Option.some.injEq] at hp'
        subst hp'
        refine ⟨k, q, ?_, ht.trans ht', by rw [hg]; rfl⟩
        rw [getElem?_insert_eq_some_iff]
        exact .inl ⟨rfl, rfl⟩
      · refine ⟨k, p', ?_, ht', rfl⟩
        rw [getElem?_insert_eq_some_iff]
        exact .inr ⟨hk, hp'⟩
    · rintro ⟨k, q', hq, ht', rfl⟩
      obtain ⟨p', hp', hg', htp⟩ := before k q' hq
      exact ⟨k, p', hp', htp.trans ht', by rw [hg']; rfl⟩

/-- A hand is opened under a number that no other opening has, with or without a timer. -/
theorem Booked.openHand {t : Table} {out out' : List Output} (b : Booked t out)
    {hand : HandNumber} {q : Pending} (hp : t.pending[hand]? = none)
    (hn : hand ∉ t.history.order) (hg : q.generation = t.generation + 1)
    (hr : results out' = [])
    (ha : ∀ a, out'.foldl (Agenda.heed 0) a =
      if q.timed then a.start ⟨0, t.timerKey hand q.generation⟩ else a) :
    Booked { t with generation := t.generation + 1, pending := t.pending.insert hand q }
      (out ++ out') := by
  have waiting : ∀ (k : HandNumber) (q' : Pending), (t.pending.insert hand q)[k]? = some q' →
      k = hand ∧ q' = q ∨ k ≠ hand ∧ t.pending[k]? = some q' :=
    fun k q' hq => (getElem?_insert_eq_some_iff ..).mp hq
  refine ⟨?_, ?_, ?_, b.history, b.balanced, ?_, fun key => ?_⟩
  · intro k q' hq
    rcases waiting k q' hq with ⟨-, rfl⟩ | ⟨-, hq⟩
    · rw [hg]
      exact ⟨by omega, Nat.le_refl _⟩
    · have bounds := b.generation_mem k q' hq
      exact ⟨bounds.1, Nat.le_succ_of_le bounds.2⟩
  · intro k k' q₁ q₂ h₁ h₂ hg₁₂
    rcases waiting k q₁ h₁ with ⟨rfl, rfl⟩ | ⟨-, hq₁⟩ <;>
      rcases waiting k' q₂ h₂ with ⟨rfl, rfl⟩ | ⟨-, hq₂⟩
    · rfl
    · have := b.generation_mem k' q₂ hq₂
      omega
    · have := b.generation_mem k q₁ hq₁
      omega
    · exact b.generation_inj k k' q₁ q₂ hq₁ hq₂ hg₁₂
  · intro k hk
    obtain ⟨q', hq⟩ := Option.isSome_iff_exists.mp hk
    rcases waiting k q' hq with ⟨rfl, -⟩ | ⟨-, hq⟩
    · exact hn
    · exact b.not_resolved k (by simp [hq])
  · rw [b.total_eq_length, results_append, hr, List.append_nil]
  · have started : (timers (out ++ out')).Runs key ↔
        (q.timed = true ∧ key = t.timerKey hand q.generation) ∨ (timers out).Runs key := by
      rw [timers, List.foldl_append, ha, ← timers]
      split
      · rename_i h
        simp [Agenda.runs_start, h]
      · rename_i h
        simp [h]
    rw [started, b.runs_iff]
    constructor
    · rintro (⟨ht, rfl⟩ | ⟨k, p', hp', ht, rfl⟩)
      · exact ⟨hand, q, (getElem?_insert_eq_some_iff ..).mpr (.inl ⟨rfl, rfl⟩), ht, rfl⟩
      · refine ⟨k, p', (getElem?_insert_eq_some_iff ..).mpr (.inr ⟨?_, hp'⟩), ht, rfl⟩
        rintro rfl
        simp [hp] at hp'
    · rintro ⟨k, q', hq, ht, rfl⟩
      rcases waiting k q' hq with ⟨rfl, rfl⟩ | ⟨-, hq⟩
      · exact .inl ⟨ht, rfl⟩
      · exact .inr ⟨k, q', hq, ht, rfl⟩

/-! ### Messages -/

variable {t : Table} {out : List Output}

/-- Whatever is put down for a hand, the others wait as they should. -/
theorem Invariant.allWait_insert (i : Invariant t out) (generation : Nat) (hand : HandNumber)
    (q : Pending) : AllWait
      { t with generation := generation, pending := t.pending.insert hand q } (· = hand) := by
  intro k q' hq other
  rcases (getElem?_insert_eq_some_iff ..).mp hq with ⟨rfl, -⟩ | ⟨-, hq⟩
  · exact absurd rfl other
  · exact (i.waits k q' hq).congr rfl

/-- A hand that is opened waits as it should, unless the source that it waits for is known to be
silent; in that case it leaves at once. -/
theorem Invariant.openHand (i : Invariant t out) {hand : HandNumber} {p : Pending}
    {arrived : Source} (hp : t.pending[hand]? = none)
    (awaited : p.awaited = some arrived.other) :
    Invariant (t.openHand hand p arrived).state (out ++ (t.openHand hand p arrived).out) := by
  unfold Table.openHand
  split
  · exact i.note _
  · rename_i hn
    have hn : hand ∉ t.history.order := by rwa [← i.history.contains_iff]
    by_cases fresh : t.liveness arrived.other = .fresh
    · simp only [fresh, decide_true, ↓reduceIte]
      refine ⟨i.toBooked.openHand hp hn rfl rfl fun a => rfl, fun k q hq => ?_⟩
      rcases (getElem?_insert_eq_some_iff ..).mp hq with ⟨-, rfl⟩ | ⟨-, hq⟩
      · exact ⟨Pending.oneSided_of_awaited awaited, ⟨_, awaited, fresh⟩, rfl⟩
      · exact (i.waits k q hq).congr rfl
    · simp only [fresh, decide_false, ↓reduceIte, Emission.state_after, Emission.out_after,
        ← List.append_assoc]
      let q : Pending := { p with generation := t.generation + 1, timed := false }
      let opened : Table :=
        { t with generation := t.generation + 1, pending := t.pending.insert hand q }
      have b : Booked opened (out ++ [noted (.waiting t.tableId hand arrived)]) :=
        i.toBooked.openHand hp hn rfl rfl fun a => rfl
      exact (removes_resolve .sourceStale).invariant b (i.allWait_insert _ hand q)

/-- An observation takes the place of an earlier one from the same source. -/
theorem Invariant.replace (i : Invariant t out) {hand : HandNumber} {p q : Pending} (n : Note)
    (hp : t.pending[hand]? = some p) (hg : q.generation = p.generation) (ht : q.timed = p.timed)
    (same : q.awaited = p.awaited) :
    Invariant { t with pending := t.pending.insert hand q } (out ++ [noted n]) := by
  refine .note ⟨i.toBooked.hold hp hg ht, fun k q' hq => ?_⟩ n
  rcases (getElem?_insert_eq_some_iff ..).mp hq with ⟨-, rfl⟩ | ⟨-, hq⟩
  · have w := i.waits hand p hp
    obtain ⟨source, awaited, fresh⟩ := w.awaited
    have awaits := same.trans awaited
    exact ⟨Pending.oneSided_of_awaited awaits, ⟨source, awaits, fresh⟩, ht.trans w.timed⟩
  · exact (i.waits k q' hq).congr rfl

/-- A hand is resolved as soon as its second observation has been put down. -/
theorem Invariant.matched (i : Invariant t out) {hand : HandNumber} {p q : Pending}
    (hp : t.pending[hand]? = some p) (hg : q.generation = p.generation) (ht : q.timed = p.timed) :
    let e := { t with pending := t.pending.insert hand q }.resolve .matched hand
    Invariant e.state (out ++ e.out) :=
  (removes_resolve .matched).invariant (i.toBooked.hold hp hg ht)
    (i.allWait_insert t.generation hand q)

/-- An observation opens a hand, takes the place of an earlier one, or is the second one. -/
theorem Invariant.observe (i : Invariant t out) {source : Source} {hand : HandNumber}
    {q : Pending} (awaited : q.awaited = some source.other) :
    Invariant (t.observe source hand q).state (out ++ (t.observe source hand q).out) := by
  cases hp : t.pending[hand]? with
  | none =>
    rw [observe_of_unknown hp]
    exact i.openHand hp awaited
  | some p =>
    cases held : p.has source with
    | true =>
      rw [observe_of_held hp held]
      refine i.replace _ hp rfl rfl (Pending.awaited_renew fun source' has => ?_)
      rwa [Pending.eq_of_has awaited has]
    | false =>
      rw [observe_of_missing hp held]
      exact i.matched hp rfl rfl

theorem Invariant.expire (i : Invariant t out) (hand : HandNumber) (generation : Nat) :
    Invariant (t.expire hand generation).state (out ++ (t.expire hand generation).out) := by
  unfold Table.expire
  split
  · exact (removes_resolve .windowExpired).invariant i.toBooked (i.allWait _)
  · exact i.note _

/-- The hands exempt after the sources were found to deliver or not are those cut off, and these
leave. -/
theorem Invariant.hearHealth (i : Invariant t out) (primary secondary : Liveness) :
    Invariant (t.hearHealth primary secondary).state
      (out ++ (t.hearHealth primary secondary).out) := by
  unfold Table.hearHealth
  refine (removes_resolve .sourceStale).forEach _ { i.toBooked with } fun hand p hp hk => ?_
  have w := i.waits hand p hp
  obtain ⟨source, ha, -⟩ := w.awaited
  refine ⟨w.oneSided, ⟨source, ha, ?_⟩, w.timed⟩
  cases hl : liveness { t with primary := primary, secondary := secondary } source with
  | fresh => rfl
  | stale => exact absurd ((mem_cutOff_iff _ hand).mpr ⟨p, hp, source, ha, hl⟩) hk

theorem Invariant.giveUpAll (i : Invariant t out) :
    Invariant t.giveUpAll.state (out ++ t.giveUpAll.out) := by
  unfold Table.giveUpAll
  simp only [Emission.state_after, Emission.out_after, ← List.append_assoc]
  refine removes_giveUp.forEach _ (i.toBooked.append ?_ ?_) (i.allWait _)
  · split <;> rfl
  · split <;> intro a <;> rfl

/-- Whatever the message, the table that handles it keeps the invariant. -/
theorem Invariant.handle (i : Invariant t out) (m : Message) :
    Invariant (t.handle m).state (out ++ (t.handle m).out) := by
  cases observed : m.observed? with
  | some hand =>
    obtain ⟨source, q, awaited, eq⟩ := handle_of_observed observed t
    rw [eq]
    exact i.observe awaited
  | none =>
    cases m with
    | primary | secondary => cases observed
    | health primary secondary => exact i.hearHealth primary secondary
    | expired hand generation => exact i.expire hand generation
    | snapshot => exact ⟨i.toBooked.append rfl fun _ => rfl, i.waits⟩
    | shutdown =>
      have closed := i.giveUpAll
      simp only [Table.handle, close, Emission.state_andThen, Emission.out_andThen,
        ← List.append_assoc]
      exact ⟨closed.toBooked.append rfl fun _ => rfl, closed.waits⟩

/-- **The invariant of a table**: it holds after any messages in any order, timers that run out for
hands and openings that never were included. -/
theorem invariant_run (tableId : TableId) (settings : Settings) (ms : List Message) :
    let e := Emission.forEach Table.handle ms (opened tableId settings)
    Invariant e.state e.out := by
  have := Emission.forEach_keeps (fun m t out (i : Invariant t out) => i.handle m) ms
    (opened tableId settings) [] (invariant_opened tableId settings)
  simpa using this

end Showdown.Table
