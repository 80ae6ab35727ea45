import Showdown.Proofs.Table.History
import Showdown.Proofs.Table.Moves
import Mathlib.Data.List.Dedup
import Mathlib.Data.List.Perm.Subperm

/-!
# How far back a table remembers

The hands that a table remembers are those of its last 512 results, in order, and no hand waits that
is among them. So between two results for one hand lie results for at least 512 other hands
(`Remembers.spaced`).
-/

namespace Showdown.Table

/-! ### Hands far apart -/

/-- Between any two places of a hand stand at least `n` different other hands. -/
def Spaced (n : Nat) (hands : List HandNumber) : Prop :=
  ∀ before hand between after, hands = before ++ hand :: (between ++ hand :: after) →
    n ≤ (between.filter (· ≠ hand)).dedup.length

theorem spaced_nil (n : Nat) : Spaced n [] := by
  intro before hand between after h
  simp at h

/-- What is spaced remains so if the hands at the end are left out. -/
theorem Spaced.of_append {n : Nat} {hands more : List HandNumber} (s : Spaced n (hands ++ more)) :
    Spaced n hands := by
  intro before hand between after h
  exact s before hand between (after ++ more) (by simp [h])

/-- If a hand is not among the last `n` of a list, and these differ from each other, then at least
`n` different other hands stand behind any place of that hand. -/
theorem le_length_dedup_of_not_mem_rtake {n : Nat} {before between : List HandNumber}
    {hand : HandNumber} (h : hand ∉ (before ++ hand :: between).rtake n)
    (nodup : ((before ++ hand :: between).rtake n).Nodup) :
    n ≤ (between.filter (· ≠ hand)).dedup.length := by
  have far : n ≤ between.length := by
    by_contra near
    rw [List.rtake, List.drop_append_of_le_length (by simp; omega)] at h
    simp at h
  have last : (before ++ hand :: between).rtake n = between.rtake n := by
    rw [List.rtake, List.rtake, List.append_cons, List.drop_append,
      List.drop_eq_nil_of_le (by simp; omega), List.nil_append]
    congr 1
    simp
    omega
  rw [last] at h nodup
  have others : between.rtake n ⊆ (between.filter (· ≠ hand)).dedup := by
    intro x hx
    rw [List.mem_dedup, List.mem_filter]
    exact ⟨List.mem_of_mem_drop hx, by simpa using fun e : x = hand => h (e ▸ hx)⟩
  calc n = (between.rtake n).length := by rw [List.rtake, List.length_drop]; omega
    _ ≤ (between.filter (· ≠ hand)).dedup.length := (List.Nodup.subperm nodup others).length_le

/-- A hand is put behind others, of which the last `n` differ from it and from each other. -/
theorem Spaced.append {n : Nat} {hands : List HandNumber} (s : Spaced n hands) {hand : HandNumber}
    (h : hand ∉ hands.rtake n) (nodup : (hands.rtake n).Nodup) : Spaced n (hands ++ [hand]) := by
  intro before x between after eq
  rcases List.eq_nil_or_concat after with rfl | ⟨after, y, rfl⟩
  · -- the later one of the two places is that of the new hand
    rw [show before ++ x :: (between ++ [x]) = (before ++ x :: between) ++ [x] by simp] at eq
    obtain ⟨rfl, last⟩ := List.append_inj' eq rfl
    obtain rfl : hand = x := List.singleton_inj.mp last
    exact le_length_dedup_of_not_mem_rtake h nodup
  · rw [show before ++ x :: (between ++ x :: after.concat y) =
      (before ++ x :: (between ++ x :: after)) ++ [y] by simp] at eq
    exact s before x between after (List.append_inj_left' eq rfl)

theorem rtake_rtake_append {α : Type} (xs : List α) (x : α) (n : Nat) :
    (xs.rtake n ++ [x]).rtake n = (xs ++ [x]).rtake n := by
  cases n with
  | zero => simp
  | succ n =>
    rw [List.rtake_concat_succ, List.rtake_concat_succ]
    congr 1
    simp only [List.rtake_eq_reverse_take_reverse, List.reverse_reverse, List.take_take]
    simp

/-! ### What is remembered -/

/-- A table that has resolved some hands, in this order, remembers what it should. -/
structure Remembers (t : Table) (hands : List HandNumber) : Prop where
  /-- What is remembered is well kept. -/
  sound : t.history.Sound
  /-- No hand that waits is remembered. -/
  not_pending : ∀ hand : HandNumber, t.pending[hand]?.isSome → hand ∉ t.history.order
  /-- The last 512 hands are remembered. -/
  order_eq : t.history.order = hands.rtake History.capacity
  /-- Two times that a hand was resolved are far apart. -/
  spaced : Spaced History.capacity hands

theorem remembers_opened (tableId : TableId) (settings : Settings) :
    Remembers (opened tableId settings) [] :=
  ⟨History.sound_empty, by simp [opened], rfl, spaced_nil _⟩

/-- As long as there were no more than 512 results, a table remembers all their hands. -/
theorem Remembers.contains_iff {t : Table} {hands : List HandNumber} (m : Remembers t hands)
    (few : hands.length ≤ History.capacity) (hand : HandNumber) :
    t.history.contains hand = true ↔ hand ∈ hands := by
  rw [m.sound.contains_iff, m.order_eq, List.rtake, Nat.sub_eq_zero_of_le few, List.drop_zero]

theorem Remembers.stay {t : Table} {e : Emission Table Output} {hands : List HandNumber}
    (s : Stays t e) (m : Remembers t hands) : Remembers e.state hands := by
  refine ⟨?_, fun hand hk => ?_, ?_, m.spaced⟩
  · rw [s.history]
    exact m.sound
  · rw [s.history]
    rcases s.opened hand hk with hk | unknown
    · exact m.not_pending hand hk
    · rw [← m.sound.contains_iff, unknown]
      exact Bool.false_ne_true
  · rw [s.history, m.order_eq]

theorem Remembers.leave {t : Table} {hand : HandNumber} {p : Pending} {r : FusedHand}
    {e : Emission Table Output} {hands : List HandNumber} (hp : t.pending[hand]? = some p)
    (l : Leaves hand p r t e) (m : Remembers t hands) : Remembers e.state (hands ++ [hand]) := by
  have unknown : hand ∉ t.history.order := m.not_pending hand (by simp [hp])
  refine ⟨?_, fun k hk => ?_, ?_, ?_⟩
  · rw [l.history]
    exact m.sound.push unknown
  · obtain ⟨q, hq⟩ := Option.isSome_iff_exists.mp hk
    rw [l.pending, getElem?_erase_eq_some_iff] at hq
    rw [l.history]
    intro hmem
    rcases History.mem_order_of_mem_push m.sound unknown hmem with hmem | rfl
    · exact m.not_pending k (by simp [hq.2]) hmem
    · exact hq.1 rfl
  · rw [l.history, m.sound.order_push unknown, m.order_eq, rtake_rtake_append]
  · exact m.spaced.append (m.order_eq ▸ unknown) (m.order_eq ▸ m.sound.nodup)

/-- The hands of the results among some outputs, in order. -/
def resolved (out : List Output) : List HandNumber :=
  (results out).map FusedHand.handNumber

@[simp] theorem resolved_append (out out' : List Output) :
    resolved (out ++ out') = resolved out ++ resolved out' := by
  simp [resolved]

theorem Remembers.moves {t : Table} {e : Emission Table Output} {hands : List HandNumber}
    (r : Remembers t hands) (c : Moves t e) : Remembers e.state (hands ++ resolved e.out) := by
  refine Moves.ensures (P := fun t out => Remembers t (hands ++ resolved out)) (fun s h => ?_)
    (fun {_ hand _ r _ _} hp l h => ?_) c (by simpa [resolved] using r)
  · rw [resolved, results_append, s.idle.results, List.append_nil]
    exact h.stay s
  · have number : r.handNumber = hand := congrArg HandId.handNumber l.id
    rw [resolved, results_append, l.results, List.map_append, ← List.append_assoc,
      List.map_singleton, number]
    exact h.leave hp l

theorem Remembers.handle {t : Table} {hands : List HandNumber} (r : Remembers t hands)
    (m : Message) : Remembers (t.handle m).state (hands ++ resolved (t.handle m).out) :=
  r.moves (moves_handle m t)

end Showdown.Table
