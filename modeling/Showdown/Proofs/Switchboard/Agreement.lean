import Showdown.Proofs.Bus
import Showdown.Proofs.Switchboard.Delivery

/-!
# The bus and the switchboard

On a bus, each subscription keeps its own place in the register, and an event is offered to all of
them. On a switchboard, there is one register, and an event is tried with those that are listed.
Nobody can tell the two apart: whatever is done to both, the same is found in every mailbox, the
same subscriptions are left, and the count is the same (`agrees_of_run`).
-/

namespace Showdown

open Switchboard (Action Found)

namespace Bus

/-! ### Single actions on a bus -/

/-- Carries out an action on a bus. -/
def act (a : Action) (b : Bus) : Emission Bus Found :=
  match a with
  | .subscribe topic => .quiet (b.subscribe topic).1
  | .publish e => .quiet (b.publish e)
  | .receive id =>
    let (b, r) := b.receive id
    ⟨b, [(id, r)]⟩
  | .close id => .quiet (b.close id)
  | .unsubscribe topic id => .quiet (b.revoke topic id)
  | .drop id => .quiet (b.drop id)

/-- Carries out actions on a bus, one after another. -/
def run : List Action → Bus → Emission Bus Found :=
  Emission.forEach act

theorem get?_change (b : Bus) (id i : Nat) (f : Subscription → Subscription) :
    (b.change id f).get? i = (b.get? i).map fun s => if i = id then f s else s := by
  by_cases own : i = id
  · simp [get?, change, own]
  · simp [get?, change, own, Ne.symm own, Std.TreeMap.getElem?_alter]

theorem get?_subscribe (b : Bus) (topic : Topic) (i : Nat) :
    (b.subscribe topic).1.get? i = if i = b.next then some (.fresh topic) else b.get? i := by
  split
  · rename_i new
    simp [get?, subscribe, new]
  · rename_i old
    exact getElem?_insert_of_ne _ old _

theorem get?_drop (b : Bus) (id i : Nat) :
    (b.drop id).get? i = if i = id then none else b.get? i := by
  split
  · rename_i own
    simp [get?, drop, own]
  · rename_i other
    exact getElem?_erase_of_ne _ other

theorem get?_receive (b : Bus) (id i : Nat) :
    (b.receive id).1.get? i = (b.get? i).map fun s => if i = id then s.receive.1 else s := by
  cases known : b.get? id with
  | none =>
    rw [receive, known]
    by_cases own : i = id
    · rw [own, known]
      rfl
    · simp [own]
  | some s =>
    rw [receive_eq known]
    by_cases own : i = id
    · subst own
      rw [known]
      simp [get?]
    · simp only [own, ↓reduceIte, Option.map_id']
      exact getElem?_insert_of_ne _ own _

theorem receipt_receive (b : Bus) (id : Nat) :
    (b.receive id).2 = ((b.get? id).map fun s => s.receive.2).getD .over := by
  cases known : b.get? id with
  | none => simp [receive, known]
  | some s => simp [receive_eq known]

theorem next_receive (b : Bus) (id : Nat) : (b.receive id).1.next = b.next := by
  unfold receive
  split <;> rfl

/-- The count of a bus on which numbers are given out in order. -/
theorem count_eq {b : Bus} (unused : ∀ id, b.next ≤ id → b.get? id = none) :
    b.count = (List.range b.next).countP fun id =>
      (b.get? id).any Subscription.registered := by
  have found {entry : Nat × Subscription} :
      entry ∈ b.subscriptions.toList ↔ b.get? entry.1 = some entry.2 :=
    Std.TreeMap.mem_toList_iff_getElem?_eq_some
  have nodup : ((b.subscriptions.toList.filter fun e => e.2.registered).map Prod.fst).Nodup := by
    refine List.Nodup.sublist (List.filter_sublist.map _) ?_
    rw [Std.TreeMap.map_fst_toList_eq_keys]
    exact Std.TreeMap.nodup_keys
  rw [count, List.countP_eq_length_filter, List.countP_eq_length_filter,
    ← List.length_map (f := Prod.fst)]
  refine ((List.perm_ext_iff_of_nodup nodup (List.nodup_range.filter _)).mpr fun id => ?_).length_eq
  simp only [List.mem_map, List.mem_filter, List.mem_range, Option.any_eq_true]
  constructor
  · rintro ⟨entry, ⟨mem, registered⟩, rfl⟩
    have known := found.mp mem
    refine ⟨?_, entry.2, known, registered⟩
    by_contra late
    cases (unused _ (Nat.le_of_not_lt late)).symm.trans known
  · rintro ⟨-, s, known, registered⟩
    exact ⟨(id, s), ⟨found.mpr known, registered⟩, rfl⟩

end Bus

namespace Switchboard

variable {b : Switchboard} {bus : Bus}

/-- A switchboard and a bus have the same subscriptions. -/
structure Agrees (b : Switchboard) (bus : Bus) : Prop where
  /-- Subscriptions are listed as they should be. -/
  sound : Sound b
  /-- The next subscription gets the same number. -/
  next : bus.next = b.next
  /-- Each subscription is as it is on the bus. -/
  get? : ∀ id, bus.get? id = b.subscription? id

theorem agrees_empty : Agrees empty .empty :=
  ⟨sound_empty, rfl, fun id => by simp [Bus.get?, Bus.empty, subscription?, empty]⟩

/-- **An action does the same to both.** -/
theorem Agrees.act (agrees : Agrees b bus) (a : Action) :
    Agrees (act a b).state (bus.act a).state ∧ (bus.act a).out = (act a b).out := by
  have sound := sound_act agrees.sound a
  cases a with
  | subscribe topic =>
    refine ⟨⟨sound, congrArg (· + 1) agrees.next, fun id => ?_⟩, rfl⟩
    exact (bus.get?_subscribe topic id).trans <| by
      rw [agrees.next, agrees.get?, ← subscription?_subscribe]
      rfl
  | publish e =>
    refine ⟨⟨sound, agrees.next.trans (next_publish b e).symm, fun id => ?_⟩, rfl⟩
    exact (bus.get?_publish e id).trans <| by
      rw [agrees.get?, ← subscription?_publish agrees.sound]
      rfl
  | receive i =>
    refine ⟨⟨sound, (bus.next_receive i).trans (agrees.next.trans (next_receive b i).symm),
      fun id => ?_⟩, ?_⟩
    · exact (bus.get?_receive i id).trans <| by
        rw [agrees.get?, ← subscription?_receive]
        rfl
    · have found : (bus.receive i).2 = (b.receive i).2 := by
        rw [bus.receipt_receive, agrees.get?, receipt_receive]
      exact congrArg (fun r => [(i, r)]) found
  | close i =>
    refine ⟨⟨sound, agrees.next.trans (next_close b i).symm, fun id => ?_⟩, rfl⟩
    exact (bus.get?_change i id _).trans <| by
      rw [agrees.get?, ← subscription?_close]
      rfl
  | unsubscribe topic i =>
    refine ⟨⟨sound, agrees.next.trans (next_unsubscribe b topic i).symm, fun id => ?_⟩, rfl⟩
    refine (bus.get?_change i id _).trans ?_
    rw [agrees.get?]
    refine Eq.trans ?_ (subscription?_unsubscribe b topic i id).symm
    simp only [ite_and]
  | drop i =>
    refine ⟨⟨sound, agrees.next.trans (next_drop b i).symm, fun id => ?_⟩, rfl⟩
    exact (bus.get?_drop i id).trans <| by
      rw [agrees.get?, ← subscription?_drop]
      rfl

theorem Agrees.run (agrees : Agrees b bus) (acts : List Action) :
    Agrees (run acts b).state (bus.run acts).state ∧ (bus.run acts).out = (run acts b).out := by
  induction acts generalizing b bus with
  | nil => exact ⟨agrees, rfl⟩
  | cons a acts ih =>
    obtain ⟨first, out⟩ := agrees.act a
    obtain ⟨rest, out'⟩ := ih first
    exact ⟨rest, congr (congrArg _ out) out'⟩

theorem Agrees.count (agrees : Agrees b bus) : bus.count = b.count := by
  have unused (id : Nat) (h : bus.next ≤ id) : bus.get? id = none := by
    rw [agrees.get?, subscription?, agrees.sound.unused (agrees.next ▸ h)]
    rfl
  rw [Bus.count_eq unused, agrees.sound.count_eq, agrees.next]
  simp only [agrees.get?]
  rfl

/-- **A bus and a switchboard cannot be told apart**, whatever is done to both. -/
theorem agrees_of_run (acts : List Action) :
    (Bus.empty.run acts).out = (run acts .empty).out ∧
      (∀ id, (Bus.empty.run acts).state.get? id = (run acts .empty).state.subscription? id) ∧
      (Bus.empty.run acts).state.count = (run acts .empty).state.count := by
  obtain ⟨agrees, out⟩ := agrees_empty.run acts
  exact ⟨out, agrees.get?, agrees.count⟩

end Switchboard

end Showdown
