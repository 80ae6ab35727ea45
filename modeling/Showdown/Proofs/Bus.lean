import Showdown.Bus
import Showdown.Emission
import Showdown.Proofs.Lookup

/-!
# Readers that keep up

Whoever reads a subscription does so at any time between events that are published. A reader that
keeps up, so that there is always room for the next event, misses nothing: what was read and what
is still unread are all events of the topic, each once and in order (`read_append_unread`).
-/

namespace Showdown.Bus

/-! ### Single operations -/

theorem get?_publish (b : Bus) (e : Event) (id : Nat) :
    (b.publish e).get? id = (b.get? id).map fun s => s.offer e := by
  simp [get?, publish]

theorem receive_eq {b : Bus} {id : Nat} {s : Subscription} (h : b.get? id = some s) :
    b.receive id = ({ b with subscriptions := b.subscriptions.insert id s.receive.1 },
      s.receive.2) := by
  simp only [receive, h]

/-! ### Turns -/

/-- What happens next on a bus, as a reader sees it. -/
inductive Turn where
  /-- An event is published. -/
  | publish (e : Event)
  /-- The reader takes the oldest unread event, if there is one. -/
  | receive

/-- The event that is published. -/
def Turn.published? : Turn → Option Event
  | publish e => some e
  | receive => none

/-- A turn for the reader of a subscription. It puts out what was read. -/
def turn (id : Nat) (t : Turn) (b : Bus) : Emission Bus Event :=
  match t with
  | .publish e => .quiet (b.publish e)
  | .receive =>
    match b.receive id with
    | (b, .event e) => ⟨b, [e]⟩
    | (b, _) => .quiet b

/-- Some turns, one after another. -/
def play (id : Nat) : List Turn → Bus → Emission Bus Event :=
  Emission.forEach (turn id)

/-- The unread events of a subscription. -/
def unread (b : Bus) (id : Nat) : List Event :=
  ((b.get? id).map Subscription.unread).getD []

/-- There is room for each event when it is published. -/
def KeepsUp (id : Nat) : List Turn → Bus → Prop
  | [], _ => True
  | t :: ts, b => (t.published?.isSome → (b.unread id).length < Subscription.room) ∧
      KeepsUp id ts (b.turn id t).state

/-! ### What is read -/

theorem unread_eq {b : Bus} {id : Nat} {s : Subscription} (h : b.get? id = some s) :
    b.unread id = s.unread := by
  simp [unread, h]

/-- An event is delivered if it is of the topic and there is room. -/
theorem offer_of_room {s : Subscription} (registered : s.registered = true)
    (accepts : s.closed = false) (room : s.unread.length < Subscription.room) (e : Event) :
    s.offer e = { s with unread := s.unread ++ [e].filter s.topic.covers } := by
  have enough : ¬ Subscription.room ≤ s.unread.length := by omega
  obtain ⟨topic, _, _, unread⟩ := s
  cases registered
  cases accepts
  by_cases covered : topic.covers e <;> simp_all [Subscription.offer]

/-- After a turn for which there is room, what was read and what is unread are what was unread
before and the event that was published. -/
theorem turn_of_room {id : Nat} {t : Turn} {b : Bus} {s : Subscription} (h : b.get? id = some s)
    (registered : s.registered = true) (accepts : s.closed = false)
    (room : t.published?.isSome → (b.unread id).length < Subscription.room) :
    ∃ unread, (turn id t b).state.get? id = some { s with unread := unread } ∧
      (turn id t b).out ++ unread =
        s.unread ++ t.published?.toList.filter s.topic.covers := by
  cases t with
  | publish e =>
    refine ⟨s.unread ++ [e].filter s.topic.covers, ?_, rfl⟩
    rw [turn, Emission.state_quiet, get?_publish, h, Option.map_some,
      offer_of_room registered accepts (unread_eq h ▸ room rfl)]
  | receive =>
    obtain ⟨topic, _, _, events⟩ := s
    cases registered
    cases accepts
    simp only [turn, receive_eq h]
    cases events with
    | nil => exact ⟨[], by simp [get?, Subscription.receive, Subscription.isOver], rfl⟩
    | cons e rest =>
      exact ⟨rest, by simp [get?, Subscription.receive],
        by simp [Subscription.receive, Turn.published?]⟩

/-- **Who keeps up misses nothing of the topic.** -/
theorem read_append_unread (id : Nat) (ts : List Turn) {b : Bus} {s : Subscription}
    (h : b.get? id = some s) (registered : s.registered = true) (accepts : s.closed = false)
    (keepsUp : KeepsUp id ts b) :
    (play id ts b).out ++ (play id ts b).state.unread id =
      s.unread ++ (ts.filterMap Turn.published?).filter s.topic.covers := by
  induction ts generalizing b s with
  | nil => simp [play, unread_eq h]
  | cons t ts ih =>
    obtain ⟨room, keepsUp⟩ := keepsUp
    obtain ⟨unread, h', now⟩ := turn_of_room h registered accepts room
    have later := ih h' registered accepts keepsUp
    have events : (t :: ts).filterMap Turn.published? =
        t.published?.toList ++ ts.filterMap Turn.published? := by
      cases t <;> rfl
    simp only [play, Emission.forEach_cons, Emission.out_andThen, Emission.state_andThen,
      List.append_assoc] at later ⊢
    rw [later, ← List.append_assoc, now, events, List.filter_append, List.append_assoc]

end Showdown.Bus
