import Showdown.Event
import Std.Data.TreeMap

/-!
# The event bus

Whoever wants to hear of events subscribes, to all of them or to those of one table. A published
event is put into the mailbox of every subscription that is registered for it. A mailbox has room
for a thousand unread events. If it is full, or has been closed by its owner, then the event is
not delivered and the subscription is struck off the register; what is in the mailbox can still be
read. A subscription is also struck off when its owner gives it up, and then its mailbox is gone,
or when it is revoked by its number and its topic.

No subscription depends on another one.
-/

namespace Showdown

/-- What a subscription is about. -/
inductive Topic where
  /-- All events. -/
  | all
  /-- The events of one table. -/
  | table (tableId : TableId)
  deriving DecidableEq

/-- An event belongs to a topic. -/
def Topic.covers (t : Topic) (e : Event) : Bool :=
  match t with
  | all => true
  | table tableId => e.tableId == tableId

/-- A subscription with its mailbox. -/
structure Subscription where
  /-- What it is about. -/
  topic : Topic
  /-- Events of its topic are delivered to it. -/
  registered : Bool
  /-- Its owner accepts no more events. -/
  closed : Bool
  /-- The unread events, oldest first. -/
  unread : List Event

/-- What a look into a mailbox finds. -/
inductive Receipt where
  /-- The oldest unread event. -/
  | event (e : Event)
  /-- Nothing yet. -/
  | pending
  /-- Nothing, now and ever. -/
  | over

namespace Subscription

/-- The number of unread events there is room for. -/
def room : Nat := 1000

/-- A new subscription. -/
def fresh (topic : Topic) : Subscription :=
  ⟨topic, true, false, []⟩

/-- An event is offered to a subscription. -/
def offer (s : Subscription) (e : Event) : Subscription :=
  if s.registered && s.topic.covers e then
    if s.closed || room ≤ s.unread.length then { s with registered := false }
    else { s with unread := s.unread ++ [e] }
  else s

/-- No more events can arrive. -/
def isOver (s : Subscription) : Bool :=
  s.closed || !s.registered

/-- Takes the oldest unread event. -/
def receive (s : Subscription) : Subscription × Receipt :=
  match s.unread with
  | e :: rest => ({ s with unread := rest }, .event e)
  | [] => (s, if s.isOver then .over else .pending)

/-- Takes all unread events. -/
def takeAll (s : Subscription) : Subscription × List Event :=
  ({ s with unread := [] }, s.unread)

end Subscription

/-- The bus with all its subscriptions. They are numbered in the order in which they were made. -/
structure Bus where
  /-- The subscriptions that have not been given up. -/
  subscriptions : Std.TreeMap Nat Subscription
  /-- The number of the next subscription. -/
  next : Nat

namespace Bus

/-- A bus without subscriptions. -/
def empty : Bus := ⟨∅, 0⟩

/-- A subscription by its number. -/
def get? (b : Bus) (id : Nat) : Option Subscription :=
  b.subscriptions[id]?

/-- Makes a subscription and gives its number. -/
def subscribe (b : Bus) (topic : Topic) : Bus × Nat :=
  (⟨b.subscriptions.insert b.next (.fresh topic), b.next + 1⟩, b.next)

/-- Changes a subscription, if it exists. -/
def change (b : Bus) (id : Nat) (f : Subscription → Subscription) : Bus :=
  { b with subscriptions := b.subscriptions.alter id (Option.map f) }

/-- The owner of a subscription accepts no more events. -/
def close (b : Bus) (id : Nat) : Bus :=
  b.change id fun s => { s with closed := true }

/-- The owner of a subscription gives it up. -/
def drop (b : Bus) (id : Nat) : Bus :=
  { b with subscriptions := b.subscriptions.erase id }

/-- A subscription is revoked, if it has that topic. -/
def revoke (b : Bus) (topic : Topic) (id : Nat) : Bus :=
  b.change id fun s => if s.topic = topic then { s with registered := false } else s

/-- Publishes an event. -/
def publish (b : Bus) (e : Event) : Bus :=
  { b with subscriptions := b.subscriptions.map fun _ s => s.offer e }

/-- Publishes events one after another. -/
def publishAll (b : Bus) (es : List Event) : Bus :=
  es.foldl publish b

/-- Takes the oldest unread event of a subscription. -/
def receive (b : Bus) (id : Nat) : Bus × Receipt :=
  match b.get? id with
  | some s =>
    let (s, r) := s.receive
    ({ b with subscriptions := b.subscriptions.insert id s }, r)
  | none => (b, .over)

/-- Takes all unread events of a subscription. -/
def takeAll (b : Bus) (id : Nat) : Bus × List Event :=
  match b.get? id with
  | some s =>
    let (s, es) := s.takeAll
    ({ b with subscriptions := b.subscriptions.insert id s }, es)
  | none => (b, [])

/-- No more events can arrive for a subscription. -/
def isOver (b : Bus) (id : Nat) : Bool :=
  ((b.get? id).map Subscription.isOver).getD true

/-- The number of subscriptions that are registered. -/
def count (b : Bus) : Nat :=
  b.subscriptions.toList.countP fun e => e.2.registered

end Bus

end Showdown
