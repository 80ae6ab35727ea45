import Showdown.Bus
import Showdown.Emission

/-!
# The switchboard

The switchboard is the event bus as it is kept: a register that lists under each topic the numbers
of the subscriptions that events of this topic go to, and the mailboxes that these subscriptions
read. An event goes first to those who listen to everything and then to those who listen to its
table. Both lists are copied before the first mailbox is tried, so that a subscription that is struck
off on the way changes nothing about who is tried next. A subscription is struck off under the topic
under which it was found, and a topic that nobody listens to any more has no entry.

To a subscription this is no different from the bus where it keeps its own place in the register.
-/

namespace Showdown

/-- The table that a topic is about, if it is about one. -/
def Topic.tableId? : Topic → Option TableId
  | all => none
  | table tableId => some tableId

/-- The mailbox of a subscription. -/
structure Mailbox where
  /-- What the subscription was made for. -/
  topic : Topic
  /-- Its owner accepts no more events. -/
  closed : Bool
  /-- The unread events, oldest first. -/
  unread : List Event

/-- The mailbox of a new subscription. -/
def Mailbox.empty (topic : Topic) : Mailbox :=
  ⟨topic, false, []⟩

/-- A mailbox takes in one more event, unless it is closed or full. -/
def Mailbox.put? (m : Mailbox) (e : Event) : Option Mailbox :=
  if m.closed || Subscription.room ≤ m.unread.length then none
  else some { m with unread := m.unread ++ [e] }

/-- A bus with a register. Subscriptions are numbered in the order in which they are made. -/
structure Switchboard where
  /-- The numbers of the subscriptions that listen to a table, and of those that listen to
  everything, in the order in which they were made. -/
  register : Std.TreeMap (Option TableId) (List Nat)
  /-- The mailboxes of the subscriptions that have not been given up. -/
  mailboxes : Std.TreeMap Nat Mailbox
  /-- The number of the next subscription. -/
  next : Nat

namespace Switchboard

/-- A switchboard without subscriptions. -/
def empty : Switchboard := ⟨∅, ∅, 0⟩

/-- The subscriptions that are listed under a topic. -/
def listed (b : Switchboard) (topic : Topic) : List Nat :=
  b.register[topic.tableId?]?.getD []

/-- A subscription is listed under a topic. -/
def lists (b : Switchboard) (topic : Topic) (id : Nat) : Bool :=
  (b.listed topic).contains id

/-- Makes a subscription and gives its number. -/
def subscribe (b : Switchboard) (topic : Topic) : Switchboard × Nat :=
  ({ register := b.register.insert topic.tableId? (b.listed topic ++ [b.next])
     mailboxes := b.mailboxes.insert b.next (.empty topic)
     next := b.next + 1 },
    b.next)

/-- Strikes a number off the list of a topic, whoever asks for it. -/
def unsubscribe (b : Switchboard) (topic : Topic) (id : Nat) : Switchboard :=
  match b.register[topic.tableId?]? with
  | none => b
  | some ids =>
    let left := ids.filter (· != id)
    { b with
      register :=
        if left.isEmpty then b.register.erase topic.tableId?
        else b.register.insert topic.tableId? left }

/-- A mailbox is replaced. -/
def keep (b : Switchboard) (id : Nat) (m : Mailbox) : Switchboard :=
  { b with mailboxes := b.mailboxes.insert id m }

/-- The owner of a subscription accepts no more events. -/
def close (b : Switchboard) (id : Nat) : Switchboard :=
  match b.mailboxes[id]? with
  | none => b
  | some m => b.keep id { m with closed := true }

/-- The owner of a subscription gives it up. -/
def drop (b : Switchboard) (id : Nat) : Switchboard :=
  match b.mailboxes[id]? with
  | none => b
  | some m => { b.unsubscribe m.topic id with mailboxes := b.mailboxes.erase id }

/-! ### Events -/

/-- The subscriptions that an event goes to, each with the topic under which it is listed. -/
def targets (b : Switchboard) (e : Event) : List (Topic × Nat) :=
  (b.listed .all).map (.all, ·) ++ (b.listed (.table e.tableId)).map (.table e.tableId, ·)

/-- An event is put into a mailbox, or the subscription is struck off. -/
def deliver (e : Event) (b : Switchboard) (target : Topic × Nat) : Switchboard :=
  match b.mailboxes[target.2]?.bind (·.put? e) with
  | some m => b.keep target.2 m
  | none => b.unsubscribe target.1 target.2

/-- Publishes an event. -/
def publish (b : Switchboard) (e : Event) : Switchboard :=
  (b.targets e).foldl (deliver e) b

/-- Publishes events one after another. -/
def publishAll (b : Switchboard) (es : List Event) : Switchboard :=
  es.foldl publish b

/-- No more events can arrive for a subscription. -/
def isOver (b : Switchboard) (id : Nat) : Bool :=
  match b.mailboxes[id]? with
  | none => true
  | some m => m.closed || !b.lists m.topic id

/-- Takes the oldest unread event of a subscription. -/
def receive (b : Switchboard) (id : Nat) : Switchboard × Receipt :=
  match b.mailboxes[id]? with
  | none => (b, .over)
  | some m =>
    match m.unread with
    | e :: rest => (b.keep id { m with unread := rest }, .event e)
    | [] => (b, if b.isOver id then .over else .pending)

/-- Takes all unread events of a subscription. -/
def takeAll (b : Switchboard) (id : Nat) : Switchboard × List Event :=
  match b.mailboxes[id]? with
  | none => (b, [])
  | some m => (b.keep id { m with unread := [] }, m.unread)

/-- The number of subscriptions in the register. -/
def count (b : Switchboard) : Nat :=
  b.register.toList.foldl (fun n e => n + e.2.length) 0

/-! ### Actions -/

/-- Something done to a switchboard. -/
inductive Action where
  /-- A subscription is made. -/
  | subscribe (topic : Topic)
  /-- An event is published. -/
  | publish (e : Event)
  /-- The owner of a subscription takes the oldest unread event, if there is one. -/
  | receive (id : Nat)
  /-- The owner of a subscription accepts no more events. -/
  | close (id : Nat)
  /-- A number is struck off the list of a topic. -/
  | unsubscribe (topic : Topic) (id : Nat)
  /-- The owner of a subscription gives it up. -/
  | drop (id : Nat)

/-- What somebody finds who looks into a mailbox, with the number of the subscription. -/
abbrev Found := Nat × Receipt

/-- Carries out an action. -/
def act (a : Action) (b : Switchboard) : Emission Switchboard Found :=
  match a with
  | .subscribe topic => .quiet (b.subscribe topic).1
  | .publish e => .quiet (b.publish e)
  | .receive id =>
    let (b, r) := b.receive id
    ⟨b, [(id, r)]⟩
  | .close id => .quiet (b.close id)
  | .unsubscribe topic id => .quiet (b.unsubscribe topic id)
  | .drop id => .quiet (b.drop id)

/-- Carries out actions one after another. -/
def run : List Action → Switchboard → Emission Switchboard Found :=
  Emission.forEach act

end Switchboard

end Showdown
