import Showdown.Emission
import Showdown.Table.History
import Showdown.Table.Message

/-!
# Tables

A table brings the two observations of each of its hands together. The first observation opens
the hand. If the other source is known to be silent, the hand is resolved at once; otherwise it
waits, with a timer running. It is resolved when the second observation arrives, when the timer
runs out, when the source it waits for turns out to be silent, or when the table is shut down,
whichever comes first. Another observation from the same source replaces the earlier one and
leaves the timer alone. What arrives for a hand resolved of late is dropped.

A table also counts how often in a row its sources disagree. Only agreement ends such a streak,
and a streak is reported when it reaches a given length. It is counted in a word of 32 bits, which
starts again at zero if there are more disagreements than fit.
-/

namespace Showdown

namespace Table

/-- A hand that waits for its second observation. -/
structure Pending where
  /-- What the card readers observed. -/
  primary : Option RankedHand
  /-- What the video observed. -/
  secondary : Option Sighting
  /-- The opening of the hand. -/
  generation : Nat
  /-- A timer is running for the hand. -/
  timed : Bool

/-- The source a hand waits for. -/
def Pending.awaited (p : Pending) : Option Source :=
  match p.primary, p.secondary with
  | some _, none => some .secondary
  | none, some _ => some .primary
  | _, _ => none

end Table

/-- The state of a table. -/
structure Table where
  /-- Its identifier. -/
  tableId : TableId
  /-- What it is tuned by. -/
  settings : Table.Settings
  /-- The hands that wait. -/
  pending : Std.TreeMap HandNumber Table.Pending
  /-- The hands resolved of late. -/
  history : Table.History
  /-- The number of hands opened so far. -/
  generation : Nat
  /-- Whether the card readers deliver. -/
  primary : Liveness
  /-- Whether the video delivers. -/
  secondary : Liveness
  /-- The number of disagreements since the sources last agreed. -/
  streak : UInt32
  /-- The counters of results. -/
  tally : Tally

namespace Table

/-- A table that has just been opened. Its sources are taken to deliver. -/
def opened (tableId : TableId) (settings : Settings) : Table :=
  { tableId := tableId
    settings := settings
    pending := ∅
    history := .empty
    generation := 0
    primary := .fresh
    secondary := .fresh
    streak := 0
    tally := .zero }

/-- Whether a source delivers. -/
def liveness (t : Table) : Source → Liveness
  | .primary => t.primary
  | .secondary => t.secondary

/-- The identifier of one of the hands of a table. -/
def handId (t : Table) (hand : HandNumber) : HandId :=
  ⟨t.tableId, hand⟩

/-- The timer of an opening of a hand. -/
def timerKey (t : Table) (hand : HandNumber) (generation : Nat) : TimerKey :=
  ⟨t.tableId, hand, generation⟩

/-- A note as an output. -/
def noted (n : Note) : Output :=
  .effect (.note n)

/-! ### Resolving a hand -/

/-- A result is counted, its hand is remembered, and it is handed on. -/
def handOn (r : FusedHand) (t : Table) : Emission Table Output :=
  ⟨{ t with tally := t.tally.add r, history := t.history.push r.handNumber },
    [noted (.resolved r), .effect (.fused r)]⟩

/-- A streak of disagreement grows, and is reported when it reaches its length. -/
def disagree (t : Table) : Emission Table Output :=
  let streak := t.streak + 1
  ⟨{ t with streak := streak },
    if streak = t.settings.mismatchThreshold then
      [noted (.disagreeing t.tableId streak),
        .effect (.event (.disagreement t.tableId streak))]
    else []⟩

/-- A streak of disagreement ends. -/
def agree (t : Table) : Emission Table Output :=
  ⟨{ t with streak := 0 },
    if t.settings.mismatchThreshold ≤ t.streak then [noted (.agreeing t.tableId)] else []⟩

/-- An outcome is followed up in the streak of disagreement. -/
def track (outcome : Outcome) (t : Table) : Emission Table Output :=
  match outcome with
  | .ambiguous => t.disagree
  | .crossValidated => t.agree
  | _ => .quiet t

/-- A hand stops waiting, and its timer is stopped. -/
def release (hand : HandNumber) (p : Pending) (t : Table) : Emission Table Output :=
  ⟨{ t with pending := t.pending.erase hand },
    if p.timed then [.stopTimer (t.timerKey hand p.generation)] else []⟩

/-- What the policy makes of a hand. -/
def fuse (t : Table) (hand : HandNumber) (p : Pending) (resolution : Resolution) : FusedHand :=
  t.settings.policy.decide (t.handId hand) p.primary p.secondary resolution

/-- A hand is resolved, if it waits. -/
def resolve (resolution : Resolution) (hand : HandNumber) (t : Table) : Emission Table Output :=
  match t.pending[hand]? with
  | none => .quiet t
  | some p =>
    let r := t.fuse hand p resolution
    ((t.release hand p).andThen (track r.outcome)).andThen (handOn r)

/-! ### Observations -/

/-- A hand is opened by its first observation. -/
def openHand (hand : HandNumber) (p : Pending) (arrived : Source) (t : Table) :
    Emission Table Output :=
  if t.history.contains hand then ⟨t, [noted (.late t.tableId hand arrived)]⟩
  else
    let generation := t.generation + 1
    let timed := t.liveness arrived.other = .fresh
    let t := { t with
      generation := generation
      pending := t.pending.insert hand { p with generation := generation, timed := timed } }
    let waiting := noted (.waiting t.tableId hand arrived)
    if timed then ⟨t, [.startTimer (t.timerKey hand generation), waiting]⟩
    else (t.resolve .sourceStale hand).after [waiting]

/-- An observation of the card readers arrives. -/
def observePrimary (r : RankedHand) (t : Table) : Emission Table Output :=
  let hand := r.handNumber
  match t.pending[hand]? with
  | some p =>
    let held := { t with pending := t.pending.insert hand { p with primary := some r } }
    if p.primary.isSome then ⟨held, [noted (.replaced t.tableId hand .primary)]⟩
    else held.resolve .matched hand
  | none => t.openHand hand ⟨some r, none, 0, false⟩ .primary

/-- An observation of the video arrives. -/
def observeSecondary (r : Sighting) (t : Table) : Emission Table Output :=
  let hand := r.handNumber
  match t.pending[hand]? with
  | some p =>
    let held := { t with pending := t.pending.insert hand { p with secondary := some r } }
    if p.secondary.isSome then ⟨held, [noted (.replaced t.tableId hand .secondary)]⟩
    else held.resolve .matched hand
  | none => t.openHand hand ⟨none, some r, 0, false⟩ .secondary

/-! ### Everything else -/

/-- A timer runs out. It counts only for the opening it was started for. -/
def expire (hand : HandNumber) (generation : Nat) (t : Table) : Emission Table Output :=
  if t.pending[hand]?.any fun p => p.generation == generation then
    t.resolve .windowExpired hand
  else ⟨t, [noted (.staleExpiry t.tableId hand generation)]⟩

/-- The hands that wait for a source that does not deliver, in ascending order. -/
def cutOff (t : Table) : List HandNumber :=
  (t.pending.toList.filter fun e => e.2.awaited.any fun s => t.liveness s == .stale).map Prod.fst

/-- The sources are found to deliver or not. -/
def hearHealth (primary secondary : Liveness) (t : Table) : Emission Table Output :=
  let t := { t with primary := primary, secondary := secondary }
  Emission.forEach (resolve .sourceStale) t.cutOff t

/-- A waiting hand is given up. -/
def giveUp (hand : HandNumber) (t : Table) : Emission Table Output :=
  match t.pending[hand]? with
  | none => .quiet t
  | some p =>
    (t.release hand p).andThen (handOn (Policy.unclassified (t.handId hand) .shutdown))

/-- All waiting hands are given up, in ascending order. -/
def giveUpAll (t : Table) : Emission Table Output :=
  let hands := t.pending.keys
  (Emission.forEach giveUp hands t).after
    (if hands.isEmpty then [] else [noted (.draining t.tableId hands.length)])

/-- The state of a table as it is shown to others. -/
def snapshot (t : Table) : Snapshot :=
  { tableId := t.tableId
    pendingHands := t.pending.keys
    tally := t.tally
    primary := t.primary
    secondary := t.secondary
    streak := t.streak }

/-- All waiting hands are given up, and the counters are handed over. -/
def close (t : Table) : Emission Table Output :=
  t.giveUpAll.andThen fun t => ⟨t, [.closed t.tally]⟩

/-- Handles a message. -/
def handle (m : Message) (t : Table) : Emission Table Output :=
  match m with
  | .primary r => t.observePrimary r
  | .secondary r => t.observeSecondary r
  | .health primary secondary => t.hearHealth primary secondary
  | .expired hand generation => t.expire hand generation
  | .snapshot => ⟨t, [.snapshot t.snapshot]⟩
  | .shutdown => t.close

/-- Handles the messages of an inbox up to the one that shuts the table down. If there is none,
the waiting hands are given up after the last message. -/
def run : List Message → Table → Emission Table Output
  | [], t => t.giveUpAll
  | .shutdown :: _, t => t.handle .shutdown
  | m :: ms, t => (t.handle m).andThen (run ms)

end Table

end Showdown
