import Showdown.Json.Observation
import Showdown.Proofs.Json.Leaf

/-!
# Records and observations that are read back

For cards, records of hands, observations and what was left out of them: which members are asked for
(`parts`), that nothing else is noticed (`respects`), and that what was written is read back
(`ofJson?_toJson`). A tagged record is asked for its tag and for the members of all of its
alternatives, as it may turn out to be any of them.
-/

namespace Showdown

open Json

/-! ### Cards -/

theorem Suit.respects : Respects Suit.ofJson? .plain :=
  respects_named .strict all name

theorem Rank.respects : Respects Rank.ofJson? .plain :=
  respects_named .strict all name

theorem Category.respects (m : Strictness) : Respects (Category.ofJson? m) .plain :=
  respects_named m all word

@[simp] theorem Suit.ofJson?_toJson (s : Suit) : Suit.ofJson? s.toJson = some s := by
  cases s <;> rfl

@[simp] theorem Rank.ofJson?_toJson (r : Rank) : Rank.ofJson? r.toJson = some r := by
  cases r <;> rfl

@[simp] theorem Category.ofJson?_toJson (m : Strictness) (c : Category) :
    Category.ofJson? m c.toJson = some c := by
  cases c <;> rfl

/-- What is asked of a card. -/
def Card.parts : List (String × Shape) := [("suit", .plain), ("rank", .plain)]

theorem Card.respects : Respects Card.ofJson? (.record parts) := by
  intro j j' step
  refine members?_bind _ _ step fun ms ms' near => ?_
  rw [near.required? Suit.respects, near.required? Rank.respects]
  all_goals simp [parts]

@[simp] theorem Card.ofJson?_toJson (c : Card) : Card.ofJson? c.toJson = some c := by
  simp [Card.ofJson?, Card.toJson, Members.required?]

/-! ### Records of hands -/

/-- What is asked of a seat. -/
def Seat.parts : List (String × Shape) :=
  [("seat", .plain), ("name", .plain), ("hole_cards", .list .plain), ("start_stack", .plain),
    ("end_stack", .plain)]

theorem Seat.respects : Respects Seat.ofJson? (.record parts) := by
  intro j j' step
  refine members?_bind _ _ step fun ms ms' near => ?_
  rw [near.required? respects_uint8, near.required? respects_text,
    near.defaulted? respects_text.list, near.defaulted? respects_int64,
    near.defaulted? respects_int64]
  all_goals simp [parts]

@[simp] theorem Seat.ofJson?_toJson (s : Seat) : Seat.ofJson? s.toJson = some s := by
  simp [Seat.ofJson?, Seat.toJson, Members.required?, Members.defaulted?,
    list?_array_map text?_string]

/-- What is asked of an event of a hand. -/
def HandEvent.parts : List (String × Shape) :=
  [("kind", .plain), ("cards", .list .plain), ("player", .plain), ("action", .plain),
    ("amount", .plain)]

theorem HandEvent.respects : Respects HandEvent.ofJson? (.record parts) := by
  intro j j' step
  refine tagged?_bind respects_text (by simp [parts]) step fun kind rest rest' step => ?_
  dsimp only
  split
  · refine members?_bind _ _ step fun ms ms' near => ?_
    rw [near.required? respects_text.list]
    simp [parts]
  · refine members?_bind _ _ step fun ms ms' near => ?_
    rw [near.required? respects_text, near.required? respects_text,
      near.defaulted? respects_uint64]
    all_goals simp [parts]
  · exact members?_bind _ _ step fun _ _ _ => rfl

@[simp] theorem HandEvent.ofJson?_toJson (e : HandEvent) :
    HandEvent.ofJson? e.toJson = some e := by
  cases e with
  | boardCards cards =>
    simp [HandEvent.ofJson?, toJson, tagged?, Members.required?, list?_array_map text?_string]
  | action player move amount =>
    simp [HandEvent.ofJson?, toJson, tagged?, Members.required?, Members.defaulted?]
  | other => rfl

/-- What is asked of a record of a hand. -/
def HandRecord.parts : List (String × Shape) :=
  [("table_id", .plain), ("hand_number", .plain), ("started_at", .plain),
    ("duration_seconds", .plain), ("players", .list (.record Seat.parts)),
    ("events", .list (.record HandEvent.parts))]

theorem HandRecord.respects : Respects HandRecord.ofJson? (.record parts) := by
  intro j j' step
  refine members?_bind _ _ step fun ms ms' near => ?_
  rw [near.required? respects_text, near.required? respects_uint32,
    near.optional? respects_instant, near.optional? respects_uint32,
    near.defaulted? Seat.respects.list, near.defaulted? HandEvent.respects.list]
  all_goals simp [parts]

theorem HandRecord.ofJson?_toJson (r : HandRecord) : HandRecord.ofJson? r.toJson = some r := by
  simp [HandRecord.ofJson?, toJson, Members.required?, Members.optional?, Members.defaulted?,
    nullable?_ofOption rfl ofJson?_instant, nullable?_ofOption rfl uint32?_ofNat,
    list?_array_map Seat.ofJson?_toJson, list?_array_map HandEvent.ofJson?_toJson]

/-! ### Observations -/

/-- The two cards of a list that has no others. -/
def Card.pair? : List Card → Option (Card × Card)
  | [a, b] => some (a, b)
  | _ => none

theorem Card.pairOfJson?_eq (j : Json) : pairOfJson? j = (list? ofJson? j).bind pair? := by
  cases j with
  | array xs =>
    match xs with
    | [] => rfl
    | [_] | [_, _] | _ :: _ :: _ :: _ => simp [pairOfJson?, list?, Option.bind_assoc, pair?]
  | _ => rfl

theorem Card.respects_pair : Respects pairOfJson? (.list (.record parts)) := by
  intro j j' step
  rw [pairOfJson?_eq, pairOfJson?_eq, Card.respects.list step]

/-- What is asked of a ranked hand. -/
def RankedHand.parts : List (String × Shape) :=
  [("table_id", .plain), ("hand_number", .plain), ("player", .plain), ("seat", .plain),
    ("hole_cards", .list (.record Card.parts)), ("community_cards", .list (.record Card.parts)),
    ("strength", .plain), ("category", .plain), ("confidence", .plain),
    ("duration_seconds", .plain), ("board_category", .plain)]

theorem RankedHand.respects : Respects RankedHand.ofJson? (.record parts) := by
  intro j j' step
  refine members?_bind _ _ step fun ms ms' near => ?_
  rw [near.required? respects_text, near.required? respects_uint32, near.required? respects_text,
    near.required? respects_uint8, near.required? Card.respects_pair,
    near.required? Card.respects.list, near.required? respects_uint16,
    near.required? (Category.respects .strict), near.required? respects_real,
    near.optional? respects_uint32, near.optional? (Category.respects .strict)]
  all_goals simp [parts]

theorem RankedHand.ofJson?_toJson {r : RankedHand} (finite : r.confidence.isFinite = true) :
    RankedHand.ofJson? r.toJson = some r := by
  simp [RankedHand.ofJson?, toJson, Card.pairOfJson?, Members.required?, Members.optional?,
    real?_ofFloat finite, nullable?_ofOption rfl uint32?_ofNat,
    nullable?_ofOption rfl (Category.ofJson?_toJson .strict), list?_array_map Card.ofJson?_toJson]

/-- What is asked of a sighting. -/
def Sighting.parts : List (String × Shape) :=
  [("table_id", .plain), ("hand_number", .plain), ("category", .plain), ("confidence", .plain),
    ("observed_at", .plain)]

theorem Sighting.respects : Respects Sighting.ofJson? (.record parts) := by
  intro j j' step
  refine members?_bind _ _ step fun ms ms' near => ?_
  rw [near.required? respects_text, near.required? respects_uint32,
    near.optional? (Category.respects .strict), near.required? respects_real,
    near.required? respects_instant]
  all_goals simp [parts]

theorem Sighting.ofJson?_toJson {r : Sighting} (finite : r.confidence.isFinite = true) :
    Sighting.ofJson? r.toJson = some r := by
  simp [Sighting.ofJson?, toJson, Members.required?, Members.optional?, real?_ofFloat finite,
    nullable?_ofOption rfl (Category.ofJson?_toJson .strict)]

/-! ### What was left out -/

/-- What is asked of a reason. -/
def OmissionReason.parts : List (String × Shape) :=
  [("reason", .plain), ("count", .plain), ("known", .plain), ("token", .plain), ("detail", .plain)]

theorem OmissionReason.respects : Respects OmissionReason.ofJson? (.record parts) := by
  intro j j' step
  refine tagged?_bind respects_text (by simp [parts]) step fun reason rest rest' step => ?_
  dsimp only
  split
  · exact members?_bind _ _ step fun _ _ _ => rfl
  · refine members?_bind _ _ step fun ms ms' near => ?_
    rw [near.required? respects_uint64]
    simp [parts]
  · refine members?_bind _ _ step fun ms ms' near => ?_
    rw [near.required? respects_uint64]
    simp [parts]
  · refine members?_bind _ _ step fun ms ms' near => ?_
    rw [near.required? respects_text]
    simp [parts]
  · refine members?_bind _ _ step fun ms ms' near => ?_
    rw [near.required? respects_text]
    simp [parts]
  · rfl

@[simp] theorem OmissionReason.ofJson?_toJson (r : OmissionReason) :
    OmissionReason.ofJson? r.toJson = some r := by
  cases r with
  | noHoleCards => rfl
  | _ => simp [OmissionReason.ofJson?, toJson, tagged?, Members.required?]

/-- What is asked of an entry of what was left out. -/
def Omission.parts : List (String × Shape) :=
  [("player", .plain), ("seat", .plain), ("reason", .record OmissionReason.parts)]

theorem Omission.respects : Respects Omission.ofJson? (.record parts) := by
  intro j j' step
  refine members?_bind _ _ step fun ms ms' near => ?_
  rw [near.optional? respects_text, near.optional? respects_uint8,
    near.required? OmissionReason.respects]
  all_goals simp [parts]

theorem Omission.ofJson?_toJson (s : Omission) : Omission.ofJson? s.toJson = some s := by
  simp [Omission.ofJson?, toJson, Members.required?, Members.optional?,
    nullable?_ofOption rfl text?_string, nullable?_ofOption rfl uint8?_ofNat]

end Showdown
