import Showdown.Classification
import Showdown.Json.Card
import Showdown.Json.Record

/-!
# Observations and classifications in JSON
-/

namespace Showdown

/-- An identifier as a record. -/
def HandId.toJson (h : HandId) : Json :=
  .object [("table_id", .string h.tableId), ("hand_number", .ofNat h.handNumber.toNat)]

/-- Reads an identifier. -/
def HandId.ofJson? (j : Json) : Option HandId := do
  let ms ← j.members? ["table_id", "hand_number"] 0
  return {
    tableId := ← ms.required? "table_id" Json.text?
    handNumber := ← ms.required? "hand_number" Json.uint32? }

/-- Reads exactly two cards. -/
def Card.pairOfJson? : Json → Option (Card × Card)
  | .array [a, b] => do return (← Card.ofJson? a, ← Card.ofJson? b)
  | _ => none

/-- A ranked hand as a record. -/
def RankedHand.toJson (r : RankedHand) : Json :=
  .object [
    ("table_id", .string r.tableId),
    ("hand_number", .ofNat r.handNumber.toNat),
    ("player", .string r.player),
    ("seat", .ofNat r.seat.toNat),
    ("hole_cards", .array [r.holeCards.1.toJson, r.holeCards.2.toJson]),
    ("community_cards", .array (r.communityCards.map Card.toJson)),
    ("strength", .ofNat r.strength.toNat),
    ("category", r.category.toJson),
    ("confidence", .ofFloat r.confidence),
    ("duration_seconds", .ofOption (fun d => .ofNat d.toNat) r.durationSeconds),
    ("board_category", .ofOption Category.toJson r.boardCategory)]

/-- Reads a ranked hand. -/
def RankedHand.ofJson? (j : Json) : Option RankedHand := do
  let ms ← j.members?
    ["table_id", "hand_number", "player", "seat", "hole_cards", "community_cards", "strength",
      "category", "confidence", "duration_seconds", "board_category"] 0
  return {
    tableId := ← ms.required? "table_id" Json.text?
    handNumber := ← ms.required? "hand_number" Json.uint32?
    player := ← ms.required? "player" Json.text?
    seat := ← ms.required? "seat" Json.uint8?
    holeCards := ← ms.required? "hole_cards" Card.pairOfJson?
    communityCards := ← ms.required? "community_cards" (Json.list? Card.ofJson?)
    strength := ← ms.required? "strength" Json.uint16?
    category := ← ms.required? "category" (Category.ofJson? .strict)
    confidence := ← ms.required? "confidence" Json.real?
    durationSeconds := ← ms.optional? "duration_seconds" Json.uint32?
    boardCategory := ← ms.optional? "board_category" (Category.ofJson? .strict) }

/-- A sighting as a record. -/
def Sighting.toJson (r : Sighting) : Json :=
  .object [
    ("table_id", .string r.tableId),
    ("hand_number", .ofNat r.handNumber.toNat),
    ("category", .ofOption Category.toJson r.category),
    ("confidence", .ofFloat r.confidence),
    ("observed_at", r.observedAt.toJson)]

/-- Reads a sighting. -/
def Sighting.ofJson? (j : Json) : Option Sighting := do
  let ms ← j.members? ["table_id", "hand_number", "category", "confidence", "observed_at"] 0
  return {
    tableId := ← ms.required? "table_id" Json.text?
    handNumber := ← ms.required? "hand_number" Json.uint32?
    category := ← ms.optional? "category" (Category.ofJson? .strict)
    confidence := ← ms.required? "confidence" Json.real?
    observedAt := ← ms.required? "observed_at" UtcTime.ofJson? }

/-- A reason as a tagged record. -/
def OmissionReason.toJson : OmissionReason → Json
  | noHoleCards => .object [("reason", .string "no_hole_cards")]
  | tooManyHoleCards count =>
    .object [("reason", .string "too_many_hole_cards"), ("count", .ofNat count.toNat)]
  | incompleteBoard known =>
    .object [("reason", .string "incomplete_board"), ("known", .ofNat known.toNat)]
  | malformedCard token =>
    .object [("reason", .string "malformed_card"), ("token", .string token)]
  | invalidHand detail =>
    .object [("reason", .string "invalid_hand"), ("detail", .string detail)]

/-- Reads a reason. -/
def OmissionReason.ofJson? (j : Json) : Option OmissionReason := do
  let (reason, body) ← j.tagged? "reason" Json.text?
  match reason with
  | "no_hole_cards" =>
    let _ ← body.members? [] 0
    return .noHoleCards
  | "too_many_hole_cards" =>
    let ms ← body.members? ["count"] 0
    return .tooManyHoleCards (← ms.required? "count" Json.uint64?)
  | "incomplete_board" =>
    let ms ← body.members? ["known"] 0
    return .incompleteBoard (← ms.required? "known" Json.uint64?)
  | "malformed_card" =>
    let ms ← body.members? ["token"] 0
    return .malformedCard (← ms.required? "token" Json.text?)
  | "invalid_hand" =>
    let ms ← body.members? ["detail"] 0
    return .invalidHand (← ms.required? "detail" Json.text?)
  | _ => none

/-- An entry of what was left out as a record. -/
def Omission.toJson (s : Omission) : Json :=
  .object [
    ("player", .ofOption .string s.player),
    ("seat", .ofOption (fun n => .ofNat n.toNat) s.seat),
    ("reason", s.reason.toJson)]

/-- Reads an entry of what was left out. -/
def Omission.ofJson? (j : Json) : Option Omission := do
  let ms ← j.members? ["player", "seat", "reason"] 0
  return {
    player := ← ms.optional? "player" Json.text?
    seat := ← ms.optional? "seat" Json.uint8?
    reason := ← ms.required? "reason" OmissionReason.ofJson? }

end Showdown
