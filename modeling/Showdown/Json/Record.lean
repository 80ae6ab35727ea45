import Showdown.Json
import Showdown.Record
import Showdown.UtcTime.Text

/-!
# Hand records in JSON

A record of the structured feed may leave out what it does not know: the players, the events, the
stacks and the hole cards. The kind of an event is its tag; an event of an unknown kind is read as
some other event, and its content is dropped.
-/

namespace Showdown

/-- An instant in writing. -/
def UtcTime.toJson (t : UtcTime) : Json := .string t.text

/-- Reads an instant. -/
def UtcTime.ofJson? (j : Json) : Option UtcTime := j.text?.bind UtcTime.read?

/-- A seat as a record. -/
def Seat.toJson (s : Seat) : Json :=
  .object [
    ("seat", .ofNat s.seat.toNat),
    ("name", .string s.name),
    ("hole_cards", .array (s.holeCards.map .string)),
    ("start_stack", .integer s.startStack.toInt),
    ("end_stack", .integer s.endStack.toInt)]

/-- Reads a seat. -/
def Seat.ofJson? (j : Json) : Option Seat := do
  let ms ← j.members? ["seat", "name", "hole_cards", "start_stack", "end_stack"] 3
  return {
    seat := ← ms.required? "seat" Json.uint8?
    name := ← ms.required? "name" Json.text?
    holeCards := ← ms.defaulted? "hole_cards" [] (Json.list? Json.text?)
    startStack := ← ms.defaulted? "start_stack" 0 Json.int64?
    endStack := ← ms.defaulted? "end_stack" 0 Json.int64? }

/-- An event as a tagged record. -/
def HandEvent.toJson : HandEvent → Json
  | boardCards cards =>
    .object [("kind", .string "board_card"), ("cards", .array (cards.map .string))]
  | action player move amount =>
    .object [
      ("kind", .string "action"),
      ("player", .string player),
      ("action", .string move),
      ("amount", .ofNat amount.toNat)]
  | other => .object [("kind", .string "other")]

/-- Reads an event. -/
def HandEvent.ofJson? (j : Json) : Option HandEvent := do
  let (kind, body) ← j.tagged? "kind" Json.text?
  match kind with
  | "board_card" =>
    let ms ← body.members? ["cards"] 0
    return .boardCards (← ms.required? "cards" (Json.list? Json.text?))
  | "action" =>
    let ms ← body.members? ["player", "action", "amount"] 1
    return .action (← ms.required? "player" Json.text?) (← ms.required? "action" Json.text?)
      (← ms.defaulted? "amount" 0 Json.uint64?)
  | _ =>
    let _ ← body.members? [] 0
    return .other

/-- A hand record as a record. -/
def HandRecord.toJson (r : HandRecord) : Json :=
  .object [
    ("table_id", .string r.tableId),
    ("hand_number", .ofNat r.handNumber.toNat),
    ("started_at", .ofOption UtcTime.toJson r.startedAt),
    ("duration_seconds", .ofOption (fun d => .ofNat d.toNat) r.durationSeconds),
    ("players", .array (r.players.map Seat.toJson)),
    ("events", .array (r.events.map HandEvent.toJson))]

/-- Reads a hand record. -/
def HandRecord.ofJson? (j : Json) : Option HandRecord := do
  let ms ← j.members?
    ["table_id", "hand_number", "started_at", "duration_seconds", "players", "events"] 4
  return {
    tableId := ← ms.required? "table_id" Json.text?
    handNumber := ← ms.required? "hand_number" Json.uint32?
    startedAt := ← ms.optional? "started_at" UtcTime.ofJson?
    durationSeconds := ← ms.optional? "duration_seconds" Json.uint32?
    players := ← ms.defaulted? "players" [] (Json.list? Seat.ofJson?)
    events := ← ms.defaulted? "events" [] (Json.list? HandEvent.ofJson?) }

end Showdown
