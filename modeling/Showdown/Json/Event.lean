import Showdown.Event
import Showdown.Json.Fusion

/-!
# Health and events in JSON

The status of a table and the type of an event are tags. A change of status that is reported is
one record with the time of the report among its members.
-/

namespace Showdown

/-- A source by its name. -/
def Source.toJson (s : Source) : Json := .string s.text

/-- Reads a source. -/
def Source.ofJson? (m : Json.Strictness) (j : Json) : Option Source :=
  j.named? m [primary, secondary] text

/-- The name of a liveness in exchanged values. -/
def Liveness.word : Liveness → String
  | fresh => "fresh"
  | stale => "stale"

/-- A liveness by its name. -/
def Liveness.toJson (l : Liveness) : Json := .string l.word

/-- Reads a liveness. -/
def Liveness.ofJson? (m : Json.Strictness) (j : Json) : Option Liveness :=
  j.named? m [fresh, stale] word

/-- A status as a tagged record. -/
def Status.toJson : Status → Json
  | healthy => .object [("status", .string "healthy")]
  | degraded stale => .object [("status", .string "degraded"), ("stale", stale.toJson)]
  | disconnected => .object [("status", .string "disconnected")]

/-- Reads a status. -/
def Status.ofJson? (m : Json.Strictness) (j : Json) : Option Status := do
  let (status, body) ← j.tagged? "status" (Json.tag? m ["healthy", "degraded", "disconnected"])
  match status with
  | "healthy" =>
    let _ ← body.members? [] 0
    return .healthy
  | "degraded" =>
    let ms ← body.members? ["stale"] 0
    return .degraded (← ms.required? "stale" (Source.ofJson? .lenient))
  | "disconnected" =>
    let _ ← body.members? [] 0
    return .disconnected
  | _ => none

/-- The members of a change of status. -/
def StatusChange.members (c : StatusChange) : Json.Members := [
  ("table_id", .string c.tableId),
  ("from", c.before.toJson),
  ("to", c.after.toJson),
  ("primary", c.primary.toJson),
  ("secondary", c.secondary.toJson)]

/-- A change of status as a record. -/
def StatusChange.toJson (c : StatusChange) : Json := .object c.members

/-- A reported change of status as a record. -/
def StatusReport.toJson (t : StatusReport) : Json :=
  .object (t.change.members ++ [("observed_at", t.observedAt.toJson)])

/-- Reads a reported change of status. -/
def StatusReport.ofJson? (m : Json.Strictness) (j : Json) : Option StatusReport := do
  let ms ← j.members? ["table_id", "from", "to", "primary", "secondary", "observed_at"] 0
  return {
    change := {
      tableId := ← ms.required? "table_id" Json.text?
      before := ← ms.required? "from" (Status.ofJson? m)
      after := ← ms.required? "to" (Status.ofJson? m)
      primary := ← ms.required? "primary" (Liveness.ofJson? m)
      secondary := ← ms.required? "secondary" (Liveness.ofJson? m) }
    observedAt := ← ms.required? "observed_at" UtcTime.ofJson? }

/-- An event as a tagged record. -/
def Event.toJson : Event → Json
  | graded fused grading =>
    .object [
      ("type", .string "hand_graded"),
      ("fused", fused.toJson),
      ("grading", grading.toJson)]
  | broadcastable fused grade =>
    .object [
      ("type", .string "broadcast_candidate"),
      ("fused", fused.toJson),
      ("grade", grade.toJson)]
  | statusChanged report =>
    .object [("type", .string "health_changed"), ("transition", report.toJson)]
  | disagreement tableId streak =>
    .object [
      ("type", .string "fusion_degraded"),
      ("table_id", .string tableId),
      ("consecutive_mismatches", .ofNat streak.toNat)]

/-- Reads an event. -/
def Event.ofJson? (j : Json) : Option Event := do
  let (type, body) ← j.tagged? "type" Json.text?
  match type with
  | "hand_graded" =>
    let ms ← body.members? ["fused", "grading"] 0
    return .graded (← ms.required? "fused" (FusedHand.ofJson? .lenient))
      (← ms.required? "grading" (Grading.ofJson? .lenient))
  | "broadcast_candidate" =>
    let ms ← body.members? ["fused", "grade"] 0
    return .broadcastable (← ms.required? "fused" (FusedHand.ofJson? .lenient))
      (← ms.required? "grade" (Findings.ofJson? .lenient))
  | "health_changed" =>
    let ms ← body.members? ["transition"] 0
    return .statusChanged (← ms.required? "transition" (StatusReport.ofJson? .lenient))
  | "fusion_degraded" =>
    let ms ← body.members? ["table_id", "consecutive_mismatches"] 0
    return .disagreement (← ms.required? "table_id" Json.text?)
      (← ms.required? "consecutive_mismatches" Json.uint32?)
  | _ => none

end Showdown
