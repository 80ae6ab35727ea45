import Showdown.Fusion.Tally
import Showdown.Grading
import Showdown.Json.Observation

/-!
# Fused hands and gradings in JSON

The status of a grading is its tag; the members of a complete result stand beside it, those of an
incomplete one in a record of their own.
-/

namespace Showdown

/-- The name of a basis in exchanged values. -/
def Basis.word : Basis → String
  | primary => "primary"
  | secondary => "secondary"
  | none => "none"

/-- A basis by its name. -/
def Basis.toJson (s : Basis) : Json := .string s.word

/-- Reads a basis. -/
def Basis.ofJson? (m : Json.Strictness) (j : Json) : Option Basis :=
  j.named? m [primary, secondary, none] word

/-- The name of a resolution in exchanged values. -/
def Resolution.word : Resolution → String
  | matched => "matched"
  | windowExpired => "window_expired"
  | sourceStale => "source_stale"
  | shutdown => "shutdown"

/-- A resolution by its name. -/
def Resolution.toJson (r : Resolution) : Json := .string r.word

/-- Reads a resolution. -/
def Resolution.ofJson? (m : Json.Strictness) (j : Json) : Option Resolution :=
  j.named? m [matched, windowExpired, sourceStale, shutdown] word

/-- The name of an outcome in exchanged values. -/
def Outcome.word : Outcome → String
  | crossValidated => "cross_validated"
  | ambiguous => "ambiguous"
  | primaryOnly => "primary_only"
  | secondaryFallback => "secondary_fallback"
  | manualRequired => "manual_required"

/-- An outcome by its name. -/
def Outcome.toJson (o : Outcome) : Json := .string o.word

/-- Reads an outcome. -/
def Outcome.ofJson? (m : Json.Strictness) (j : Json) : Option Outcome :=
  j.named? m [crossValidated, ambiguous, primaryOnly, secondaryFallback, manualRequired] word

/-- A fused hand as a record. -/
def FusedHand.toJson (r : FusedHand) : Json :=
  .object [
    ("table_id", .string r.tableId),
    ("hand_number", .ofNat r.handNumber.toNat),
    ("category", .ofOption Category.toJson r.category),
    ("source", r.source.toJson),
    ("cross_validated", .bool r.crossValidated),
    ("requires_review", .bool r.requiresReview),
    ("duration_seconds", .ofOption (fun d => .ofNat d.toNat) r.durationSeconds),
    ("board_category", .ofOption Category.toJson r.boardCategory),
    ("confidence", .ofFloat r.confidence),
    ("outcome", r.outcome.toJson),
    ("resolution", r.resolution.toJson)]

/-- Reads a fused hand. -/
def FusedHand.ofJson? (m : Json.Strictness) (j : Json) : Option FusedHand := do
  let ms ← j.members?
    ["table_id", "hand_number", "category", "source", "cross_validated", "requires_review",
      "duration_seconds", "board_category", "confidence", "outcome", "resolution"] 0
  return {
    tableId := ← ms.required? "table_id" Json.text?
    handNumber := ← ms.required? "hand_number" Json.uint32?
    category := ← ms.optional? "category" (Category.ofJson? m)
    source := ← ms.required? "source" (Basis.ofJson? m)
    crossValidated := ← ms.required? "cross_validated" Json.bool?
    requiresReview := ← ms.required? "requires_review" Json.bool?
    durationSeconds := ← ms.optional? "duration_seconds" Json.uint32?
    boardCategory := ← ms.optional? "board_category" (Category.ofJson? m)
    confidence := ← ms.required? "confidence" Json.real?
    outcome := ← ms.required? "outcome" (Outcome.ofJson? m)
    resolution := ← ms.required? "resolution" (Resolution.ofJson? m) }

/-- The members of the counters. -/
def Tally.members (s : Tally) : Json.Members := [
  ("total", .ofNat s.total),
  ("cross_validated", .ofNat s.crossValidated),
  ("primary_only", .ofNat s.primaryOnly),
  ("review_flagged", .ofNat s.reviewFlagged),
  ("secondary_fallback", .ofNat s.secondaryFallback),
  ("undetected", .ofNat s.undetected)]

/-- The counters as a record. -/
def Tally.toJson (s : Tally) : Json := .object s.members

/-- Reads counters. -/
def Tally.ofJson? (j : Json) : Option Tally := do
  let ms ← j.members?
    ["total", "cross_validated", "primary_only", "review_flagged", "secondary_fallback",
      "undetected"] 0
  return {
    total := ← ms.required? "total" Json.nat?
    crossValidated := ← ms.required? "cross_validated" Json.nat?
    primaryOnly := ← ms.required? "primary_only" Json.nat?
    reviewFlagged := ← ms.required? "review_flagged" Json.nat?
    secondaryFallback := ← ms.required? "secondary_fallback" Json.nat?
    undetected := ← ms.required? "undetected" Json.nat? }

/-- Criteria as a record. -/
def GradingCriteria.toJson (t : GradingCriteria) : Json :=
  .object [
    ("min_duration_seconds", .ofNat t.minDurationSeconds.toNat),
    ("board_category_max", .ofNat t.boardCategoryMax.toNat),
    ("premium_category_max", .ofNat t.premiumCategoryMax.toNat)]

/-- Reads criteria. -/
def GradingCriteria.ofJson? (j : Json) : Option GradingCriteria := do
  let ms ← j.members? ["min_duration_seconds", "board_category_max", "premium_category_max"] 0
  return {
    minDurationSeconds := ← ms.required? "min_duration_seconds" Json.uint32?
    boardCategoryMax := ← ms.required? "board_category_max" Json.uint8?
    premiumCategoryMax := ← ms.required? "premium_category_max" Json.uint8? }

/-- A grade by its letter. -/
def Grade.toJson (g : Grade) : Json := .string g.letter

/-- Reads a grade. -/
def Grade.ofJson? (m : Json.Strictness) (j : Json) : Option Grade :=
  j.named? m [c, b, a] letter

/-- The members of findings. -/
def Findings.members (r : Findings) : Json.Members := [
  ("grade", r.grade.toJson),
  ("broadcast_eligible", .bool r.broadcastEligible),
  ("criteria_met", .ofNat r.criteriaMet.toNat),
  ("premium_hand", .bool r.premiumHand),
  ("long_playtime", .bool r.longPlaytime),
  ("connected_board", .bool r.connectedBoard),
  ("edit_offset_seconds", .ofNat r.editOffsetSeconds.toNat)]

/-- Findings as a record. -/
def Findings.toJson (r : Findings) : Json := .object r.members

/-- Reads findings. -/
def Findings.ofJson? (m : Json.Strictness) (j : Json) : Option Findings := do
  let ms ← j.members?
    ["grade", "broadcast_eligible", "criteria_met", "premium_hand", "long_playtime",
      "connected_board", "edit_offset_seconds"] 0
  return {
    grade := ← ms.required? "grade" (Grade.ofJson? m)
    broadcastEligible := ← ms.required? "broadcast_eligible" Json.bool?
    criteriaMet := ← ms.required? "criteria_met" Json.uint8?
    premiumHand := ← ms.required? "premium_hand" Json.bool?
    longPlaytime := ← ms.required? "long_playtime" Json.bool?
    connectedBoard := ← ms.required? "connected_board" Json.bool?
    editOffsetSeconds := ← ms.required? "edit_offset_seconds" Json.uint32? }

/-- The name of an input in exchanged values. -/
def GradingInput.word : GradingInput → String
  | category => "category"
  | duration => "duration"
  | boardStrength => "board_strength"

/-- An input by its name. -/
def GradingInput.toJson (m : GradingInput) : Json := .string m.word

/-- Reads an input. -/
def GradingInput.ofJson? (m : Json.Strictness) (j : Json) : Option GradingInput :=
  j.named? m [category, duration, boardStrength] word

/-- A verdict as a tagged record. -/
def Grading.toJson : Grading → Json
  | complete r => .object (("status", .string "complete") :: r.members)
  | incomplete r missing =>
    .object [
      ("status", .string "incomplete"),
      ("partial", r.toJson),
      ("missing", .array (missing.map GradingInput.toJson))]

/-- Reads a verdict. -/
def Grading.ofJson? (m : Json.Strictness) (j : Json) : Option Grading := do
  let (status, body) ← j.tagged? "status" (Json.tag? m ["complete", "incomplete"])
  match status with
  | "complete" => return .complete (← Findings.ofJson? .lenient body)
  | "incomplete" =>
    let ms ← body.members? ["partial", "missing"] 0
    return .incomplete (← ms.required? "partial" (Findings.ofJson? .lenient))
      (← ms.required? "missing" (Json.list? (GradingInput.ofJson? .lenient)))
  | _ => none

end Showdown
