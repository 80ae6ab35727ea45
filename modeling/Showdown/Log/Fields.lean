import Showdown.Log
import Showdown.Text.Quoted

/-!
# The fields of a note

A field has a name and a text. A number is written in decimal, a source by its name, and a table
by its identifier. What else a field can hold is written as a term: the name of the alternative
in upper camel case, and what belongs to it between braces or parentheses. Texts within terms are
quoted.
-/

namespace Showdown

/-! ### Terms -/

/-- A category as a term. -/
def Category.term : Category → String
  | royalFlush => "RoyalFlush"
  | straightFlush => "StraightFlush"
  | fourOfAKind => "FourOfAKind"
  | fullHouse => "FullHouse"
  | flush => "Flush"
  | straight => "Straight"
  | threeOfAKind => "ThreeOfAKind"
  | twoPair => "TwoPair"
  | onePair => "OnePair"
  | highCard => "HighCard"

/-- An outcome as a term. -/
def Outcome.term : Outcome → String
  | crossValidated => "CrossValidated"
  | ambiguous => "Ambiguous"
  | primaryOnly => "PrimaryOnly"
  | secondaryFallback => "SecondaryFallback"
  | manualRequired => "ManualRequired"

/-- A resolution as a term. -/
def Resolution.term : Resolution → String
  | matched => "Matched"
  | windowExpired => "WindowExpired"
  | sourceStale => "SourceStale"
  | shutdown => "Shutdown"

/-- A source as a term. -/
def Source.term : Source → String
  | primary => "Primary"
  | secondary => "Secondary"

namespace Note

/-- A value that may be absent, as a term. -/
def optionTerm {α : Type} (term : α → String) : Option α → String
  | some a => "Some(" ++ term a ++ ")"
  | none => "None"

/-- An alternative with one member, as a term. -/
def memberTerm (alternative member value : String) : String :=
  alternative ++ " \x7b " ++ member ++ ": " ++ value ++ " \x7d"

end Note

/-- A status as a term. -/
def Status.term : Status → String
  | healthy => "Healthy"
  | degraded stale => Note.memberTerm "Degraded" "stale" stale.term
  | disconnected => "Disconnected"

/-- The reason for leaving something out, as a term. -/
def OmissionReason.term : OmissionReason → String
  | noHoleCards => "NoHoleCards"
  | tooManyHoleCards count => Note.memberTerm "TooManyHoleCards" "count" (toString count)
  | incompleteBoard known => Note.memberTerm "IncompleteBoard" "known" (toString known)
  | malformedCard token => Note.memberTerm "MalformedCard" "token" (Text.quoted token)
  | invalidHand detail => Note.memberTerm "InvalidHand" "detail" (Text.quoted detail)

/-! ### Fields -/

namespace Note

/-- The fields of a note about one observation of a hand. -/
def observationFields (tableId : TableId) (hand : HandNumber) (source : Source) :
    List (String × String) :=
  [("table_id", tableId), ("hand_number", toString hand), ("source", source.text)]

/-- The fields of a note, in order. -/
def fields : Note → List (String × String)
  | tableOpened t | agreeing t | unheard t | removing t => [("table_id", t)]
  | replaced t hand source | late t hand source | waiting t hand source =>
    observationFields t hand source
  | staleExpiry t hand generation =>
    [("table_id", t), ("hand_number", toString hand), ("generation", toString generation)]
  | draining t count => [("table_id", t), ("pending", toString count)]
  | disagreeing t streak => [("table_id", t), ("consecutive_mismatches", toString streak)]
  | resolved r =>
    [("table_id", r.tableId), ("hand_number", toString r.handNumber),
      ("outcome", r.outcome.term), ("resolution", r.resolution.term),
      ("category", optionTerm Category.term r.category),
      ("requires_review", toString r.requiresReview)]
  | recovered t source status =>
    [("table_id", t), ("source", source.text), ("to", status.term)]
  | closingFloor tables => [("tables", toString tables)]
  | statusChanged c => [("table_id", c.tableId), ("from", c.before.term), ("to", c.after.term)]
  | started s =>
    [("match_window_ms", toString s.matchWindow),
      ("staleness_window_ms", toString s.stalenessWindow),
      ("secondary_threshold", Decimal.pointedText s.secondaryThreshold)]
  | leftOut t hand entry =>
    [("table_id", t), ("hand_number", toString hand),
      ("player", optionTerm Text.quoted entry.player), ("reason", entry.reason.term)]
  | unranked t hand => [("table_id", t), ("hand_number", toString hand)]
  | graded r grading =>
    [("table_id", r.tableId), ("hand_number", toString r.handNumber),
      ("grade", grading.result.grade.letter),
      ("criteria_met", toString grading.result.criteriaMet),
      ("complete", toString grading.isComplete)]
  | gradingDone => []
  | stopped s =>
    [("total", toString s.total), ("cross_validated", toString s.crossValidated),
      ("review_flagged", toString s.reviewFlagged), ("undetected", toString s.undetected)]

end Note

end Showdown
