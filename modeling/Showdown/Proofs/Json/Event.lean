import Showdown.Json.Event
import Showdown.Proofs.Json.Observation

/-!
# Results and events that are read back

For fused hands, gradings, health and events, as for observations: what is asked for, that nothing
else is noticed, and that what was written is read back, within a tagged record or outside of one.
The content of an event is read back as well, so an event is read as itself if the confidence of its
hand is finite (`Event.Finite`).

The last section has it for all that is exchanged (`records_read_back`).
-/

namespace Showdown

open Json

/-! ### Names -/

section Names

variable (m : Strictness)

theorem Basis.respects : Respects (Basis.ofJson? m) .plain :=
  respects_named m [primary, secondary, none] word

theorem Resolution.respects : Respects (Resolution.ofJson? m) .plain :=
  respects_named m [matched, windowExpired, sourceStale, shutdown] word

theorem Outcome.respects : Respects (Outcome.ofJson? m) .plain :=
  respects_named m [crossValidated, ambiguous, primaryOnly, secondaryFallback, manualRequired] word

theorem Grade.respects : Respects (Grade.ofJson? m) .plain :=
  respects_named m [c, b, a] letter

theorem GradingInput.respects : Respects (GradingInput.ofJson? m) .plain :=
  respects_named m [category, duration, boardStrength] word

theorem Source.respects : Respects (Source.ofJson? m) .plain :=
  respects_named m [primary, secondary] text

theorem Liveness.respects : Respects (Liveness.ofJson? m) .plain :=
  respects_named m [fresh, stale] word

@[simp] theorem Basis.ofJson?_toJson (s : Basis) : Basis.ofJson? m s.toJson = some s := by
  cases s <;> rfl

@[simp] theorem Resolution.ofJson?_toJson (r : Resolution) :
    Resolution.ofJson? m r.toJson = some r := by
  cases r <;> rfl

@[simp] theorem Outcome.ofJson?_toJson (o : Outcome) : Outcome.ofJson? m o.toJson = some o := by
  cases o <;> rfl

@[simp] theorem Grade.ofJson?_toJson (g : Grade) : Grade.ofJson? m g.toJson = some g := by
  cases g <;> rfl

@[simp] theorem GradingInput.ofJson?_toJson (i : GradingInput) :
    GradingInput.ofJson? m i.toJson = some i := by
  cases i <;> rfl

@[simp] theorem Source.ofJson?_toJson (s : Source) : Source.ofJson? m s.toJson = some s := by
  cases s <;> rfl

@[simp] theorem Liveness.ofJson?_toJson (l : Liveness) : Liveness.ofJson? m l.toJson = some l := by
  cases l <;> rfl

end Names

/-! ### Fused hands -/

/-- What is asked of a fused hand. -/
def FusedHand.parts : List (String × Shape) :=
  [("table_id", .plain), ("hand_number", .plain), ("category", .plain), ("source", .plain),
    ("cross_validated", .plain), ("requires_review", .plain), ("duration_seconds", .plain),
    ("board_category", .plain), ("confidence", .plain), ("outcome", .plain),
    ("resolution", .plain)]

theorem FusedHand.respects (m : Strictness) : Respects (FusedHand.ofJson? m) (.record parts) := by
  intro j j' step
  refine members?_bind _ _ step fun ms ms' near => ?_
  rw [near.required? respects_text, near.required? respects_uint32,
    near.optional? (Category.respects m), near.required? (Basis.respects m),
    near.required? respects_bool, near.required? respects_bool,
    near.optional? respects_uint32, near.optional? (Category.respects m),
    near.required? respects_real, near.required? (Outcome.respects m),
    near.required? (Resolution.respects m)]
  all_goals simp [parts]

theorem FusedHand.ofJson?_toJson (m : Strictness) {r : FusedHand}
    (finite : r.confidence.isFinite = true) : FusedHand.ofJson? m r.toJson = some r := by
  simp [FusedHand.ofJson?, toJson, Members.required?, Members.optional?, real?_ofFloat finite,
    nullable?_ofOption rfl uint32?_ofNat, nullable?_ofOption rfl (Category.ofJson?_toJson m)]

/-- What is asked of counters. -/
def Tally.parts : List (String × Shape) :=
  [("total", .plain), ("cross_validated", .plain), ("primary_only", .plain),
    ("review_flagged", .plain), ("secondary_fallback", .plain), ("undetected", .plain)]

theorem Tally.respects : Respects Tally.ofJson? (.record parts) := by
  intro j j' step
  refine members?_bind _ _ step fun ms ms' near => ?_
  rw [near.required? respects_nat, near.required? respects_nat, near.required? respects_nat,
    near.required? respects_nat, near.required? respects_nat, near.required? respects_nat]
  all_goals simp [parts]

theorem Tally.ofJson?_toJson (s : Tally) : Tally.ofJson? s.toJson = some s := by
  simp [Tally.ofJson?, toJson, members, Members.required?]

/-! ### Gradings -/

/-- What is asked of criteria. -/
def GradingCriteria.parts : List (String × Shape) :=
  [("min_duration_seconds", .plain), ("board_category_max", .plain),
    ("premium_category_max", .plain)]

theorem GradingCriteria.respects : Respects GradingCriteria.ofJson? (.record parts) := by
  intro j j' step
  refine members?_bind _ _ step fun ms ms' near => ?_
  rw [near.required? respects_uint32, near.required? respects_uint8,
    near.required? respects_uint8]
  all_goals simp [parts]

theorem GradingCriteria.ofJson?_toJson (t : GradingCriteria) :
    GradingCriteria.ofJson? t.toJson = some t := by
  simp [GradingCriteria.ofJson?, toJson, Members.required?]

/-- What is asked of findings. -/
def Findings.parts : List (String × Shape) :=
  [("grade", .plain), ("broadcast_eligible", .plain), ("criteria_met", .plain),
    ("premium_hand", .plain), ("long_playtime", .plain), ("connected_board", .plain),
    ("edit_offset_seconds", .plain)]

theorem Findings.respects (m : Strictness) : Respects (Findings.ofJson? m) (.record parts) := by
  intro j j' step
  refine members?_bind _ _ step fun ms ms' near => ?_
  rw [near.required? (Grade.respects m), near.required? respects_bool,
    near.required? respects_uint8, near.required? respects_bool, near.required? respects_bool,
    near.required? respects_bool, near.required? respects_uint32]
  all_goals simp [parts]

@[simp] theorem Findings.ofJson?_toJson (m : Strictness) (r : Findings) :
    Findings.ofJson? m r.toJson = some r := by
  simp [Findings.ofJson?, toJson, members, Members.required?]

/-- What is asked of a verdict: its status, and the members of both kinds of verdicts. -/
def Grading.parts : List (String × Shape) :=
  ("status", .plain) :: Findings.parts ++
    [("partial", .record Findings.parts), ("missing", .list .plain)]

theorem Grading.respects (m : Strictness) : Respects (Grading.ofJson? m) (.record parts) := by
  intro j j' step
  refine tagged?_bind (respects_tag m _) (by simp [parts]) step fun status rest rest' step => ?_
  dsimp only
  split
  · rw [Findings.respects .lenient (step.mono (by simp [parts]))]
  · refine members?_bind _ _ step fun ms ms' near => ?_
    rw [near.required? (Findings.respects .lenient),
      near.required? (GradingInput.respects .lenient).list]
    all_goals simp [parts]
  · rfl

@[simp] theorem Grading.ofJson?_toJson (m : Strictness) (g : Grading) :
    Grading.ofJson? m g.toJson = some g := by
  cases g with
  | complete r =>
    simp [Grading.ofJson?, toJson, tagged?, tag?, Members.required?, Findings.ofJson?,
      Findings.members]
  | incomplete r missing =>
    simp [Grading.ofJson?, toJson, tagged?, tag?, Members.required?,
      list?_array_map (GradingInput.ofJson?_toJson .lenient)]

/-! ### Health -/

/-- What is asked of a status. -/
def Status.parts : List (String × Shape) := [("status", .plain), ("stale", .plain)]

theorem Status.respects (m : Strictness) : Respects (Status.ofJson? m) (.record parts) := by
  intro j j' step
  refine tagged?_bind (respects_tag m _) (by simp [parts]) step fun status rest rest' step => ?_
  dsimp only
  split
  · exact members?_bind _ _ step fun _ _ _ => rfl
  · refine members?_bind _ _ step fun ms ms' near => ?_
    rw [near.required? (Source.respects .lenient)]
    simp [parts]
  · exact members?_bind _ _ step fun _ _ _ => rfl
  · rfl

@[simp] theorem Status.ofJson?_toJson (m : Strictness) (s : Status) :
    Status.ofJson? m s.toJson = some s := by
  cases s with
  | degraded stale => simp [Status.ofJson?, toJson, tagged?, tag?, Members.required?]
  | healthy | disconnected => rfl

/-- What is asked of a reported change of status. -/
def StatusReport.parts : List (String × Shape) :=
  [("table_id", .plain), ("from", .record Status.parts), ("to", .record Status.parts),
    ("primary", .plain), ("secondary", .plain), ("observed_at", .plain)]

theorem StatusReport.respects (m : Strictness) :
    Respects (StatusReport.ofJson? m) (.record parts) := by
  intro j j' step
  refine members?_bind _ _ step fun ms ms' near => ?_
  rw [near.required? respects_text, near.required? (Status.respects m),
    near.required? (Status.respects m), near.required? (Liveness.respects m),
    near.required? (Liveness.respects m), near.required? respects_instant]
  all_goals simp [parts]

@[simp] theorem StatusReport.ofJson?_toJson (m : Strictness) (t : StatusReport) :
    StatusReport.ofJson? m t.toJson = some t := by
  simp [StatusReport.ofJson?, toJson, StatusChange.members, Members.required?]

/-! ### Events -/

/-- What is asked of an event. -/
def Event.parts : List (String × Shape) :=
  [("type", .plain), ("fused", .record FusedHand.parts), ("grading", .record Grading.parts),
    ("grade", .record Findings.parts), ("transition", .record StatusReport.parts),
    ("table_id", .plain), ("consecutive_mismatches", .plain)]

theorem Event.respects : Respects Event.ofJson? (.record parts) := by
  intro j j' step
  refine tagged?_bind respects_text (by simp [parts]) step fun type rest rest' step => ?_
  dsimp only
  split
  · refine members?_bind _ _ step fun ms ms' near => ?_
    rw [near.required? (FusedHand.respects .lenient), near.required? (Grading.respects .lenient)]
    all_goals simp [parts]
  · refine members?_bind _ _ step fun ms ms' near => ?_
    rw [near.required? (FusedHand.respects .lenient), near.required? (Findings.respects .lenient)]
    all_goals simp [parts]
  · refine members?_bind _ _ step fun ms ms' near => ?_
    rw [near.required? (StatusReport.respects .lenient)]
    simp [parts]
  · refine members?_bind _ _ step fun ms ms' near => ?_
    rw [near.required? respects_text, near.required? respects_uint32]
    all_goals simp [parts]
  · rfl

/-- The confidence in the hand that an event is about, if it is about one, is a finite number. -/
def Event.Finite : Event → Prop
  | graded fused _ | broadcastable fused _ => fused.confidence.isFinite = true
  | statusChanged _ | disagreement _ _ => True

theorem Event.ofJson?_toJson {e : Event} (finite : e.Finite) :
    Event.ofJson? e.toJson = some e := by
  cases e with
  | graded fused grading =>
    have hand := FusedHand.ofJson?_toJson .lenient finite
    simp [Event.ofJson?, toJson, tagged?, Members.required?, hand]
  | broadcastable fused grade =>
    have hand := FusedHand.ofJson?_toJson .lenient finite
    simp [Event.ofJson?, toJson, tagged?, Members.required?, hand]
  | statusChanged | disagreement =>
    simp [Event.ofJson?, toJson, tagged?, Members.required?]

/-! ### All that is exchanged -/

/-- **Whatever is exchanged is read back as what was written, if its confidence is a finite number,
and neither the order of the members nor members that are not asked for matter.** What may also
stand in the content of a tagged record is read back there as well. -/
theorem records_read_back (m : Strictness) :
    Faithful HandRecord.toJson HandRecord.ofJson? (.record HandRecord.parts) (fun _ => True) ∧
      Faithful RankedHand.toJson RankedHand.ofJson? (.record RankedHand.parts)
        (fun r => r.confidence.isFinite = true) ∧
      Faithful Omission.toJson Omission.ofJson? (.record Omission.parts) (fun _ => True) ∧
      Faithful Sighting.toJson Sighting.ofJson? (.record Sighting.parts)
        (fun r => r.confidence.isFinite = true) ∧
      Faithful FusedHand.toJson (FusedHand.ofJson? m) (.record FusedHand.parts)
        (fun r => r.confidence.isFinite = true) ∧
      Faithful Tally.toJson Tally.ofJson? (.record Tally.parts) (fun _ => True) ∧
      Faithful GradingCriteria.toJson GradingCriteria.ofJson? (.record GradingCriteria.parts)
        (fun _ => True) ∧
      Faithful Grading.toJson (Grading.ofJson? m) (.record Grading.parts) (fun _ => True) ∧
      Faithful StatusReport.toJson (StatusReport.ofJson? m) (.record StatusReport.parts)
        (fun _ => True) ∧
      Faithful Event.toJson Event.ofJson? (.record Event.parts) Event.Finite :=
  ⟨⟨fun r _ => r.ofJson?_toJson, fun _ _ => HandRecord.respects.alike⟩,
    ⟨fun _ => RankedHand.ofJson?_toJson, fun _ _ => RankedHand.respects.alike⟩,
    ⟨fun s _ => s.ofJson?_toJson, fun _ _ => Omission.respects.alike⟩,
    ⟨fun _ => Sighting.ofJson?_toJson, fun _ _ => Sighting.respects.alike⟩,
    ⟨fun _ => FusedHand.ofJson?_toJson m, fun _ _ => (FusedHand.respects m).alike⟩,
    ⟨fun s _ => s.ofJson?_toJson, fun _ _ => Tally.respects.alike⟩,
    ⟨fun t _ => t.ofJson?_toJson, fun _ _ => GradingCriteria.respects.alike⟩,
    ⟨fun g _ => g.ofJson?_toJson m, fun _ _ => (Grading.respects m).alike⟩,
    ⟨fun t _ => t.ofJson?_toJson m, fun _ _ => (StatusReport.respects m).alike⟩,
    ⟨fun _ => Event.ofJson?_toJson, fun _ _ => Event.respects.alike⟩⟩

/-- A sighting and an event are read from objects that begin with a note and have their members in
the opposite order. -/
theorem records_read_back_of_noted :
    Sighting.ofJson? (.object [
        ("note", .null),
        ("observed_at", UtcTime.epoch.toJson),
        ("confidence", .ofFloat 0.75),
        ("category", .null),
        ("hand_number", .ofNat 7),
        ("table_id", .string "t1")]) = some ⟨"t1", 7, none, 0.75, .epoch⟩ ∧
      Event.ofJson? (.object [
        ("note", .null),
        ("consecutive_mismatches", .ofNat 3),
        ("table_id", .string "t1"),
        ("type", .string "fusion_degraded")]) = some (.disagreement "t1" 3) := by
  obtain ⟨-, -, -, sighting, -, -, -, -, -, event⟩ := records_read_back .strict
  constructor
  · rw [← sighting.read_write ⟨"t1", 7, none, 0.75, .epoch⟩ (by decide)]
    refine sighting.read_alike _ _ (.of_perm [("note", .null)] ?_ ?_ (List.reverse_perm _).symm)
    · simp [Sighting.parts]
    · simp
  · rw [← event.read_write (.disagreement "t1" 3) trivial]
    refine event.read_alike _ _ (.of_perm [("note", .null)] ?_ ?_ (List.reverse_perm _).symm)
    · simp [Event.parts]
    · simp

end Showdown
