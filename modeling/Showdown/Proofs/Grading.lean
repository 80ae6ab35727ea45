import Showdown.Grading
import Mathlib.Data.Bool.Basic
import Mathlib.Order.Basic

/-!
# Grading never overstates

If all that is known of a hand is known of another one as well, and is at least as good there
(`FusedHand.AsGood`), the other one is graded at least as well by criteria that are no stricter
(`noBetter_of_asGood`): it meets as many criteria, gets as good a grade, and may be broadcast if the
first one may. A grading with inputs missing names just these (`mem_missingInputs_iff`), and to fill
them in never takes anything back (`exists_complete_of_completes`).

Only the start of a clip is not monotone in this sense, as a premium hand is shown from the
beginning. For premium hands by themselves and for all others it is: a clip of a longer hand starts
later (`clipStart_mono`), never after the end (`clipStart_le`). The computation stays within words of
64 bits, and its result within 32 (`toNat_clipStartWord`).
-/

namespace Showdown

/-- Whatever is known of one thing is known of another one as well, where it is no worse. -/
def KnownAsGood {α : Type} (noWorse : α → α → Prop) (x y : Option α) : Prop :=
  ∀ a ∈ x, ∃ b ∈ y, noWorse a b

/-- All that is known of a hand is known of another one as well, and is no worse there. What is
unknown of the first may be anything in the second. -/
structure FusedHand.AsGood (f g : FusedHand) : Prop where
  /-- The category is as strong. -/
  category : KnownAsGood (fun c d => d.value ≤ c.value) f.category g.category
  /-- The playing time is as long. -/
  duration : KnownAsGood (· ≤ ·) f.durationSeconds g.durationSeconds
  /-- The board is as strong by itself. -/
  board : KnownAsGood (fun c d => d.value ≤ c.value) f.boardCategory g.boardCategory

/-- Criteria are no stricter than other ones. -/
structure GradingCriteria.NoStricter (u t : GradingCriteria) : Prop where
  /-- They ask for no longer playing time. -/
  duration : u.minDurationSeconds ≤ t.minDurationSeconds
  /-- They ask for no stronger board. -/
  board : t.boardCategoryMax ≤ u.boardCategoryMax
  /-- They ask for no stronger hand. -/
  premium : t.premiumCategoryMax ≤ u.premiumCategoryMax

/-- Something is known, and is what was known of it before if anything was. -/
def FilledIn {α : Type} (x y : Option α) : Prop :=
  ∃ b, y = some b ∧ ∀ a ∈ x, a = b

/-- A hand of which all inputs are known completes another one. -/
structure FusedHand.Completes (g f : FusedHand) : Prop where
  /-- The category is filled in. -/
  category : FilledIn f.category g.category
  /-- The playing time is filled in. -/
  duration : FilledIn f.durationSeconds g.durationSeconds
  /-- The category of the board is filled in. -/
  board : FilledIn f.boardCategory g.boardCategory

/-- An input of the grading is unknown. -/
def FusedHand.Lacks (f : FusedHand) : GradingInput → Prop
  | .category => f.category = none
  | .duration => f.durationSeconds = none
  | .boardStrength => f.boardCategory = none

/-- The playing time as far as it is known, zero if it is not. -/
def FusedHand.playingTime (f : FusedHand) : UInt32 :=
  f.durationSeconds.getD 0

/-- Findings are no better than other ones. -/
structure Findings.NoBetter (r s : Findings) : Prop where
  /-- No more criteria are met. -/
  criteria : r.criteriaMet ≤ s.criteriaMet
  /-- The grade is no better. -/
  grade : (compare r.grade s.grade).isLE
  /-- The hand may be broadcast only if the other one may. -/
  broadcast : r.broadcastEligible → s.broadcastEligible

variable {α : Type} {noWorse : α → α → Prop} {x y : Option α} {f g : FusedHand}
  {t u : GradingCriteria}

theorem FilledIn.knownAsGood (filled : FilledIn x y) (refl : ∀ a, noWorse a a) :
    KnownAsGood noWorse x y := by
  obtain ⟨b, rfl, same⟩ := filled
  exact fun a known => ⟨b, rfl, same a known ▸ refl a⟩

theorem FusedHand.Completes.asGood (h : g.Completes f) : f.AsGood g where
  category := h.category.knownAsGood fun _ => Nat.le_refl _
  duration := h.duration.knownAsGood UInt32.le_refl
  board := h.board.knownAsGood fun _ => Nat.le_refl _

theorem FusedHand.Completes.not_lacks (h : g.Completes f) (i : GradingInput) : ¬ g.Lacks i := by
  obtain ⟨_, category, -⟩ := h.category
  obtain ⟨_, duration, -⟩ := h.duration
  obtain ⟨_, board, -⟩ := h.board
  cases i <;> simp [FusedHand.Lacks, category, duration, board]

theorem GradingCriteria.NoStricter.refl (t : GradingCriteria) : t.NoStricter t :=
  ⟨UInt32.le_refl _, UInt8.le_refl _, UInt8.le_refl _⟩

/-! ### Grades -/

namespace Grade

theorem ofCriteria_mono {m n : Nat} (h : m ≤ n) :
    (compare (ofCriteria m) (ofCriteria n)).isLE := by
  unfold ofCriteria
  split_ifs <;> first | rfl | omega

theorem isBroadcastable_mono {g h : Grade} (le : (compare g h).isLE) :
    g.isBroadcastable → h.isBroadcastable := by
  revert le
  cases g <;> cases h <;> decide

end Grade

namespace Grading

/-! ### Criteria -/

/-- A criterion that is met by what is known is met by what is as good, if it is no stricter. -/
theorem met_mono {p q : α → Bool} (known : KnownAsGood noWorse x y)
    (looser : ∀ a b, noWorse a b → p a → q b) : (x.map p).getD false ≤ (y.map q).getD false := by
  cases x with
  | none => exact Bool.false_le _
  | some a =>
    obtain ⟨b, rfl, better⟩ := known a rfl
    exact looser a b better

theorem premiumHand_mono (h : f.AsGood g) (loose : u.NoStricter t) :
    (findings f t).premiumHand ≤ (findings g u).premiumHand :=
  met_mono h.category fun c d better met => by
    have := UInt8.le_iff_toNat_le.mp loose.premium
    simp only [decide_eq_true_eq] at met ⊢
    omega

theorem longPlaytime_mono (h : f.AsGood g) (loose : u.NoStricter t) :
    (findings f t).longPlaytime ≤ (findings g u).longPlaytime :=
  met_mono h.duration fun d e longer met => by
    simp only [decide_eq_true_eq] at met ⊢
    exact UInt32.le_trans loose.duration (UInt32.le_trans met longer)

theorem connectedBoard_mono (h : f.AsGood g) (loose : u.NoStricter t) :
    (findings f t).connectedBoard ≤ (findings g u).connectedBoard :=
  met_mono h.board fun c d better met => by
    have := UInt8.le_iff_toNat_le.mp loose.board
    simp only [decide_eq_true_eq] at met ⊢
    omega

/-- The number of criteria that some findings say are met. -/
def met (r : Findings) : Nat :=
  r.premiumHand.toNat + r.longPlaytime.toNat + r.connectedBoard.toNat

theorem met_le (r : Findings) : met r ≤ 3 := by
  have := r.premiumHand.toNat_le
  have := r.longPlaytime.toNat_le
  have := r.connectedBoard.toNat_le
  unfold met
  omega

theorem met_findings_mono (h : f.AsGood g) (loose : u.NoStricter t) :
    met (findings f t) ≤ met (findings g u) :=
  Nat.add_le_add (Nat.add_le_add (Bool.toNat_le_toNat (premiumHand_mono h loose))
    (Bool.toNat_le_toNat (longPlaytime_mono h loose)))
    (Bool.toNat_le_toNat (connectedBoard_mono h loose))

/-- The number of criteria met does not wrap around. -/
theorem toNat_criteriaMet (f : FusedHand) (t : GradingCriteria) :
    (findings f t).criteriaMet.toNat = met (findings f t) :=
  UInt8.toNat_ofNat_of_lt' (Nat.lt_of_le_of_lt (met_le (findings f t)) (by decide))

theorem findings_mono (h : f.AsGood g) (loose : u.NoStricter t) :
    (findings f t).NoBetter (findings g u) := by
  have more := met_findings_mono h loose
  have grade : (compare (findings f t).grade (findings g u).grade).isLE :=
    Grade.ofCriteria_mono more
  refine ⟨?_, grade, Grade.isBroadcastable_mono grade⟩
  rw [UInt8.le_iff_toNat_le, toNat_criteriaMet, toNat_criteriaMet]
  exact more

/-! ### Verdicts -/

@[simp]
theorem result_grade (f : FusedHand) (t : GradingCriteria) :
    (grade f t).result = findings f t := by
  unfold grade
  dsimp only
  split <;> rfl

/-- **A hand that is as good is graded as well** by criteria that are no stricter. -/
theorem noBetter_of_asGood (h : f.AsGood g) (loose : u.NoStricter t) :
    (grade f t).result.NoBetter (grade g u).result := by
  rw [result_grade, result_grade]
  exact findings_mono h loose

/-- The inputs that are missing are those that are unknown. -/
theorem mem_missingInputs_iff {i : GradingInput} : i ∈ missingInputs f ↔ f.Lacks i := by
  cases i <;> simp [missingInputs, FusedHand.Lacks]

theorem nodup_missingInputs (f : FusedHand) : (missingInputs f).Nodup := by
  unfold missingInputs
  split_ifs <;> decide

theorem missingInputs_eq_nil_iff : missingInputs f = [] ↔ ∀ i, ¬ f.Lacks i := by
  simp only [List.eq_nil_iff_forall_not_mem, mem_missingInputs_iff]

theorem isComplete_iff : (grade f t).isComplete = true ↔ ∀ i, ¬ f.Lacks i := by
  rw [← missingInputs_eq_nil_iff, ← List.isEmpty_iff]
  unfold grade
  dsimp only
  split
  case isTrue none => simp [none, isComplete]
  case isFalse some => simp [some, isComplete]

theorem eq_of_incomplete {r : Findings} {missing : List GradingInput}
    (h : grade f t = .incomplete r missing) : missing = missingInputs f := by
  unfold grade at h
  dsimp only at h
  split at h <;> cases h
  rfl

/-- To fill in what is missing never takes anything back. -/
theorem exists_complete_of_completes (h : g.Completes f) (t : GradingCriteria) :
    ∃ whole, grade g t = .complete whole ∧ (grade f t).result.NoBetter whole := by
  have complete : (grade g t).isComplete = true := isComplete_iff.mpr h.not_lacks
  have noBetter := noBetter_of_asGood h.asGood (.refl t)
  cases verdict : grade g t with
  | complete whole => exact ⟨whole, rfl, by rwa [verdict] at noBetter⟩
  | incomplete => rw [verdict] at complete; cases complete

/-! ### Where a clip starts -/

theorem clipStart_le (premium : Bool) (duration : Nat) : clipStart premium duration ≤ duration := by
  unfold clipStart
  split_ifs <;> omega

/-- A clip of a longer hand starts no earlier. -/
theorem clipStart_mono (premium : Bool) {d e : Nat} (h : d ≤ e) :
    clipStart premium d ≤ clipStart premium e := by
  -- at 60 and at 180 the next branch takes over, from 0 to 20 and from 30 to 72
  unfold clipStart
  split_ifs <;> omega

/-- Premium hands have to be left out of this. -/
example : clipStart true 500 < clipStart false 200 := by decide

/-- The computation of the start of a clip in machine words: the product in 64 bits. -/
def clipStartWord (premium : Bool) (duration : UInt32) : UInt32 :=
  if premium then 0
  else if 180 < duration then (duration.toUInt64 * 2 / 5).toUInt32
  else if 60 < duration then min (duration / 3) 30
  else 0

theorem toNat_min (d e : UInt32) : (min d e).toNat = min d.toNat e.toNat := by
  have smaller : d ≤ e ↔ d.toNat ≤ e.toNat := UInt32.le_iff_toNat_le
  calc (min d e).toNat = (if d ≤ e then d else e).toNat := rfl
    _ = if d.toNat ≤ e.toNat then d.toNat else e.toNat := by
      rw [apply_ite UInt32.toNat, if_congr smaller rfl rfl]
    _ = min d.toNat e.toNat := Nat.min_def.symm

/-- Nothing is lost in machine words. -/
theorem toNat_clipStartWord (premium : Bool) (duration : UInt32) :
    (clipStartWord premium duration).toNat = clipStart premium duration.toNat := by
  have small := duration.toNat_lt
  have long : (180 < duration) = (180 < duration.toNat) := propext UInt32.lt_iff_toNat_lt
  have middle : (60 < duration) = (60 < duration.toNat) := propext UInt32.lt_iff_toNat_lt
  have product : (duration.toUInt64 * 2 / 5).toUInt32.toNat = duration.toNat * 2 / 5 := by
    have inside : duration.toNat * 2 < 2 ^ 64 := by omega
    have result : duration.toNat * 2 / 5 < 2 ^ 32 := by omega
    calc (duration.toUInt64 * 2 / 5).toUInt32.toNat
        = duration.toNat * 2 % 2 ^ 64 / 5 % 2 ^ 32 := rfl
      _ = duration.toNat * 2 / 5 := by rw [Nat.mod_eq_of_lt inside, Nat.mod_eq_of_lt result]
  simp only [clipStartWord, clipStart, long, middle]
  split_ifs
  · rfl
  · exact product
  · rw [toNat_min, UInt32.toNat_div]
    rfl
  · rfl

theorem toNat_editOffsetSeconds (f : FusedHand) (t : GradingCriteria) :
    (findings f t).editOffsetSeconds.toNat =
      clipStart (findings f t).premiumHand f.playingTime.toNat :=
  UInt32.toNat_ofNat_of_lt' (Nat.lt_of_le_of_lt (clipStart_le _ _) f.playingTime.toNat_lt)

theorem editOffsetSeconds_eq (f : FusedHand) (t : GradingCriteria) :
    (findings f t).editOffsetSeconds = clipStartWord (findings f t).premiumHand f.playingTime := by
  rw [← UInt32.toNat_inj, toNat_editOffsetSeconds, toNat_clipStartWord]

theorem editOffsetSeconds_le (f : FusedHand) (t : GradingCriteria) :
    (findings f t).editOffsetSeconds ≤ f.playingTime := by
  rw [UInt32.le_iff_toNat_le, toNat_editOffsetSeconds]
  exact clipStart_le _ _

theorem editOffsetSeconds_mono (same : (findings f t).premiumHand = (findings g u).premiumHand)
    (longer : f.playingTime ≤ g.playingTime) :
    (findings f t).editOffsetSeconds ≤ (findings g u).editOffsetSeconds := by
  rw [UInt32.le_iff_toNat_le, toNat_editOffsetSeconds, toNat_editOffsetSeconds, same]
  exact clipStart_mono _ (UInt32.le_iff_toNat_le.mp longer)

/-- **Grading is monotone and never overstates.** Of a hand that is as good no less is found by
criteria that are no stricter. If inputs are missing, these are named, each once, and whatever they
turn out to be, no less is found in the end. A clip starts no later than the hand ends as far as is
known, later for a longer hand that is as premium, and is computed without a loss in words. -/
theorem never_overstates :
    (∀ f g t u, FusedHand.AsGood f g → GradingCriteria.NoStricter u t →
      (grade f t).result.NoBetter (grade g u).result) ∧
    (∀ f t, (grade f t).isComplete = true ↔ ∀ i, ¬ FusedHand.Lacks f i) ∧
    (∀ f t found missing, grade f t = .incomplete found missing →
      (missing.Nodup ∧ ∀ i, i ∈ missing ↔ f.Lacks i) ∧
      ∀ g, FusedHand.Completes g f →
        ∃ whole, grade g t = .complete whole ∧ found.NoBetter whole) ∧
    (∀ f t, (grade f t).result.editOffsetSeconds ≤ f.playingTime ∧
      (grade f t).result.editOffsetSeconds.toNat =
        clipStart (grade f t).result.premiumHand f.playingTime.toNat ∧
      (grade f t).result.editOffsetSeconds =
        clipStartWord (grade f t).result.premiumHand f.playingTime) ∧
    ∀ f g t u, (grade f t).result.premiumHand = (grade g u).result.premiumHand →
      f.playingTime ≤ g.playingTime →
      (grade f t).result.editOffsetSeconds ≤ (grade g u).result.editOffsetSeconds := by
  refine ⟨fun f g t u => noBetter_of_asGood, fun f t => isComplete_iff, ?_, fun f t => ?_,
    fun f g t u same longer => ?_⟩
  · intro f t found missing incomplete
    cases eq_of_incomplete incomplete
    refine ⟨⟨nodup_missingInputs f, fun _ => mem_missingInputs_iff⟩, fun g completes => ?_⟩
    obtain ⟨whole, complete, noBetter⟩ := exists_complete_of_completes completes t
    rw [incomplete] at noBetter
    exact ⟨whole, complete, noBetter⟩
  · rw [result_grade]
    exact ⟨editOffsetSeconds_le f t, toNat_editOffsetSeconds f t, editOffsetSeconds_eq f t⟩
  · rw [result_grade, result_grade] at *
    exact editOffsetSeconds_mono same longer

/-- A hand of which only the playing time is known. -/
def timed : FusedHand where
  tableId := "main"
  handNumber := 7
  category := none
  source := .none
  crossValidated := false
  requiresReview := true
  durationSeconds := some 150
  boardCategory := none
  confidence := 0.0
  outcome := .manualRequired
  resolution := .windowExpired

/-- The same hand, once the rest is known. -/
def timedFullHouse : FusedHand :=
  { timed with category := some .fullHouse, boardCategory := some .onePair }

theorem never_overstates_timed :
    (grade timed .standard).result.NoBetter (grade timedFullHouse .standard).result ∧
    (∃ whole, grade timedFullHouse .standard = .complete whole ∧
      (findings timed .standard).NoBetter whole) ∧
    (grade timed .standard).result.editOffsetSeconds ≤
      (grade { timed with durationSeconds := some 200 } .standard).result.editOffsetSeconds := by
  have completes : timedFullHouse.Completes timed :=
    ⟨⟨_, rfl, nofun⟩, ⟨150, rfl, fun _ known => (Option.some.inj known).symm⟩, ⟨_, rfl, nofun⟩⟩
  have incomplete :
      grade timed .standard = .incomplete (findings timed .standard) [.category, .boardStrength] :=
    rfl
  obtain ⟨monotone, -, filled, -, later⟩ := never_overstates
  exact ⟨monotone timed timedFullHouse _ _ completes.asGood (.refl _),
    (filled timed _ _ _ incomplete).2 timedFullHouse completes,
    later timed _ _ _ rfl (by decide)⟩

end Grading

end Showdown
