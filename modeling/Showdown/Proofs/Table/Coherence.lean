import Showdown.Proofs.Table.Fate

/-!
# Results that make sense

What a result says of a hand hangs together: what it rests on, whether there is a category, how the
sources compare, how the hand came to be resolved and how far all this is to be believed
(`FusedHand.Coherent`). The policy alone does not see to this, since it takes any observations with
any resolution. It is the table that has both observations only when it compares them, and one of
them otherwise (`Trusts`). So every result of a table is coherent as long as the card readings that
reach it are certain and the video is believed to a degree (`Trusts.take`).
-/

namespace Showdown

/-- A result hangs together, for a policy that uses the video from a threshold on. -/
structure FusedHand.Coherent (threshold : Float) (r : FusedHand) : Prop where
  /-- There is no category if and only if the result rests on nothing. -/
  unnamed : r.category = none ↔ r.source = .none
  /-- It rests on nothing if and only if the hand has to be classified by hand. -/
  manual : r.source = .none ↔ r.outcome = .manualRequired
  /-- It rests on the video if and only if the video had to stand in. -/
  fallback : r.source = .secondary ↔ r.outcome = .secondaryFallback
  /-- It is marked as agreed upon if and only if it is. -/
  agreed : r.crossValidated = true ↔ r.outcome = .crossValidated
  /-- A person should look at it if it does not rest on the card readings or is contested. -/
  review : r.requiresReview = true ↔ r.source ≠ .primary ∨ r.outcome = .ambiguous
  /-- Sources are compared only when both have delivered. -/
  compared : r.outcome = .crossValidated ∨ r.outcome = .ambiguous → r.resolution = .matched
  /-- The video stands in only when the card readings are missing. -/
  alone : r.outcome = .secondaryFallback →
    r.resolution = .windowExpired ∨ r.resolution = .sourceStale
  /-- A hand that is given up has to be classified by hand. -/
  givenUp : r.resolution = .shutdown → r.outcome = .manualRequired
  /-- A hand with both observations never has to be. -/
  classified : r.outcome = .manualRequired → r.resolution ≠ .matched
  /-- Only the card readings tell of the duration and of the board. -/
  details : r.source ≠ .primary → r.durationSeconds = none ∧ r.boardCategory = none
  /-- A card reading is certain. -/
  certain : r.source = .primary → r.confidence = 1.0
  /-- The video is believed at least as far as the threshold. -/
  believed : r.source = .secondary → threshold ≤ r.confidence ∧ r.confidence ≤ 1.0
  /-- Nothing is believed otherwise. -/
  doubted : r.source = .none → r.confidence = 0.0
  /-- The confidence is a number. -/
  number : r.confidence.isNaN = false

/-! ### The policy -/

namespace Policy

variable {policy : Policy} {hand : HandId} {resolution : Resolution}

theorem coherent_unclassified {threshold : Float} (h : resolution ≠ .matched) :
    (unclassified hand resolution).Coherent threshold := by
  constructor <;> simp [unclassified, h]
  decide

theorem coherent_ofPrimary {threshold : Float} {p : RankedHand} {estimate : Option Category}
    (certain : p.confidence = 1.0) (compared : estimate.isSome → resolution = .matched)
    (goesOn : resolution ≠ .shutdown) :
    (ofPrimary hand p estimate resolution).Coherent threshold := by
  cases estimate with
  | none => constructor <;> simp [ofPrimary, certain, goesOn]; decide
  | some c =>
    obtain rfl := compared rfl
    by_cases same : c = p.category
    · constructor <;> simp [ofPrimary, certain, same]; decide
    · constructor <;> simp [ofPrimary, certain, same]; decide

theorem coherent_ofSecondary {threshold confidence : Float} {c : Category}
    (sure : threshold ≤ confidence) (valid : inUnitInterval confidence = true)
    (alone : resolution ≠ .matched) (goesOn : resolution ≠ .shutdown) :
    (ofSecondary hand c confidence resolution).Coherent threshold := by
  obtain ⟨lower, upper⟩ := inUnitInterval_iff.mp valid
  have number := isNaN_of_le lower
  cases resolution <;> constructor <;> simp_all [ofSecondary]

/-- What the policy makes of certain card readings and of a video that is believed to a degree is
coherent, if the resolution says whether there are both. -/
theorem coherent_decide {primary : Option RankedHand} {secondary : Option Sighting}
    (certain : ∀ r ∈ primary, r.confidence = 1.0)
    (believed : ∀ r ∈ secondary, inUnitInterval r.confidence = true)
    (matched : resolution = .matched ↔ primary.isSome ∧ secondary.isSome)
    (goesOn : resolution ≠ .shutdown) :
    (policy.decide hand primary secondary resolution).Coherent policy.secondaryThreshold := by
  cases primary with
  | some p =>
    refine coherent_ofPrimary (certain p rfl) (fun estimate => matched.mpr ⟨rfl, ?_⟩) goesOn
    cases secondary with
    | none => cases estimate
    | some s => rfl
  | none =>
    have alone : resolution ≠ .matched := by simp [matched]
    cases secondary with
    | none => exact coherent_unclassified alone
    | some s =>
      cases named : s.category with
      | none =>
        simp only [decide, named]
        exact coherent_unclassified alone
      | some c =>
        simp only [decide, named]
        split
        · rename_i sure
          exact coherent_ofSecondary sure (believed s rfl) alone goesOn
        · exact coherent_unclassified alone

end Policy

/-! ### Tables -/

namespace Table

variable {hand : HandNumber} {u : Turn} {t : Table} {threshold : Float}

/-- Card readings are certain, and the video is believed to a degree. -/
def Message.IsCredible : Message → Prop
  | .primary r => r.confidence = 1.0
  | .secondary r => inUnitInterval r.confidence = true
  | _ => True

/-- A turn brings only what is credible. -/
def Turn.IsCredible : Turn → Prop
  | message m => m.IsCredible
  | deserted => True

/-- The observations of a hand are credible. -/
structure Pending.IsCredible (p : Pending) : Prop where
  /-- A card reading is certain. -/
  certain : ∀ r ∈ p.primary, r.confidence = 1.0
  /-- The video is believed to a degree. -/
  believed : ∀ r ∈ p.secondary, inUnitInterval r.confidence = true

/-- A table uses the video from a threshold on, and each of its hands holds a credible observation
of one source and waits for the other. -/
structure Trusts (threshold : Float) (t : Table) : Prop where
  /-- The policy of the table. -/
  policy : t.settings.policy.secondaryThreshold = threshold
  /-- The hands wait for one source. -/
  awaits : ∀ (hand : HandNumber) p, t.pending[hand]? = some p → p.awaited.isSome
  /-- And they hold what is credible of the other. -/
  credible : ∀ (hand : HandNumber) p, t.pending[hand]? = some p → p.IsCredible

theorem trusts_opened (tableId : TableId) (settings : Settings) :
    (opened tableId settings).Trusts settings.policy.secondaryThreshold := by
  refine ⟨rfl, fun hand p hp => ?_, fun hand p hp => ?_⟩ <;> simp [opened] at hp

/-! ### Turns -/

/-- What arrives leaves a hand with credible observations. -/
theorem Pending.IsCredible.put {p : Pending} (h : p.IsCredible) (hu : u.IsCredible) :
    (p.put hand u).IsCredible := by
  constructor
  · intro r hr
    rcases Option.or_eq_some_iff.mp hr with arrived | ⟨-, held⟩
    · cases u with
      | deserted => cases arrived
      | message m =>
        cases m <;> simp only [Turn.primary?, reduceCtorEq, Option.ite_none_right_eq_some,
          Option.some.injEq] at arrived
        obtain ⟨-, rfl⟩ := arrived
        simpa only [Turn.IsCredible, Message.IsCredible] using hu
    · exact h.certain r held
  · intro r hr
    rcases Option.or_eq_some_iff.mp hr with arrived | ⟨-, held⟩
    · cases u with
      | deserted => cases arrived
      | message m =>
        cases m <;> simp only [Turn.secondary?, reduceCtorEq, Option.ite_none_right_eq_some,
          Option.some.injEq] at arrived
        obtain ⟨-, rfl⟩ := arrived
        simpa only [Turn.IsCredible, Message.IsCredible] using hu
    · exact h.believed r held

/-- What opens a hand is credible. -/
theorem credible_opening (hu : u.IsCredible) (hand : HandNumber) (generation : Nat) (timed : Bool) :
    Pending.IsCredible ⟨u.primary? hand, u.secondary? hand, generation, timed⟩ := by
  have nothing : Pending.IsCredible ⟨none, none, generation, timed⟩ := by
    constructor <;> intro r none <;> cases none
  have put : (Pending.put ⟨none, none, generation, timed⟩ hand u).IsCredible := nothing.put hu
  simpa [Pending.put] using put

/-- A hand that waits does not have both observations. -/
theorem Pending.not_both_of_awaited {p : Pending} (awaits : p.awaited.isSome) :
    ¬ (p.primary.isSome ∧ p.secondary.isSome) := by
  obtain ⟨primary, secondary, _, _⟩ := p
  cases primary <;> cases secondary <;> simp [awaited] at awaits ⊢

/-- A hand has both observations once the missing one has arrived. -/
theorem Pending.both_of_arrived {p : Pending} {source : Source} (awaits : p.awaited.isSome)
    (observed : u.source? hand = some source) (missing : p.has source = false) :
    (p.put hand u).primary.isSome ∧ (p.put hand u).secondary.isSome := by
  have waiting := Pending.awaited_of_missing awaits missing
  have new := (p.has_put hand u source).mpr (.inl observed)
  have old := (p.has_put hand u source.other).mpr
    (.inr ((p.awaited_eq_some_iff source).mp waiting).1)
  cases source with
  | primary => exact ⟨new, old⟩
  | secondary => exact ⟨old, new⟩

/-- A result is coherent if the resolution says whether there are both observations. -/
theorem Trusts.fuse (h : t.Trusts threshold) {p : Pending} (credible : p.IsCredible)
    {resolution : Resolution}
    (matched : resolution = .matched ↔ p.primary.isSome ∧ p.secondary.isSome)
    (goesOn : resolution ≠ .shutdown) (hand : HandNumber) :
    (t.fuse hand p resolution).Coherent threshold := by
  rw [← h.policy]
  exact Policy.coherent_decide credible.certain credible.believed matched goesOn

/-- A result of a turn is coherent if only what is credible has been told. -/
theorem Trusts.coherent (h : t.Trusts threshold) (hu : u.IsCredible) {r : FusedHand}
    (hr : r ∈ resultsOf hand (take u t).out) : r.Coherent threshold := by
  have only {p : Pending} {r' : FusedHand} (goes : Goes hand p r' t (take u t))
      (coherent : r'.Coherent threshold) : r.Coherent threshold := by
    rw [goes.results] at hr
    exact List.mem_singleton.mp hr ▸ coherent
  have alone {p : Pending} (credible : p.IsCredible) (awaits : p.awaited.isSome)
      {resolution : Resolution} (unmatched : resolution ≠ .matched)
      (goesOn : resolution ≠ .shutdown) : (t.fuse hand p resolution).Coherent threshold :=
    h.fuse credible (iff_of_false unmatched (Pending.not_both_of_awaited awaits)) goesOn hand
  cases fate_take hand u t with
  | spared _ _ _ stands | late _ _ _ stands =>
    rw [stands.unresolved] at hr
    cases hr
  | opened _ _ _ _ _ _ unresolved _ _ | replaced _ _ _ _ unresolved _ =>
    rw [unresolved] at hr
    cases hr
  | cut observed _ _ _ goes =>
    have awaits := Pending.awaited_of_observed observed (t.generation + 1) false
    exact only goes (alone (credible_opening hu hand _ _) (by rw [awaits]; rfl)
      Resolution.noConfusion Resolution.noConfusion)
  | givenUp _ _ goes => exact only goes (Policy.coherent_unclassified Resolution.noConfusion)
  | @resolved p waited _ cause goes =>
    have awaits := h.awaits hand p waited
    have credible := h.credible hand p waited
    cases cause with
    | matched observed missing =>
      have both := Pending.both_of_arrived awaits observed missing
      exact only goes (h.fuse (credible.put hu) (iff_of_true rfl both)
        Resolution.noConfusion hand)
    | expired runsOut =>
      rw [Pending.put_of_unobserved (Turn.source?_of_runsOut runsOut hand)] at goes
      exact only goes (alone credible awaits Resolution.noConfusion Resolution.noConfusion)
    | stale _ told =>
      rw [Pending.put_of_unobserved (Turn.source?_of_told told hand)] at goes
      exact only goes (alone credible awaits Resolution.noConfusion Resolution.noConfusion)

/-- What waits after a turn waited before or holds what the turn has brought. -/
theorem waits_take {p : Pending} (waits : (take u t).state.pending[hand]? = some p) :
    t.pending[hand]? = some p ∨
      (∃ q, t.pending[hand]? = some q ∧ p = q.put hand u ∧ p.awaited = q.awaited) ∨
      p.awaited.isSome ∧
        ∃ generation timed, p = ⟨u.primary? hand, u.secondary? hand, generation, timed⟩ := by
  cases fate_take hand u t with
  | spared _ _ _ stands | late _ _ _ stands => exact .inl (stands.pending ▸ waits)
  | opened observed _ _ _ waits' _ _ _ _ =>
    obtain rfl := Option.some.inj (waits'.symm.trans waits)
    exact .inr (.inr ⟨by rw [Pending.awaited_of_observed observed]; rfl, _, _, rfl⟩)
  | @replaced source observed q waited held waits' _ _ =>
    obtain rfl := Option.some.inj (waits'.symm.trans waits)
    refine .inr (.inl ⟨q, waited, rfl, Pending.awaited_put fun other observed' => ?_⟩)
    exact Option.some.inj (observed.symm.trans observed') ▸ held
  | cut _ _ _ _ goes | resolved _ _ goes | givenUp _ _ goes =>
    rw [goes.gone] at waits
    cases waits

/-- A table that is told only what is credible goes on doing so. -/
theorem Trusts.take (h : t.Trusts threshold) (hu : u.IsCredible) :
    (take u t).state.Trusts threshold := by
  refine ⟨?_, fun hand p waits => ?_, fun hand p waits => ?_⟩
  · rw [settings_moves (moves_take u t), h.policy]
  all_goals
    rcases waits_take waits with waited | ⟨q, waited, rfl, same⟩ | ⟨awaits, _, _, rfl⟩
  · exact h.awaits hand p waited
  · exact same ▸ h.awaits hand q waited
  · exact awaits
  · exact h.credible hand p waited
  · exact (h.credible hand q waited).put hu
  · exact credible_opening hu hand _ _

/-- **A table that is told only what is credible hands on only results that are coherent.** -/
theorem Trusts.coherent_of_mem (h : t.Trusts threshold) (hu : u.IsCredible) :
    ∀ r ∈ results (Table.take u t).out, r.Coherent threshold := by
  intro r hr
  have own : r ∈ resultsOf r.handNumber (Table.take u t).out :=
    List.mem_filter.mpr ⟨hr, by simp⟩
  exact h.coherent hu own

end Table

end Showdown
