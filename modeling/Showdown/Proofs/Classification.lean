import Showdown.Classification
import Mathlib.Data.List.Nodup
import Mathlib.Data.Prod.Lex

/-!
# Each seat by itself

A record is classified seat by seat. Each seat has one entry, in the order of the seats: either its
ranked hand or the reason why it has none. The entry of a seat is found from the seat and from what
the record says of all seats alike (`Deal`), so a fault of one seat is none of another, and neither
the number nor the order of the others matters (`one_entry_per_seat`).

Of the ranked hands the strongest is taken, and of equally strong ones that of the lowest seat. This
is so in whatever order the seats stand, unless two hands are equally strong in one seat.
-/

namespace Showdown

/-- What a record says of all its seats alike. -/
structure Deal where
  /-- The table. -/
  tableId : TableId
  /-- The hand. -/
  handNumber : HandNumber
  /-- How long the hand was played, if reported. -/
  durationSeconds : Option UInt32
  /-- The tokens of the board. -/
  revealed : List String

/-- What a record says of all its seats alike. -/
def HandRecord.deal (r : HandRecord) : Deal :=
  ⟨r.tableId, r.handNumber, r.durationSeconds, r.revealed⟩

/-- What decides between ranked hands: the strength first, then the seat. -/
def RankedHand.standing (h : RankedHand) : UInt16 × UInt8 :=
  (h.strength, h.seat)

/-- A ranked hand stands before another: it is stronger, or as strong in a lower seat. -/
def RankedHand.Before (a b : RankedHand) : Prop :=
  Prod.Lex (· < ·) (· < ·) a.standing b.standing

namespace Classification

variable {r r' : HandRecord} {s : Seat} {cards : List Card} {ranked best : RankedHand}

/-! ### Entries -/

/-- The entry of a seat: its ranked hand, or how it is left out. -/
def entry (r : HandRecord) (s : Seat) : Except Omission RankedHand :=
  (rankSeat r (board r) s).mapError fun reason => ⟨some s.name, some s.seat, reason⟩

/-- How a seat is left out, if it has no ranked hand. -/
def omission? : Except Omission RankedHand → Option Omission
  | .ok _ => none
  | .error o => some o

/-- A token of the board that names no card. -/
def isMalformed (token : String) : Bool :=
  (Card.read token).toOption.isNone

/-- An entry says whose it is. -/
def Names (s : Seat) : Except Omission RankedHand → Prop
  | .ok ranked => ranked.player = s.name ∧ ranked.seat = s.seat
  | .error o => o.player = some s.name ∧ o.seat = some s.seat

/-- The ranked hand of a seat that holds two cards. -/
def rankedHand (r : HandRecord) (cards : List Card) (s : Seat) (hole : Card × Card)
    (evaluation : Hand.Evaluation) : RankedHand where
  tableId := r.tableId
  handNumber := r.handNumber
  player := s.name
  seat := s.seat
  holeCards := hole
  communityCards := cards
  strength := evaluation.strength
  category := evaluation.category
  confidence := 1.0
  durationSeconds := r.durationSeconds
  boardCategory := boardCategory? cards

/-- Which seats are ranked, and as what. -/
theorem rankSeat_eq_ok_iff :
    rankSeat r cards s = .ok ranked ↔
      ∃ hole : Card × Card, ∃ evaluation : Hand.Evaluation,
        s.cardTokens.map Card.read = [.ok hole.1, .ok hole.2] ∧ leastBoard ≤ cards.length ∧
        evaluateDeal (hole.1 :: hole.2 :: cards) = .ok evaluation ∧
        ranked = rankedHand r cards s hole evaluation := by
  constructor
  · intro h
    unfold rankSeat at h
    repeat' split at h
    all_goals cases h
    rename_i tokens enough _ _ c d first second _ _ evaluated
    exact ⟨(c, d), _, by simp [tokens, first, second], not_lt.mp enough, evaluated, rfl⟩
  · rintro ⟨hole, evaluation, tokens, enough, evaluated, rfl⟩
    obtain ⟨first, _, eq, hc, rest⟩ := List.map_eq_cons_iff.mp tokens
    obtain ⟨second, rfl, hd⟩ := List.map_eq_singleton_iff.mp rest
    simp only [rankSeat, eq, if_neg enough.not_gt, hc, hd, evaluated, rankedHand]

/-- The entry of a seat depends on the seat and on what the record says of all seats alike. -/
theorem entry_congr (h : r.deal = r'.deal) (s : Seat) : entry r s = entry r' s := by
  obtain ⟨tableId, handNumber, duration, revealed⟩ := Deal.mk.inj h
  have same : board r = board r' := by rw [board, board, revealed]
  rw [entry, entry, same]
  unfold rankSeat
  rw [tableId, handNumber, duration]

theorem names_entry (r : HandRecord) (s : Seat) : Names s (entry r s) := by
  unfold entry
  cases h : rankSeat r (board r) s with
  | error reason => exact ⟨rfl, rfl⟩
  | ok ranked =>
    obtain ⟨_, _, -, -, -, rfl⟩ := rankSeat_eq_ok_iff.mp h
    exact ⟨rfl, rfl⟩

theorem results_ofRecord (r : HandRecord) :
    (ofRecord r).results = (r.players.map (entry r)).filterMap Except.toOption := by
  rw [ofRecord, List.filterMap_map]
  refine List.filterMap_congr fun s _ => ?_
  simp only [Function.comp, entry]
  cases rankSeat r (board r) s <;> rfl

theorem token_of_read {token : String} {e : MalformedCard} (h : Card.read token = .error e) :
    e.token = token := by
  unfold Card.read at h
  split at h <;> cases h
  rfl

theorem omitted_ofRecord (r : HandRecord) :
    (ofRecord r).omitted =
      (r.revealed.filter isMalformed).map (fun token => ⟨none, none, .malformedCard token⟩) ++
        (r.players.map (entry r)).filterMap omission? := by
  have tokens : r.revealed.filterMap omittedToken? =
      (r.revealed.filter isMalformed).map fun token => ⟨none, none, .malformedCard token⟩ := by
    rw [← List.filterMap_eq_map, List.filterMap_filter]
    refine List.filterMap_congr fun token _ => ?_
    cases h : Card.read token with
    | ok c => simp [omittedToken?, isMalformed, h, Except.toOption]
    | error e => simp [omittedToken?, isMalformed, h, Except.toOption, token_of_read h]
  rw [ofRecord, tokens, List.filterMap_map]
  refine congrArg _ (List.filterMap_congr fun s _ => ?_)
  simp only [Function.comp, entry, omittedSeat?]
  cases rankSeat r (board r) s <;> rfl

theorem mem_results_iff :
    ranked ∈ (ofRecord r).results ↔ ∃ s ∈ r.players, rankSeat r (board r) s = .ok ranked := by
  refine List.mem_filterMap.trans (exists_congr fun s => and_congr_right fun _ => ?_)
  cases rankSeat r (board r) s <;> simp [Except.toOption]

/-- A ranked hand is one of the record's table and hand. -/
theorem id_of_mem (h : ranked ∈ (ofRecord r).results) :
    ranked.id = ⟨r.tableId, r.handNumber⟩ := by
  obtain ⟨s, -, h⟩ := mem_results_iff.mp h
  obtain ⟨_, _, -, -, -, rfl⟩ := rankSeat_eq_ok_iff.mp h
  rfl

/-- A card reading is believed. -/
theorem confidence_of_mem (h : ranked ∈ (ofRecord r).results) : ranked.confidence = 1.0 := by
  obtain ⟨s, -, h⟩ := mem_results_iff.mp h
  obtain ⟨_, _, -, -, -, rfl⟩ := rankSeat_eq_ok_iff.mp h
  rfl

/-! ### The strongest hand -/

/-- The place of a ranked hand among all standings. -/
def place (h : RankedHand) : Nat :=
  h.strength.toNat * 256 + h.seat.toNat

theorem before_iff {a b : RankedHand} : a.Before b ↔ place a < place b := by
  have ha := a.seat.toNat_lt
  have hb := b.seat.toNat_lt
  simp only [RankedHand.Before, RankedHand.standing, Prod.lex_def, UInt16.lt_iff_toNat_lt,
    UInt8.lt_iff_toNat_lt, ← UInt16.toNat_inj, place]
  omega

theorem standing_eq_iff {a b : RankedHand} : a.standing = b.standing ↔ place a = place b := by
  have ha := a.seat.toNat_lt
  have hb := b.seat.toNat_lt
  simp only [RankedHand.standing, Prod.mk.injEq, ← UInt16.toNat_inj, ← UInt8.toNat_inj, place]
  omega

theorem goesBefore_iff {a b : RankedHand} : goesBefore a b ↔ a.Before b := by
  simp [goesBefore, RankedHand.Before, RankedHand.standing, Prod.lex_def]

/-- Of some hands one is kept before which none of them stands. -/
theorem foldl_better (hands : List RankedHand) (first : RankedHand) :
    ∃ best ∈ first :: hands, hands.foldl better (some first) = some best ∧
      ∀ h ∈ first :: hands, place best ≤ place h := by
  induction hands generalizing first with
  | nil => exact ⟨first, List.mem_cons_self, rfl, by simp⟩
  | cons next hands ih =>
    by_cases earlier : goesBefore next first
    · obtain ⟨best, mem, kept, least⟩ := ih next
      have before := before_iff.mp (goesBefore_iff.mp earlier)
      refine ⟨best, List.mem_cons_of_mem _ mem, by simpa [better, earlier] using kept, ?_⟩
      exact List.forall_mem_cons.mpr
        ⟨(least next List.mem_cons_self).trans before.le, least⟩
    · obtain ⟨best, mem, kept, least⟩ := ih first
      have after := not_lt.mp (mt before_iff.mpr (mt goesBefore_iff.mpr earlier))
      have first_least := least first List.mem_cons_self
      refine ⟨best, ?_, by simpa [better, earlier] using kept, ?_⟩
      · exact (List.mem_cons.mp mem).elim (· ▸ List.mem_cons_self) fun later =>
          List.mem_cons_of_mem _ (List.mem_cons_of_mem _ later)
      · exact List.forall_mem_cons.mpr ⟨first_least, List.forall_mem_cons.mpr
          ⟨first_least.trans after, fun h later => least h (List.mem_cons_of_mem _ later)⟩⟩

/-- Nobody is strongest if and only if nobody is ranked. -/
theorem strongest?_eq_none {c : Classification} : c.strongest? = none ↔ c.results = [] := by
  cases h : c.results with
  | nil => simp [strongest?, h]
  | cons first hands =>
    obtain ⟨best, -, kept, -⟩ := foldl_better hands first
    simp [strongest?, h, better, kept]

/-- The strongest hand is a ranked one, and no ranked one stands before it. -/
theorem strongest?_spec {c : Classification} (h : c.strongest? = some best) :
    best ∈ c.results ∧ ∀ ranked ∈ c.results, ¬ ranked.Before best := by
  cases hands : c.results with
  | nil => simp [strongest?, hands] at h
  | cons first later =>
    obtain ⟨kept, mem, eq, least⟩ := foldl_better later first
    rw [strongest?, hands, List.foldl_cons, better, eq] at h
    obtain rfl := Option.some.inj h
    exact ⟨mem, fun ranked hr before => (least ranked hr).not_gt (before_iff.mp before)⟩

/-- If no two ranked hands have the same standing, their order does not matter. -/
theorem strongest?_perm {c d : Classification} (perm : c.results.Perm d.results)
    (distinct : (c.results.map RankedHand.standing).Nodup) : d.strongest? = c.strongest? := by
  cases hc : c.strongest? with
  | none =>
    rw [strongest?_eq_none] at hc ⊢
    exact (hc ▸ perm).symm.eq_nil
  | some best =>
    cases hd : d.strongest? with
    | none =>
      rw [strongest?_eq_none] at hd
      have := (strongest?_spec hc).1
      simp [(hd ▸ perm).eq_nil] at this
    | some other =>
      obtain ⟨mem, least⟩ := strongest?_spec hc
      obtain ⟨mem', least'⟩ := strongest?_spec hd
      have same : best.standing = other.standing := by
        have := least other (perm.mem_iff.mpr mem')
        have := least' best (perm.mem_iff.mp mem)
        rw [before_iff] at *
        exact standing_eq_iff.mpr (by omega)
      rw [List.inj_on_of_nodup_map distinct mem (perm.mem_iff.mpr mem') same]

/-- **Each seat of a record has one entry of its own, and the strongest of the ranked hands is
taken.** What is left out begins with the malformed tokens of the board; then each seat in turn is
either ranked or left out under its name. The entry of a seat depends on nothing but the seat and on
what the record says of all seats alike. Nobody is strongest only if nobody is ranked, no ranked
hand stands before the strongest, and the order of the seats does not matter for it if no two ranked
hands have the same standing. -/
theorem one_entry_per_seat (r : HandRecord) :
    ((ofRecord r).results = (r.players.map (entry r)).filterMap Except.toOption ∧
      (ofRecord r).omitted =
        (r.revealed.filter isMalformed).map (fun token => ⟨none, none, .malformedCard token⟩) ++
          (r.players.map (entry r)).filterMap omission? ∧
      ∀ s, Names s (entry r s)) ∧
    (∀ r' : HandRecord, r'.deal = r.deal → ∀ s, entry r' s = entry r s) ∧
    ((ofRecord r).strongest? = none ↔ ∀ s ∈ r.players, ∃ o, entry r s = .error o) ∧
    (∀ best, (ofRecord r).strongest? = some best →
      best ∈ (ofRecord r).results ∧ ∀ ranked ∈ (ofRecord r).results, ¬ ranked.Before best) ∧
    (∀ r' : HandRecord, r'.deal = r.deal → r'.players.Perm r.players →
      ((ofRecord r).results.map RankedHand.standing).Nodup →
      (ofRecord r').strongest? = (ofRecord r).strongest?) := by
  refine ⟨⟨results_ofRecord r, omitted_ofRecord r, names_entry r⟩, fun r' => entry_congr, ?_,
    fun best => strongest?_spec, fun r' alike perm distinct => strongest?_perm ?_ distinct⟩
  · rw [strongest?_eq_none, results_ofRecord]
    simp only [List.filterMap_eq_nil_iff, List.forall_mem_map]
    refine forall₂_congr fun s _ => ?_
    cases entry r s <;> simp [Except.toOption]
  · have same : entry r' = entry r := funext (entry_congr alike)
    rw [results_ofRecord, results_ofRecord, same]
    exact (perm.symm.map _).filterMap _

/-- A seat that shows a malformed card is left out, whoever sits before it. -/
theorem one_entry_per_seat_of_bystander :
    let seat (number : UInt8) (cards : List String) : Seat := ⟨number, "", cards, 0, 0⟩
    let record (players : List Seat) : HandRecord :=
      ⟨"t", 1, none, none, players, [.boardCards ["2c", "9d", "?", "Jh"]]⟩
    let aces := seat 1 ["Ah", "As"]
    let kings := seat 2 ["Kh Ks"]
    let nobody := seat 3 ["Kh", "1s"]
    (ofRecord (record [nobody, kings, aces])).strongest? =
      (ofRecord (record [aces, nobody, kings])).strongest? ∧
    entry (record [kings]) aces = entry (record [aces, nobody, kings]) aces := by
  intro seat record aces kings nobody
  obtain ⟨_, alone, _, _, permuted⟩ := one_entry_per_seat (record [aces, nobody, kings])
  exact ⟨permuted _ rfl (by decide) (by decide +kernel), alone _ rfl aces⟩

end Classification

end Showdown
