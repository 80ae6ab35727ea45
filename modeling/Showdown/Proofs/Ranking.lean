import Showdown.Proofs.Board
import Showdown.Proofs.Card
import Showdown.Proofs.Complaint
import Mathlib.Logic.Relation

/-!
# What a ranking depends on

A seat is ranked for its cards, and for no more than its cards: just if its hole cards fall apart
into two tokens that each name a card, three tokens of the board name cards, and the two cards and
the first five of the board are all different (`rankSeat_eq_ok_iff_cards`). Otherwise the first of
five reasons is given (`rankSeat_eq_error_iff_first`).

So it does not matter how a hand is told (`HandRecord.Retold`): over which events the board is
spread and what happens in between, which tokens without a card stand between the others, what
comes after the fifth card, and whether two tokens of a seat are packed into one text. All seats fare
the same (`outcomes_of_retold`); a token of the board that names no card only adds its own entry to
what was left out (`omitted_of_malformed`).
-/

namespace Showdown

/-! ### Tokens of the board -/

/-- The texts that some events add to the board, in order. -/
def HandEvent.texts (events : List HandEvent) : List String :=
  events.flatMap HandEvent.boardTexts

namespace Card

/-- The cards that some tokens name, in order. -/
def among (tokens : List String) : List Card :=
  tokens.filterMap fun token => (read token).toOption

theorem among_append (tokens tokens' : List String) :
    among (tokens ++ tokens') = among tokens ++ among tokens' :=
  List.filterMap_append

theorem toOption_read_eq_none_iff {token : String} :
    (read token).toOption = none ↔ ∀ c, ¬ Named token c := by
  simp only [← read_eq_ok_iff]
  cases read token <;> simp [Except.toOption]

/-- A token that names no card adds none. -/
theorem among_insert {token : String} (nameless : ∀ c, ¬ Named token c)
    (tokens tokens' : List String) :
    among (tokens ++ token :: tokens') = among (tokens ++ tokens') := by
  have skipped : among (token :: tokens') = among tokens' :=
    List.filterMap_cons_none (toOption_read_eq_none_iff.mpr nameless)
  rw [among_append, among_append, skipped]

/-- All tokens name cards if they are read as these cards. -/
theorem map_read_eq_iff {tokens : List String} {cards : List Card} :
    tokens.map read = cards.map .ok ↔ List.Forall₂ Named tokens cards := by
  rw [← List.forall₂_eq_eq_eq, List.forall₂_map_left_iff, List.forall₂_map_right_iff]
  simp only [read_eq_ok_iff]

end Card

theorem HandEvent.shown_eq_among (events : List HandEvent) :
    shown events = Card.among (texts events) :=
  rfl

/-! ### Retelling a hand -/

namespace HandRecord

/-- A record tells the same hand as another one in a different way. -/
inductive Retold (r : HandRecord) : HandRecord → Prop where
  /-- The texts of the board are spread over the events in another way. -/
  | regrouped {events : List HandEvent} (same : HandEvent.texts events = HandEvent.texts r.events) :
    Retold r { r with events := events }
  /-- Something happens in between that shows no card. -/
  | interrupted {before after : List HandEvent} {e : HandEvent} (cut : r.events = before ++ after)
    (idle : ∀ cards, e ≠ .boardCards cards) :
    Retold r { r with events := before ++ e :: after }
  /-- A token that names no card, blank or not, stands anywhere on the board. -/
  | garbled {before after : List String} {token : String} {events : List HandEvent}
    (cut : HandEvent.texts r.events = before ++ after) (nameless : ∀ c, ¬ Card.Named token c)
    (inserted : HandEvent.texts events = before ++ token :: after) :
    Retold r { r with events := events }
  /-- Other tokens follow behind the fifth card of the board. -/
  | outlasted {before after after' : List String} {events : List HandEvent}
    (cut : HandEvent.texts r.events = before ++ after) (complete : 5 ≤ (Card.among before).length)
    (replaced : HandEvent.texts events = before ++ after') :
    Retold r { r with events := events }
  /-- A blank text stands anywhere among the hole cards of a seat. -/
  | padded {before after : List Seat} {s : Seat} {gap : String} {front back : List String}
    (cut : r.players = before ++ s :: after) (texts : s.holeCards = front ++ back)
    (blank : Text.AllBlank gap.toList) :
    Retold r { r with players :=
      before ++ { s with holeCards := front ++ gap :: back } :: after }
  /-- Two texts of the hole cards of a seat are packed into one, with blanks in between. -/
  | packed {before after : List Seat} {s : Seat} {first second gap : String}
    {front back : List String} (cut : r.players = before ++ s :: after)
    (texts : s.holeCards = front ++ first :: second :: back)
    (blank : Text.AllBlank gap.toList) (apart : gap ≠ "") :
    Retold r { r with players :=
      before ++ { s with holeCards := front ++ (first ++ gap ++ second) :: back } :: after }

end HandRecord

/-! ### Reasons -/

namespace OmissionReason

/-- The place of a reason in the order in which the reasons are looked at. -/
def order : OmissionReason → Nat
  | noHoleCards => 0
  | tooManyHoleCards _ => 1
  | incompleteBoard _ => 2
  | malformedCard _ => 3
  | invalidHand _ => 4

/-- A reason applies to a seat, whether or not another one does as well. -/
def Applies (r : HandRecord) (s : Seat) : OmissionReason → Prop
  | noHoleCards => s.cardTokens.length < 2
  | tooManyHoleCards count => 2 < s.cardTokens.length ∧ count = .ofNat s.cardTokens.length
  | incompleteBoard known =>
    (HandEvent.shown r.events).length < 3 ∧ known = .ofNat (HandEvent.shown r.events).length
  | malformedCard token => Card.FirstNameless s.cardTokens token
  | invalidHand detail => ∃ c d repeated, List.Forall₂ Card.Named s.cardTokens [c, d] ∧
      Hand.IsFirstRepeat (c :: d :: (HandEvent.shown r.events).take 5) repeated ∧
      detail = (Hand.EvaluationError.duplicate repeated).message

/-- A reason is the first one that applies to a seat. -/
def First (r : HandRecord) (s : Seat) : OmissionReason → Prop :=
  FirstOf (Applies r s) order

variable {r : HandRecord} {s : Seat} {reason : OmissionReason} {cards : List Card}

theorem applies_malformedCard_iff {token : String} :
    (malformedCard token).Applies r s ↔ Card.readAll s.cardTokens = .error ⟨token⟩ :=
  Card.readAll_eq_error_iff.symm

theorem applies_invalidHand_iff {detail : String} : (invalidHand detail).Applies r s ↔
    ∃ c d repeated, Card.readAll s.cardTokens = .ok [c, d] ∧
      Hand.firstRepeat? [] (c :: d :: (HandEvent.shown r.events).take 5) = some repeated ∧
      detail = (Hand.EvaluationError.duplicate repeated).message := by
  simp only [Applies, Card.readAll_eq_ok_iff, Hand.firstRepeat?_eq_some_iff_isFirstRepeat]

/-- No two reasons of one place apply. -/
theorem eq_of_applies (a b : OmissionReason) (ha : a.Applies r s) (hb : b.Applies r s)
    (same : a.order = b.order) : a = b := by
  cases a <;> cases b <;> simp [order] at same
  case noHoleCards.noHoleCards => rfl
  case tooManyHoleCards.tooManyHoleCards => exact congrArg _ (ha.2.trans hb.2.symm)
  case incompleteBoard.incompleteBoard => exact congrArg _ (ha.2.trans hb.2.symm)
  case malformedCard.malformedCard =>
    rw [applies_malformedCard_iff] at ha hb
    cases ha.symm.trans hb
    rfl
  case invalidHand.invalidHand =>
    rw [applies_invalidHand_iff] at ha hb
    obtain ⟨c, d, repeated, cards, again, rfl⟩ := ha
    obtain ⟨_, _, _, cards', again', rfl⟩ := hb
    cases cards.symm.trans cards'
    cases again.symm.trans again'
    rfl

/-! #### What does not apply to a seat that comes further -/

theorem two_le_order (two : s.cardTokens.length = 2) (h : reason.Applies r s) :
    2 ≤ reason.order := by
  cases reason <;> simp_all [Applies, order]

theorem three_le_order (two : s.cardTokens.length = 2)
    (enough : 3 ≤ (HandEvent.shown r.events).length) (h : reason.Applies r s) :
    3 ≤ reason.order := by
  have later := two_le_order two h
  cases reason with
  | incompleteBoard => exact absurd h.1 enough.not_gt
  | _ => simp [order] at later ⊢

theorem four_le_order (two : s.cardTokens.length = 2)
    (enough : 3 ≤ (HandEvent.shown r.events).length) (read : Card.readAll s.cardTokens = .ok cards)
    (h : reason.Applies r s) : 4 ≤ reason.order := by
  have later := three_le_order two enough h
  cases reason with
  | malformedCard => cases read.symm.trans (applies_malformedCard_iff.mp h)
  | _ => simp [order] at later ⊢

end OmissionReason

namespace Hand

/-- An evaluation counts the best five of some cards. -/
structure Evaluation.OfBestFive (e : Evaluation) (cards : List Card) : Prop where
  /-- No five of the cards are stronger. -/
  smallest : ∀ five : FiveCards, five.cards ⊆ cards → e.strength.toNat ≤ strengthOfFive five.cards
  /-- Some five of the cards have the strength and the category. -/
  attained : ∃ five : FiveCards, five.cards ⊆ cards ∧
    strengthOfFive five.cards = e.strength.toNat ∧ five.category = e.category

/-- A holding counts for the best five of its cards. -/
theorem Holding.evaluation_eq_iff {h : Holding} {e : Evaluation} :
    h.evaluation = e ↔ e.OfBestFive h.cards := by
  have enough : 5 ≤ h.cards.length := (mem_sizes_iff.mp h.size).1
  constructor
  · rintro rfl
    obtain ⟨five, within, best⟩ := exists_strength_eq_bestStrength h.nodup enough
    refine ⟨fun five within => ?_, five, within, ?_, ?_⟩
    · rw [h.toNat_strength]
      exact bestStrength_le h.nodup within
    · rw [h.toNat_strength, best]
    · rw [← five.ofStrength_eq_category, best]
      rfl
  · rintro ⟨smallest, five, within, strength, category⟩
    obtain ⟨best, within', attained⟩ := exists_strength_eq_bestStrength h.nodup enough
    have same : bestStrength h.cards = e.strength.toNat := by
      have := bestStrength_le h.nodup within
      have := smallest best within'
      omega
    have strengths : h.evaluation.strength = e.strength :=
      UInt16.toNat_inj.mp (h.toNat_strength.trans same)
    have categories : h.evaluation.category = e.category := by
      rw [← category, ← five.ofStrength_eq_category, strength, ← same]
      rfl
    cases e
    cases strengths
    cases categories
    rfl

/-- Of five to seven cards those are refused of which one is repeated. -/
theorem evaluateDeal_eq_error_iff {cards : List Card} (size : cards.length ∈ [5, 6, 7])
    {err : EvaluationError} : Classification.evaluateDeal cards = .error err ↔
      ∃ c, firstRepeat? [] cards = some c ∧ err = .duplicate c := by
  have deal : ∃ deal, deal.allows cards.length = true ∧
      Classification.evaluateDeal cards = evaluateAs deal cards := by
    by_cases seven : cards.length = 7
    · exact ⟨.full, by simp [DealSize.allows, seven], if_pos seven⟩
    · refine ⟨.short, ?_, if_neg seven⟩
      simpa [DealSize.allows, seven] using size
  obtain ⟨deal, allowed, eq⟩ := deal
  rw [eq, evaluateAs, if_pos allowed]
  cases firstRepeat? [] cards <;> simp [eq_comm]

end Hand

namespace Classification

open Hand

variable {r r' : HandRecord} {s : Seat} {ranked : RankedHand} {reason : OmissionReason}

theorem length_board (r : HandRecord) :
    (board r).length = min 5 (HandEvent.shown r.events).length := by
  rw [board_eq_take, List.length_take]
  rfl

theorem length_deal (enough : 3 ≤ (HandEvent.shown r.events).length) (c d : Card) :
    (c :: d :: board r).length ∈ [5, 6, 7] := by
  rw [Holding.mem_sizes_iff, List.length_cons, List.length_cons, length_board]
  omega

/-- Which seats are ranked for which cards. -/
theorem rankSeat_eq_ok_iff_cards : rankSeat r (board r) s = .ok ranked ↔
    ∃ (c d : Card) (e : Evaluation), List.Forall₂ Card.Named s.cardTokens [c, d] ∧
      3 ≤ (HandEvent.shown r.events).length ∧
      (c :: d :: (HandEvent.shown r.events).take 5).Nodup ∧
      e.OfBestFive (c :: d :: (HandEvent.shown r.events).take 5) ∧
      ranked = rankedHand r ((HandEvent.shown r.events).take 5) s (c, d) e := by
  have enough : leastBoard ≤ (board r).length ↔ 3 ≤ (HandEvent.shown r.events).length := by
    rw [length_board, leastBoard]
    omega
  rw [rankSeat_eq_ok_iff, enough]
  have shown : (HandEvent.shown r.events).take 5 = board r := (board_eq_take r).symm
  rw [shown]
  constructor
  · rintro ⟨⟨c, d⟩, e, tokens, known, evaluated, rfl⟩
    obtain ⟨h, cards, evaluation⟩ := Holding.evaluateDeal_eq_ok_iff.mp evaluated
    refine ⟨c, d, e, Card.map_read_eq_iff.mp tokens, known, cards ▸ h.nodup, ?_, rfl⟩
    exact cards ▸ Holding.evaluation_eq_iff.mp evaluation
  · rintro ⟨c, d, e, tokens, known, nodup, best, rfl⟩
    let h : Holding := ⟨c :: d :: board r, length_deal known c d, nodup⟩
    refine ⟨(c, d), e, Card.map_read_eq_iff.mpr tokens, known, ?_, rfl⟩
    exact Holding.evaluateDeal_eq_ok_iff.mpr ⟨h, rfl, Holding.evaluation_eq_iff.mpr best⟩

/-- A seat with two tokens and board enough is left out for its cards. -/
theorem first_of_pair {first second : String} (tokens : s.cardTokens = [first, second])
    (enough : 3 ≤ (HandEvent.shown r.events).length)
    (h : rankSeat r (board r) s = .error reason) : reason.First r s := by
  have two : s.cardTokens.length = 2 := by rw [tokens]; rfl
  have known : ¬ (board r).length < leastBoard := by
    rw [length_board, leastBoard]
    omega
  have unread {e : MalformedCard} (unread : Card.readAll s.cardTokens = .error e) :
      (OmissionReason.malformedCard e.token).First r s :=
    ⟨OmissionReason.applies_malformedCard_iff.mpr unread,
      fun _ => OmissionReason.three_le_order two enough⟩
  simp only [rankSeat, tokens, if_neg known] at h
  split at h
  · rename_i e _ failed
    cases h
    exact unread (tokens ▸ Card.readAll_cons_of_error failed)
  · rename_i c e read failed
    cases h
    refine unread ?_
    rw [tokens, Card.readAll_cons_of_ok read, Card.readAll_cons_of_error failed]
    rfl
  · rename_i c d read read'
    have cards : Card.readAll s.cardTokens = .ok [c, d] := by
      rw [tokens, Card.readAll_cons_of_ok read, Card.readAll_cons_of_ok read']
      rfl
    split at h
    · rename_i err refused
      cases h
      obtain ⟨repeated, again, rfl⟩ := (evaluateDeal_eq_error_iff (length_deal enough c d)).mp refused
      rw [board_eq_take] at again
      exact ⟨OmissionReason.applies_invalidHand_iff.mpr ⟨c, d, repeated, cards, again, rfl⟩,
        fun _ => OmissionReason.four_le_order two enough cards⟩
    · cases h

/-- A seat is left out for the first reason that applies to it. -/
theorem first_of_rankSeat (h : rankSeat r (board r) s = .error reason) : reason.First r s := by
  match tokens : s.cardTokens with
  | [] | [_] =>
    simp only [rankSeat, tokens] at h
    cases h
    exact ⟨by simp [OmissionReason.Applies, tokens], fun _ _ => Nat.zero_le _⟩
  | [first, second] =>
    by_cases enough : 3 ≤ (HandEvent.shown r.events).length
    · exact first_of_pair tokens enough h
    have all : (board r).length = (HandEvent.shown r.events).length := by
      rw [length_board]
      omega
    have few : (board r).length < leastBoard := by
      rw [all]
      exact not_le.mp enough
    simp only [rankSeat, tokens, if_pos few] at h
    cases h
    have two : s.cardTokens.length = 2 := by rw [tokens]; rfl
    exact ⟨⟨not_le.mp enough, by rw [all]⟩, fun _ => OmissionReason.two_le_order two⟩
  | _ :: _ :: _ :: more =>
    have many : 2 < s.cardTokens.length := by simp [tokens]
    simp only [rankSeat, tokens] at h
    cases h
    refine ⟨⟨many, by rw [tokens]⟩, fun other applies => ?_⟩
    cases other with
    | noHoleCards => exact absurd applies many.le.not_gt
    | _ => simp [OmissionReason.order]

/-- No reason applies to a seat that is ranked. -/
theorem not_applies_of_rankSeat (h : rankSeat r (board r) s = .ok ranked)
    (reason : OmissionReason) : ¬ reason.Applies r s := by
  obtain ⟨c, d, e, tokens, enough, nodup, -, -⟩ := rankSeat_eq_ok_iff_cards.mp h
  intro applies
  have late := OmissionReason.four_le_order tokens.length_eq enough
    (Card.readAll_eq_ok_iff.mpr tokens) applies
  cases reason with
  | invalidHand =>
    obtain ⟨c', d', repeated, tokens', again, -⟩ := OmissionReason.applies_invalidHand_iff.mp applies
    cases (Card.readAll_eq_ok_iff.mpr tokens).symm.trans tokens'
    have fresh : firstRepeat? [] (c :: d :: (HandEvent.shown r.events).take 5) = none := by
      simp [firstRepeat?_eq_none_iff, nodup]
    cases fresh.symm.trans again
  | _ => simp [OmissionReason.order] at late

/-- **A seat is left out for the first of the reasons that apply to it.** -/
theorem rankSeat_eq_error_iff_first :
    rankSeat r (board r) s = .error reason ↔ reason.First r s := by
  have first : rankSeat r (board r) s = .error reason ↔ ∃ a, a.First r s ∧ id a = reason :=
    eq_error_iff_firstOf (fun reason h => ⟨reason, first_of_rankSeat h, rfl⟩)
      (fun _ => not_applies_of_rankSeat) OmissionReason.eq_of_applies
  simpa using first

/-! ### Ways to tell a hand -/

/-- Events that show the same five cards at first make no difference to any seat. -/
theorem rankSeat_of_events {events : List HandEvent}
    (same : (Card.among (HandEvent.texts events)).take 5 =
      (Card.among (HandEvent.texts r.events)).take 5) :
    rankSeat { r with events := events } (board { r with events := events }) =
      rankSeat r (board r) := by
  have boards : board { r with events := events } = board r := by
    rw [board_eq_take, board_eq_take, HandEvent.shown_eq_among, HandEvent.shown_eq_among]
    exact same
  rw [boards]
  rfl

/-- A seat is ranked for its tokens, whatever texts they come from. -/
theorem rankSeat_of_tokens {texts : List String} (cards : List Card)
    (same : texts.flatMap Text.tokens = s.cardTokens) :
    rankSeat r cards { s with holeCards := texts } = rankSeat r cards s := by
  have tokens : Seat.cardTokens { s with holeCards := texts } = s.cardTokens := same
  unfold rankSeat
  rw [tokens]

/-- All seats fare the same if the hole cards of one are told in other texts with the same tokens. -/
theorem outcomes_of_tokens {before after : List Seat} {texts : List String}
    (cut : r.players = before ++ s :: after)
    (same : texts.flatMap Text.tokens = s.cardTokens) :
    (before ++ { s with holeCards := texts } :: after).map (rankSeat r (board r)) =
      r.players.map (rankSeat r (board r)) := by
  rw [cut, List.map_append, List.map_append, List.map_cons, List.map_cons,
    rankSeat_of_tokens (board r) same]

/-- **All seats fare the same in a record that tells the hand in a different way.** -/
theorem outcomes_of_retold (h : r.Retold r') :
    r'.players.map (rankSeat r' (board r')) = r.players.map (rankSeat r (board r)) := by
  cases h with
  | regrouped same => rw [rankSeat_of_events (by rw [same])]
  | @interrupted before after e cut idle =>
    have nothing : e.boardTexts = [] := by
      cases e with
      | boardCards cards => exact absurd rfl (idle cards)
      | _ => rfl
    have same : HandEvent.texts (before ++ e :: after) = HandEvent.texts r.events := by
      simp [cut, HandEvent.texts, nothing]
    rw [rankSeat_of_events (by rw [same])]
  | garbled cut nameless inserted =>
    rw [rankSeat_of_events (by rw [inserted, cut, Card.among_insert nameless])]
  | outlasted cut complete replaced =>
    rw [rankSeat_of_events]
    rw [replaced, cut, Card.among_append, Card.among_append,
      List.take_append_of_le_length complete, List.take_append_of_le_length complete]
  | padded cut texts blank =>
    refine outcomes_of_tokens cut ?_
    rw [Seat.cardTokens, texts]
    simp only [List.flatMap_append, List.flatMap_cons, Text.tokens_of_allBlank blank,
      List.nil_append]
  | packed cut texts blank apart =>
    refine outcomes_of_tokens cut ?_
    rw [Seat.cardTokens, texts]
    simp only [List.flatMap_append, List.flatMap_cons, Text.tokens_append blank apart,
      List.append_assoc]

/-- All seats fare the same after any number of such changes, made or undone. -/
theorem outcomes_of_retellings (h : Relation.EqvGen HandRecord.Retold r r') :
    r'.players.map (rankSeat r' (board r')) = r.players.map (rankSeat r (board r)) := by
  induction h with
  | rel _ _ retold => exact outcomes_of_retold retold
  | refl => rfl
  | symm _ _ _ ih => exact ih.symm
  | trans _ _ _ _ _ first second => exact second.trans first

/-- The tokens of the board that are complained about. -/
def malformedAmong (texts : List String) : List String :=
  ((texts.map Text.trimmed).filter fun token => !token.isEmpty).filter isMalformed

theorem malformedAmong_append (texts texts' : List String) :
    malformedAmong (texts ++ texts') = malformedAmong texts ++ malformedAmong texts' := by
  simp only [malformedAmong, List.map_append, List.filter_append]

theorem malformedAmong_cons {token : String} (visible : ¬ Text.AllBlank token.toList)
    (nameless : ∀ c, ¬ Card.Named token c) (texts : List String) :
    malformedAmong (token :: texts) = Text.trimmed token :: malformedAmong texts := by
  have shows : Text.trimmed token ≠ "" := mt Text.trimmed_eq_empty_iff.mp visible
  have bad : isMalformed (Text.trimmed token) = true := by
    rw [isMalformed, Card.toOption_read_trimmed, Card.toOption_read_eq_none_iff.mpr nameless]
    rfl
  simp [malformedAmong, shows, bad]

/-- A token of the board as an entry of what was left out. -/
def tokenEntry (token : String) : Omission :=
  ⟨none, none, .malformedCard token⟩

/-- What is left out: tokens of the board, and the seats that cannot be ranked. -/
theorem omitted_eq (r : HandRecord) : (ofRecord r).omitted =
    (malformedAmong (HandEvent.texts r.events)).map tokenEntry ++
      r.players.filterMap (omittedSeat? r (board r)) := by
  have tokens : r.revealed.filterMap omittedToken? =
      (malformedAmong (HandEvent.texts r.events)).map tokenEntry := by
    have alone := omitted_ofRecord { r with players := [] }
    simp only [ofRecord, List.map_nil, List.filterMap_nil, List.append_nil] at alone
    exact alone
  exact congrArg (· ++ _) tokens

theorem results_eq (r : HandRecord) : (ofRecord r).results =
    (r.players.map (rankSeat r (board r))).filterMap Except.toOption := by
  rw [List.filterMap_map]
  rfl

/-- A token that is neither blank nor names a card adds one entry to what is left out, its own. -/
theorem omitted_of_malformed {before after : List String} {token : String}
    {events : List HandEvent} (cut : HandEvent.texts r.events = before ++ after)
    (inserted : HandEvent.texts events = before ++ token :: after)
    (visible : ¬ Text.AllBlank token.toList) (nameless : ∀ c, ¬ Card.Named token c) :
    ∃ first rest, (ofRecord r).omitted = first ++ rest ∧
      (ofRecord { r with events := events }).omitted =
        first ++ tokenEntry (Text.trimmed token) :: rest := by
  have outcomes : rankSeat { r with events := events } (board { r with events := events }) =
      rankSeat r (board r) :=
    rankSeat_of_events (by rw [inserted, cut, Card.among_insert nameless])
  have seats : omittedSeat? { r with events := events } (board { r with events := events }) =
      omittedSeat? r (board r) := by
    funext s
    rw [omittedSeat?, omittedSeat?, outcomes]
  refine ⟨(malformedAmong before).map tokenEntry, (malformedAmong after).map tokenEntry ++
    r.players.filterMap (omittedSeat? r (board r)), ?_, ?_⟩
  · rw [omitted_eq, cut, malformedAmong_append, List.map_append, List.append_assoc]
  · rw [omitted_eq, seats, inserted, malformedAmong_append, malformedAmong_cons visible nameless,
      List.map_append, List.map_cons, List.append_assoc, List.cons_append]

/-- **A seat is ranked for its cards alone.** It is ranked if its hole cards fall apart into two
tokens that name cards, three cards of the board are known, and the two and the first five of the
board are different; then it counts for the best five of these cards. It is left out for the first
of the reasons that apply to it otherwise. All seats fare the same however the hand is told, and a
token of the board that is neither blank nor names a card adds one entry to what was left out. -/
theorem ranked_for_cards_alone (r : HandRecord) :
    ((ofRecord r).results = (r.players.map (rankSeat r (board r))).filterMap Except.toOption ∧
      (ofRecord r).omitted = (malformedAmong (HandEvent.texts r.events)).map tokenEntry ++
        r.players.filterMap (omittedSeat? r (board r))) ∧
    (∀ s ranked, rankSeat r (board r) s = .ok ranked ↔
      ∃ (c d : Card) (e : Evaluation), List.Forall₂ Card.Named s.cardTokens [c, d] ∧
        3 ≤ (HandEvent.shown r.events).length ∧
        (c :: d :: (HandEvent.shown r.events).take 5).Nodup ∧
        e.OfBestFive (c :: d :: (HandEvent.shown r.events).take 5) ∧
        ranked = rankedHand r ((HandEvent.shown r.events).take 5) s (c, d) e) ∧
    (∀ s reason, rankSeat r (board r) s = .error reason ↔ reason.First r s) ∧
    (∀ r', Relation.EqvGen HandRecord.Retold r r' →
      r'.players.map (rankSeat r' (board r')) = r.players.map (rankSeat r (board r)) ∧
      (ofRecord r').results = (ofRecord r).results) ∧
    ∀ before after token events, HandEvent.texts r.events = before ++ after →
      HandEvent.texts events = before ++ token :: after → ¬ Text.AllBlank token.toList →
      (∀ c, ¬ Card.Named token c) →
      ∃ first rest, (ofRecord r).omitted = first ++ rest ∧
        (ofRecord { r with events := events }).omitted =
          first ++ tokenEntry (Text.trimmed token) :: rest := by
  refine ⟨⟨results_eq r, omitted_eq r⟩, fun _ _ => rankSeat_eq_ok_iff_cards,
    fun _ _ => rankSeat_eq_error_iff_first, fun r' retold => ?_, fun _ _ _ _ => omitted_of_malformed⟩
  have outcomes := outcomes_of_retellings retold
  exact ⟨outcomes, by rw [results_eq, results_eq, outcomes]⟩

/-- A pair of aces on a flop with a pair. -/
def toldAtOnce : HandRecord where
  tableId := "main"
  handNumber := 7
  startedAt := none
  durationSeconds := none
  players := [⟨2, "Ada", ["Ah", "As"], 100, 100⟩]
  events := [.boardCards ["2c", "9d", "9h"]]

/-- The same with the aces in one text and the flop in two events, among other things. -/
def toldInPieces : HandRecord where
  tableId := "main"
  handNumber := 7
  startedAt := none
  durationSeconds := none
  players := [⟨2, "Ada", ["Ah As"], 100, 100⟩]
  events := [.boardCards ["2c", "??"], .other, .boardCards ["9d", " ", "9h"]]

theorem ranked_for_cards_alone_in_pieces :
    (ofRecord toldInPieces).results = (ofRecord toldAtOnce).results ∧
    ∃ first rest, (ofRecord toldAtOnce).omitted = first ++ rest ∧
      (ofRecord { toldAtOnce with events := [.boardCards ["2c", "??", "9d", "9h"]] }).omitted =
        first ++ tokenEntry (Text.trimmed "??") :: rest := by
  have unreadable : ∀ c, ¬ Card.Named "??" c := Card.toOption_read_eq_none_iff.mp (by decide)
  have blank : ∀ c, ¬ Card.Named " " c := Card.toOption_read_eq_none_iff.mp (by decide)
  let garbled := { toldAtOnce with events := [.boardCards ["2c", "??", "9d", "9h"]] }
  let spread :=
    { toldAtOnce with events := [.boardCards ["2c", "??"], .boardCards ["9d", " ", "9h"]] }
  let interrupted := { toldAtOnce with events := toldInPieces.events }
  have first : toldAtOnce.Retold garbled :=
    @HandRecord.Retold.garbled _ ["2c"] _ _ _ rfl unreadable rfl
  have second : garbled.Retold spread :=
    @HandRecord.Retold.garbled _ ["2c", "??", "9d"] _ _ _ rfl blank rfl
  have third : spread.Retold interrupted :=
    @HandRecord.Retold.interrupted _ [.boardCards ["2c", "??"]] _ .other rfl nofun
  have fourth : interrupted.Retold toldInPieces :=
    @HandRecord.Retold.packed interrupted [] [] ⟨2, "Ada", ["Ah", "As"], 100, 100⟩ "Ah" "As" " "
      [] [] rfl rfl (by decide) (by decide)
  obtain ⟨-, -, -, same, added⟩ := ranked_for_cards_alone toldAtOnce
  refine ⟨(same toldInPieces ?_).2, added ["2c"] ["9d", "9h"] "??" _ rfl rfl (by decide) unreadable⟩
  exact ((Relation.EqvGen.rel _ _ first).trans _ _ _ (.rel _ _ second)).trans _ _ _
    ((Relation.EqvGen.rel _ _ third).trans _ _ _ (.rel _ _ fourth))

end Classification

end Showdown
