import Showdown.Proofs.Classification
import Showdown.Proofs.Hand.Holding
import Showdown.Proofs.Text.Blank

/-!
# More cards on the board

A player counts for the best of two hole cards and the board. So a player is never of a weaker
category than a complete board by itself (`isGE_boardCategory`), and further cards on the board
never weaken a player who is ranked already (`exists_noWeaker_of_continues`). This is not so if one
of them is on the board or held by the player, since the cards of a ranked hand are different
(`exists_holding`): such a player is not ranked.

The board of a record is read off trimmed tokens, blank ones left out; the cards are those of the
tokens as they stand in the record (`board_eq_take`). A complete board that repeats a card has no
category, but it is not the board of a ranked hand (`isSome_boardCategory_iff`).
-/

namespace Showdown

/-! ### Trimmed tokens -/

/-- A token names the same card when trimmed. -/
theorem Card.toOption_read_trimmed (token : String) :
    (Card.read (Text.trimmed token)).toOption = (Card.read token).toOption := by
  simp only [Card.read, Text.trimmed, String.toList_ofList, Text.trim_trim]
  cases Card.ofSpelling? (Text.trim token.toList) <;> rfl

/-- A blank token names no card. -/
theorem Card.toOption_read_empty : (Card.read "").toOption = none := by
  decide

/-! ### The board -/

/-- The cards a ranked hand is made of. -/
def RankedHand.cards (h : RankedHand) : List Card :=
  h.holeCards.1 :: h.holeCards.2 :: h.communityCards

/-- What a ranked hand counts for. -/
def RankedHand.evaluation (h : RankedHand) : Hand.Evaluation :=
  ⟨h.strength, h.category⟩

/-- The cards that some events reveal, in order. -/
def HandEvent.shown (events : List HandEvent) : List Card :=
  (events.flatMap HandEvent.boardTexts).filterMap fun token => (Card.read token).toOption

theorem HandEvent.shown_append (events events' : List HandEvent) :
    shown (events ++ events') = shown events ++ shown events' := by
  simp only [shown, List.flatMap_append, List.filterMap_append]

namespace HandRecord

/-- A record continues another one: the same players sit at the table, and the board goes on with
some more cards. -/
structure Continues (r' r : HandRecord) (more : List Card) : Prop where
  /-- The players. -/
  players : r'.players = r.players
  /-- The cards that are revealed. -/
  shown : HandEvent.shown r'.events = HandEvent.shown r.events ++ more

/-- A record goes on with the cards that are revealed in its further events. -/
theorem continues_append (r : HandRecord) (events : List HandEvent) :
    { r with events := r.events ++ events }.Continues r (HandEvent.shown events) :=
  ⟨rfl, HandEvent.shown_append r.events events⟩

end HandRecord

namespace Classification

open Hand

variable {r r' : HandRecord} {ranked : RankedHand} {cards more : List Card}

/-- The board is made of the first cards that are revealed. -/
theorem board_eq_take (r : HandRecord) :
    board r = (HandEvent.shown r.events).take boardSize := by
  rw [board, HandRecord.revealed, List.filterMap_filter, List.filterMap_map, HandEvent.shown]
  refine congrArg _ (List.filterMap_congr fun token _ => ?_)
  rw [← Card.toOption_read_trimmed token]
  by_cases blank : Text.trimmed token = ""
  · simp [blank, Card.toOption_read_empty]
  · simp [blank]

/-- Cards for which there is room go to the end of the board. -/
theorem board_of_continues (go : r'.Continues r more)
    (room : (board r).length + more.length ≤ boardSize) : board r' = board r ++ more := by
  rw [board_eq_take, List.length_take] at room
  rw [board_eq_take, board_eq_take, go.shown, List.take_append]
  -- a complete board may have left out cards that were revealed, but it has no room for more
  have fits : more.length ≤ boardSize - (HandEvent.shown r.events).length ∨ more = [] := by
    rw [← List.length_eq_zero_iff]
    omega
  rcases fits with fits | rfl
  · rw [List.take_of_length_le fits]
  · rw [List.take_nil]

/-! ### Ranked hands -/

/-- The cards of a ranked hand are a holding, and the hand counts for what the holding does. -/
theorem exists_holding (mem : ranked ∈ (ofRecord r).results) :
    ∃ h : Holding, h.cards = ranked.cards ∧ h.evaluation = ranked.evaluation := by
  obtain ⟨s, -, ok⟩ := mem_results_iff.mp mem
  obtain ⟨_, _, -, -, evaluated, rfl⟩ := rankSeat_eq_ok_iff.mp ok
  exact Holding.evaluateDeal_eq_ok_iff.mp evaluated

theorem boardCategory_of_mem (mem : ranked ∈ (ofRecord r).results) :
    ranked.boardCategory = boardCategory? ranked.communityCards := by
  obtain ⟨s, -, ok⟩ := mem_results_iff.mp mem
  obtain ⟨_, _, -, -, -, rfl⟩ := rankSeat_eq_ok_iff.mp ok
  rfl

/-- The category of a complete board is that of the holding of its five cards. -/
theorem boardCategory?_eq_some_iff {c : Category} :
    boardCategory? cards = some c ↔ cards.length = boardSize ∧
      ∃ h : Holding, h.cards = cards ∧ h.evaluation.category = c := by
  unfold boardCategory?
  split
  · rename_i five
    have short : evaluateShort cards = evaluateDeal cards := by
      rw [evaluateDeal, if_neg (by rw [five]; decide)]
    have evaluated : ((evaluateShort cards).toOption.map Evaluation.category = some c) ↔
        ∃ e, evaluateDeal cards = .ok e ∧ e.category = c := by
      rw [short]
      cases evaluateDeal cards <;> simp [Except.toOption]
    rw [evaluated, and_iff_right five]
    simp only [Holding.evaluateDeal_eq_ok_iff]
    constructor
    · rintro ⟨_, ⟨h, same, rfl⟩, category⟩
      exact ⟨h, same, category⟩
    · rintro ⟨h, same, category⟩
      exact ⟨_, ⟨h, same, rfl⟩, category⟩
  · rename_i other
    simp [other]

/-- The board of a ranked hand has a category if and only if it is complete. -/
theorem isSome_boardCategory_iff (mem : ranked ∈ (ofRecord r).results) :
    ranked.boardCategory.isSome ↔ ranked.communityCards.length = boardSize := by
  rw [boardCategory_of_mem mem, Option.isSome_iff_exists]
  simp only [boardCategory?_eq_some_iff]
  refine ⟨fun ⟨_, five, _⟩ => five, fun five => ?_⟩
  obtain ⟨h, cards, -⟩ := exists_holding mem
  have nodup : ranked.communityCards.Nodup := (cards ▸ h.nodup).of_cons.of_cons
  exact ⟨_, five, ⟨_, by rw [five]; decide, nodup⟩, rfl, rfl⟩

/-- **A player is of no weaker category than the board by itself.** -/
theorem isGE_boardCategory (mem : ranked ∈ (ofRecord r).results) {c : Category}
    (category : ranked.boardCategory = some c) : (compare ranked.category c).isGE := by
  rw [boardCategory_of_mem mem, boardCategory?_eq_some_iff] at category
  obtain ⟨-, board, same, rfl⟩ := category
  obtain ⟨h, cards, evaluation⟩ := exists_holding mem
  have within : board.cards ⊆ h.cards := fun card on_board => by
    rw [same] at on_board
    rw [cards]
    exact List.mem_cons_of_mem _ (List.mem_cons_of_mem _ on_board)
  have noWeaker := (Holding.noWeaker_of_subset within).category
  rwa [evaluation] at noWeaker

/-- A seat whose two cards make a holding with the board is ranked for it. -/
theorem rankSeat_eq_ok_of_holding {s : Seat} {hole : Card × Card}
    (tokens : s.cardTokens.map Card.read = [.ok hole.1, .ok hole.2]) {h : Holding}
    (same : h.cards = hole.1 :: hole.2 :: cards) :
    rankSeat r cards s = .ok (rankedHand r cards s hole h.evaluation) := by
  have enough : leastBoard ≤ cards.length := by
    have size := (Holding.mem_sizes_iff.mp h.size).1
    rw [same, List.length_cons, List.length_cons] at size
    unfold leastBoard
    omega
  exact rankSeat_eq_ok_iff.mpr ⟨hole, _, tokens, enough, same ▸ h.evaluateDeal_eq, rfl⟩

/-- **Further cards on the board never weaken a ranked player**, if there is room for them and they
are different ones that are neither on the board nor held by the player. -/
theorem exists_noWeaker_of_continues (mem : ranked ∈ (ofRecord r).results)
    (go : r'.Continues r more) (room : ranked.communityCards.length + more.length ≤ boardSize)
    (nodup : more.Nodup) (fresh : ∀ c ∈ more, c ∉ ranked.cards) :
    ∃ ranked' ∈ (ofRecord r').results,
      ranked'.player = ranked.player ∧ ranked'.seat = ranked.seat ∧
      ranked'.holeCards = ranked.holeCards ∧
      ranked'.communityCards = ranked.communityCards ++ more ∧
      ranked'.evaluation.NoWeaker ranked.evaluation := by
  obtain ⟨h, cards, evaluation⟩ := exists_holding mem
  have size : (h.cards ++ more).length ∈ [5, 6, 7] := by
    have enough := (Holding.mem_sizes_iff.mp h.size).1
    have count : h.cards.length = ranked.communityCards.length + 2 := congrArg List.length cards
    rw [Holding.mem_sizes_iff, List.length_append]
    unfold boardSize at room
    omega
  have disjoint : h.cards.Disjoint more := fun c held added => fresh c added (cards ▸ held)
  let k : Holding := ⟨h.cards ++ more, size, h.nodup.append nodup disjoint⟩
  obtain ⟨s, sits, ok⟩ := mem_results_iff.mp mem
  obtain ⟨hole, _, tokens, -, -, rfl⟩ := rankSeat_eq_ok_iff.mp ok
  have grown : board r' = board r ++ more := board_of_continues go room
  have same : k.cards = hole.1 :: hole.2 :: board r' := by
    rw [grown]
    exact congrArg (· ++ more) cards
  refine ⟨rankedHand r' (board r') s hole k.evaluation, ?_, rfl, rfl, rfl, grown, ?_⟩
  · exact mem_results_iff.mpr ⟨s, go.players ▸ sits, rankSeat_eq_ok_of_holding tokens same⟩
  · have noWeaker : k.evaluation.NoWeaker h.evaluation :=
      Holding.noWeaker_of_subset (List.subset_append_left h.cards more)
    rwa [evaluation] at noWeaker

/-- **More cards never weaken.** A holding is no weaker than any other one within it, in strength and
in category. So the board of a ranked hand, which has a category if and only if it is complete, is of
no stronger category than the hand; and if a record goes on with further cards of the board, those
who were ranked before still are, no weaker than before. -/
theorem more_cards_never_weaken :
    (∀ whole part : Holding, part.cards ⊆ whole.cards →
      ∃ e f, evaluateDeal whole.cards = .ok e ∧ evaluateDeal part.cards = .ok f ∧ e.NoWeaker f) ∧
    ∀ r : HandRecord, ∀ ranked ∈ (ofRecord r).results,
      (ranked.boardCategory.isSome ↔ ranked.communityCards.length = boardSize) ∧
      (∀ c, ranked.boardCategory = some c → (compare ranked.category c).isGE) ∧
      ∀ (r' : HandRecord) (more : List Card), r'.Continues r more →
        ranked.communityCards.length + more.length ≤ boardSize →
        more.Nodup → (∀ c ∈ more, c ∉ ranked.cards) →
        ∃ ranked' ∈ (ofRecord r').results,
          ranked'.player = ranked.player ∧ ranked'.seat = ranked.seat ∧
          ranked'.holeCards = ranked.holeCards ∧
          ranked'.communityCards = ranked.communityCards ++ more ∧
          ranked'.evaluation.NoWeaker ranked.evaluation :=
  ⟨fun _ _ within => ⟨_, _, Holding.evaluateDeal_eq _, Holding.evaluateDeal_eq _,
      Holding.noWeaker_of_subset within⟩,
    fun _ _ mem => ⟨isSome_boardCategory_iff mem, fun _ => isGE_boardCategory mem,
      fun _ _ => exists_noWeaker_of_continues mem⟩⟩

/-- A pair of kings and a pair of aces on a flop, with turn and river to come. -/
theorem more_cards_never_weaken_of_flop :
    let flop : List Card := [⟨.clubs, .two⟩, ⟨.diamonds, .nine⟩, ⟨.hearts, .nine⟩]
    let later : List Card := [⟨.diamonds, .ten⟩, ⟨.diamonds, .king⟩]
    let aces : List Card := [⟨.hearts, .ace⟩, ⟨.spades, .ace⟩]
    let whole : Holding := ⟨aces ++ flop ++ later, by decide, by decide⟩
    let part : Holding := ⟨flop ++ aces, by decide, by decide⟩
    let players : List Seat := [⟨1, "Kay", ["Kh Ks"], 0, 0⟩, ⟨2, "Ada", ["Ah", "As"], 0, 0⟩]
    let r : HandRecord := ⟨"t", 1, none, none, players, [.boardCards ["2c", "9d", "9h"]]⟩
    let events : List HandEvent := [.other, .boardCards [" 10D "], .boardCards ["?", "kd"]]
    let r' : HandRecord := { r with events := r.events ++ events }
    (∃ e f, evaluateDeal whole.cards = .ok e ∧ evaluateDeal part.cards = .ok f ∧ e.NoWeaker f) ∧
    (ofRecord r).results.length = 2 ∧
    (∀ ranked ∈ (ofRecord r).results, ∃ ranked' ∈ (ofRecord r').results,
      ranked'.player = ranked.player ∧ ranked'.evaluation.NoWeaker ranked.evaluation) ∧
    ∀ ranked ∈ (ofRecord r').results, (compare ranked.category .onePair).isGE := by
  intro flop later aces whole part players r events r'
  obtain ⟨within, ranks⟩ := more_cards_never_weaken
  have shown : HandEvent.shown events = later := by decide +kernel
  have free : ∀ ranked ∈ (ofRecord r).results, ranked.communityCards.length + later.length ≤
      boardSize ∧ ∀ c ∈ later, c ∉ ranked.cards := by decide +kernel
  have pair : ∀ ranked ∈ (ofRecord r').results, ranked.boardCategory = some .onePair := by
    decide +kernel
  refine ⟨within whole part (by decide), by decide +kernel, fun ranked mem => ?_,
    fun ranked mem => (ranks r' ranked mem).2.1 _ (pair ranked mem)⟩
  obtain ⟨room, fresh⟩ := free ranked mem
  have go : r'.Continues r later := shown ▸ r.continues_append events
  obtain ⟨ranked', mem', player, -, -, -, noWeaker⟩ :=
    (ranks r ranked mem).2.2 r' later go room (by decide) fresh
  exact ⟨ranked', mem', player, noWeaker⟩

end Classification

end Showdown
