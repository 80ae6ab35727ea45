import Mathlib
import Showdown.Card
import Showdown.Proofs.Text.Blank

/-!
# How cards are written

A token names a card if it is one of the spellings of the rank, then one of the two letters of the
suit, with nothing but blanks around (`Card.Named`). The grammar is a table: the signs and letters
in both cases, and `10` beside `T`. Characters of other alphabets that look like these are not in
it, nor are blanks between rank and suit.

Tokens are read by just this grammar: `Card.read` finds the card that a token names, and gives the
token back as it was delivered if it names none. Every card is named by its own text.
-/

namespace Showdown

/-! ### The grammar -/

/-- The spellings of a rank. -/
def Rank.spellings : Rank → List (List Char)
  | two => [['2']]
  | three => [['3']]
  | four => [['4']]
  | five => [['5']]
  | six => [['6']]
  | seven => [['7']]
  | eight => [['8']]
  | nine => [['9']]
  | ten => [['T'], ['t'], ['1', '0']]
  | jack => [['J'], ['j']]
  | queen => [['Q'], ['q']]
  | king => [['K'], ['k']]
  | ace => [['A'], ['a']]

/-- The letters of a suit. -/
def Suit.letters : Suit → List Char
  | clubs => ['c', 'C']
  | diamonds => ['d', 'D']
  | hearts => ['h', 'H']
  | spades => ['s', 'S']

namespace Card

/-- A text spells a card: its rank, and directly after it the letter of its suit. -/
def Spelled (s : List Char) (c : Card) : Prop :=
  ∃ rank ∈ c.rank.spellings, ∃ letter ∈ c.suit.letters, s = rank ++ [letter]

/-- A token names a card: it spells the card, with nothing but blanks around. -/
def Named (token : String) (c : Card) : Prop :=
  ∃ before spelling after, Text.AllBlank before ∧ Text.AllBlank after ∧
    token.toList = before ++ spelling ++ after ∧ Spelled spelling c

/-- A token is the first of some tokens that names no card. -/
def FirstNameless (tokens : List String) (bad : String) : Prop :=
  ∃ before after, tokens = before ++ bad :: after ∧
    (∀ token ∈ before, ∃ c, Named token c) ∧ ∀ c, ¬ Named bad c

end Card

/-! ### Signs and letters -/

/-- A character is a small letter but for its case if it is that letter in one of the cases. -/
theorem toLower_eq_iff {c d : Char} (small : d.toLower = d) :
    c.toLower = d ↔ c = d ∨ c = d.toUpper := by
  constructor
  · rintro rfl
    rw [Char.toUpper_toLower_eq_toUpper]
    by_cases capital : c.isUpper
    · exact .inr (Char.toUpper_eq_of_not_isLower (Char.not_isLower_of_isUpper capital)).symm
    · exact .inl (Char.toLower_eq_of_not_isUpper capital).symm
  · rintro (rfl | rfl)
    · exact small
    · rw [Char.toLower_toUpper_eq_toLower, small]

/-- A character is a capital letter but for its case if it is that letter in one of the cases. -/
theorem toUpper_eq_iff {c d : Char} (capital : d.toUpper = d) :
    c.toUpper = d ↔ c = d ∨ c = d.toLower := by
  constructor
  · rintro rfl
    rw [Char.toLower_toUpper_eq_toLower]
    by_cases small : c.isLower
    · exact .inr (Char.toLower_eq_of_not_isUpper (Char.not_isUpper_of_isLower small)).symm
    · exact .inl (Char.toUpper_eq_of_not_isLower small).symm
  · rintro (rfl | rfl)
    · exact capital
    · rw [Char.toUpper_toLower_eq_toUpper, capital]

/-- A search for a key finds the item with that key, if no other one has it. -/
theorem find?_key_eq_some_iff {α : Type} {items : List α} {key : α → Char}
    (apart : key.Injective) {a : α} (listed : a ∈ items) {k : Char} :
    items.find? (fun x => key x == k) = some a ↔ key a = k := by
  constructor
  · intro found
    simpa using List.find?_some found
  · rintro rfl
    cases found : items.find? fun x => key x == key a with
    | none => simpa using List.find?_eq_none.mp found a listed
    | some b =>
      have same : key b = key a := by simpa using List.find?_some found
      rw [apart same]

namespace Suit

theorem mem_letters_iff {c : Char} {s : Suit} : c ∈ s.letters ↔ c.toLower = s.letter := by
  have small : s.letter.toLower = s.letter := by cases s <;> rfl
  rw [toLower_eq_iff small]
  cases s <;> simp [letters, letter]

theorem letter_injective : letter.Injective := by
  intro a b same
  cases a <;> cases b <;> first | rfl | cases same

theorem ofLetter?_eq_some_iff {c : Char} {s : Suit} : ofLetter? c = some s ↔ c ∈ s.letters := by
  have listed : s ∈ all := by cases s <;> simp [all]
  rw [ofLetter?, find?_key_eq_some_iff letter_injective listed, mem_letters_iff, eq_comm]

end Suit

namespace Rank

theorem mem_spellings_iff {c : Char} {r : Rank} : [c] ∈ r.spellings ↔ c.toUpper = r.sign := by
  have capital : r.sign.toUpper = r.sign := by cases r <;> rfl
  rw [toUpper_eq_iff capital]
  cases r <;> simp [spellings, sign]

theorem sign_injective : sign.Injective := by
  intro a b same
  cases a <;> cases b <;> first | rfl | cases same

/-- The only spelling of more than one character is `10`. -/
theorem mem_spellings_iff_ten {c d : Char} {rest : List Char} {r : Rank} :
    c :: d :: rest ∈ r.spellings ↔ r = ten ∧ c :: d :: rest = ['1', '0'] := by
  cases r <;> simp [spellings]

theorem ofSpelling?_eq_some_iff {s : List Char} {r : Rank} :
    ofSpelling? s = some r ↔ s ∈ r.spellings := by
  have listed : r ∈ all := by cases r <;> simp [all]
  match s with
  | [] => cases r <;> simp [ofSpelling?, spellings]
  | [c] =>
    rw [ofSpelling?, find?_key_eq_some_iff sign_injective listed, mem_spellings_iff, eq_comm]
  | c :: d :: rest =>
    rw [mem_spellings_iff_ten, ofSpelling?]
    · split <;> simp_all [eq_comm]
    · simp

end Rank

/-! ### Reading -/

namespace Card

variable {token : String} {tokens : List String} {s : List Char} {c : Card} {cards : List Card}

theorem ofSpelling?_eq_some_iff : ofSpelling? s = some c ↔ Spelled s c := by
  simp only [ofSpelling?, Option.bind_eq_bind, Option.bind_eq_some_iff, Option.pure_def,
    Option.some.injEq, Suit.ofLetter?_eq_some_iff, Rank.ofSpelling?_eq_some_iff]
  constructor
  · rintro ⟨letter, last, suit, of_suit, rank, of_rank, rfl⟩
    obtain ⟨before, rfl⟩ := List.getLast?_eq_some_iff.mp last
    exact ⟨before, by simpa using of_rank, letter, of_suit, rfl⟩
  · rintro ⟨rank, of_rank, letter, of_suit, rfl⟩
    exact ⟨letter, by simp, c.suit, of_suit, c.rank, by simpa using of_rank, rfl⟩

/-- No sign of a rank and no letter of a suit is a blank. -/
theorem isBlank_eq_false_of_spelled (h : Spelled s c) : ∀ x ∈ s, Text.isBlank x = false := by
  obtain ⟨rank, of_rank, letter, of_suit, rfl⟩ := h
  have ranks : ∀ r : Rank, ∀ rank ∈ r.spellings, ∀ x ∈ rank, Text.isBlank x = false := by
    intro r
    cases r <;> simp [Rank.spellings, Text.isBlank]
  have suits : ∀ s : Suit, ∀ x ∈ s.letters, Text.isBlank x = false := by
    intro s
    cases s <;> simp [Suit.letters, Text.isBlank]
  intro x mem
  rcases List.mem_append.mp mem with inside | last
  · exact ranks c.rank rank of_rank x inside
  · exact suits c.suit x (List.mem_singleton.mp last ▸ of_suit)

theorem Spelled.bare (h : Spelled s c) : Text.Bare s where
  first x head := isBlank_eq_false_of_spelled h x (List.mem_of_mem_head? head)
  last x last := isBlank_eq_false_of_spelled h x (List.mem_of_mem_getLast? last)

theorem named_iff : Named token c ↔ Spelled (Text.trim token.toList) c := by
  constructor
  · rintro ⟨before, spelling, after, front, back, eq, spelled⟩
    rwa [eq, Text.trim_append front back spelled.bare]
  · intro spelled
    obtain ⟨before, after, front, back, eq⟩ := Text.exists_eq_append_trim token.toList
    exact ⟨before, _, after, front, back, eq, spelled⟩

/-- **A token is read as the card that it names.** -/
theorem read_eq_ok_iff : read token = .ok c ↔ Named token c := by
  rw [named_iff, ← ofSpelling?_eq_some_iff, read]
  cases ofSpelling? (Text.trim token.toList) <;> simp

/-- **A token that names no card is given back as it was delivered.** -/
theorem read_eq_error_iff {e : MalformedCard} :
    read token = .error e ↔ e = ⟨token⟩ ∧ ∀ c, ¬ Named token c := by
  simp only [named_iff, ← ofSpelling?_eq_some_iff, read]
  cases ofSpelling? (Text.trim token.toList) <;> simp [eq_comm]

/-- The sign for kelvins is no king, though it looks like one. -/
example : (read "\u212Ah").toOption = none := by decide

/-- A card is named by its own text. -/
theorem named_text (c : Card) : Named c.text c := by
  refine ⟨[], [c.rank.sign, c.suit.letter], [], nofun, nofun, ?_, ?_⟩
  · simp [text]
  · obtain ⟨suit, rank⟩ := c
    exact ⟨[rank.sign], by cases rank <;> simp [Rank.spellings, Rank.sign], suit.letter,
      by cases suit <;> simp [Suit.letters, Suit.letter], rfl⟩

/-! ### Reading many -/

theorem readAll_cons_of_ok (first : read token = .ok c) :
    readAll (token :: tokens) = (readAll tokens).map (c :: ·) := by
  rw [readAll, readAll, List.mapM_cons, first]
  cases tokens.mapM read <;> rfl

theorem readAll_cons_of_error {e : MalformedCard} (first : read token = .error e) :
    readAll (token :: tokens) = .error e := by
  rw [readAll, List.mapM_cons, first]
  rfl

/-- **Tokens are read if each of them names a card, and as these cards in order.** -/
theorem readAll_eq_ok_iff : readAll tokens = .ok cards ↔ List.Forall₂ Named tokens cards := by
  induction tokens generalizing cards with
  | nil => cases cards <;> simp [readAll, pure, Except.pure]
  | cons token tokens ih =>
    rw [List.forall₂_cons_left_iff]
    simp only [← read_eq_ok_iff, ← ih]
    cases first : read token with
    | error e => simp [readAll_cons_of_error first]
    | ok c =>
      rw [readAll_cons_of_ok first]
      cases readAll tokens <;> simp [Except.map, eq_comm]

/-- The first token that names no card is the first token, or the first of the others. -/
theorem firstNameless_cons_iff {bad : String} : FirstNameless (token :: tokens) bad ↔
    (bad = token ∧ ∀ c, ¬ Named token c) ∨
      (∃ c, Named token c) ∧ FirstNameless tokens bad := by
  constructor
  · rintro ⟨before, after, cut, named, nameless⟩
    cases before with
    | nil =>
      obtain ⟨rfl, -⟩ := List.cons.inj cut
      exact .inl ⟨rfl, nameless⟩
    | cons t before =>
      obtain ⟨rfl, rfl⟩ := List.cons.inj cut
      obtain ⟨first, rest⟩ := List.forall_mem_cons.mp named
      exact .inr ⟨first, before, after, rfl, rest, nameless⟩
  · rintro (⟨rfl, nameless⟩ | ⟨first, before, after, rfl, rest, nameless⟩)
    · exact ⟨[], tokens, rfl, nofun, nameless⟩
    · exact ⟨token :: before, after, rfl, List.forall_mem_cons.mpr ⟨first, rest⟩, nameless⟩

/-- **Tokens are refused for the first of them that names no card.** -/
theorem readAll_eq_error_iff {e : MalformedCard} :
    readAll tokens = .error e ↔ FirstNameless tokens e.token := by
  induction tokens with
  | nil => simp [FirstNameless, readAll, pure, Except.pure]
  | cons token tokens ih =>
    rw [firstNameless_cons_iff]
    cases first : read token with
    | error e' =>
      obtain ⟨rfl, nameless⟩ := read_eq_error_iff.mp first
      rw [readAll_cons_of_error first]
      constructor
      · rintro ⟨⟩
        exact .inl ⟨rfl, nameless⟩
      · rintro (⟨rfl, -⟩ | ⟨⟨c, names⟩, -⟩)
        · rfl
        · exact absurd names (nameless c)
    | ok c =>
      have names := read_eq_ok_iff.mp first
      have passed : (readAll tokens).map (c :: ·) = .error e ↔ readAll tokens = .error e := by
        cases readAll tokens <;> simp [Except.map]
      rw [readAll_cons_of_ok first, passed, ih]
      constructor
      · exact fun later => .inr ⟨⟨c, names⟩, later⟩
      · rintro (⟨-, nameless⟩ | ⟨-, later⟩)
        · exact absurd names (nameless c)
        · exact later

/-- **Cards are read by just the grammar of their tokens.** A token is read as the card that it
names, and one that names none is given back with its blanks. Every card is read from its own text.
Of many tokens all cards are read in order if each names one, and else the first that names none is
complained about. -/
theorem read_by_grammar :
    (∀ token c, read token = .ok c ↔ Named token c) ∧
    (∀ token e, read token = .error e ↔ e = ⟨token⟩ ∧ ∀ c, ¬ Named token c) ∧
    (∀ c, read c.text = .ok c) ∧
    (∀ tokens cards, readAll tokens = .ok cards ↔ List.Forall₂ Named tokens cards) ∧
    ∀ tokens e, readAll tokens = .error e ↔ FirstNameless tokens e.token :=
  ⟨fun _ _ => read_eq_ok_iff, fun _ _ => read_eq_error_iff,
    fun c => read_eq_ok_iff.mpr (named_text c), fun _ _ => readAll_eq_ok_iff,
    fun _ _ => readAll_eq_error_iff⟩

end Card

end Showdown
