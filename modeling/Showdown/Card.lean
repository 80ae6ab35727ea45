import Showdown.Text.Blank
import Showdown.Text.Quoted

/-!
# Cards

The 52 playing cards, their order, and the tokens in which feeds name them. A token is a rank
followed by a suit letter, in either case of the Latin letters and with blanks around it allowed:
`Ah`, `td`, ` 10D `. Tens may be spelled `T` or `10`; a card is always written back as `T`.

Cards are ordered by suit first, then by rank.
-/

namespace Showdown

/-- The four suits, in ascending order. -/
inductive Suit where
  /-- Clubs, letter `c`. -/
  | clubs
  /-- Diamonds, letter `d`. -/
  | diamonds
  /-- Hearts, letter `h`. -/
  | hearts
  /-- Spades, letter `s`. -/
  | spades
  deriving DecidableEq, Ord

/-- The thirteen ranks, in ascending order. -/
inductive Rank where
  /-- Two. -/
  | two
  /-- Three. -/
  | three
  /-- Four. -/
  | four
  /-- Five. -/
  | five
  /-- Six. -/
  | six
  /-- Seven. -/
  | seven
  /-- Eight. -/
  | eight
  /-- Nine. -/
  | nine
  /-- Ten. -/
  | ten
  /-- Jack. -/
  | jack
  /-- Queen. -/
  | queen
  /-- King. -/
  | king
  /-- Ace, the highest rank. -/
  | ace
  deriving DecidableEq, Ord

namespace Suit

/-- The suits in ascending order. -/
def all : List Suit := [clubs, diamonds, hearts, spades]

/-- The letter of a suit. -/
def letter : Suit → Char
  | clubs => 'c'
  | diamonds => 'd'
  | hearts => 'h'
  | spades => 's'

/-- The suit of a letter, in either case. -/
def ofLetter? (c : Char) : Option Suit :=
  all.find? fun s => s.letter == c.toLower

/-- The name of a suit. -/
def name : Suit → String
  | clubs => "Clubs"
  | diamonds => "Diamonds"
  | hearts => "Hearts"
  | spades => "Spades"

end Suit

namespace Rank

/-- The ranks in ascending order. -/
def all : List Rank :=
  [two, three, four, five, six, seven, eight, nine, ten, jack, queen, king, ace]

/-- The number of a rank, from 2 for the two to 14 for the ace. -/
def value : Rank → Nat
  | two => 2
  | three => 3
  | four => 4
  | five => 5
  | six => 6
  | seven => 7
  | eight => 8
  | nine => 9
  | ten => 10
  | jack => 11
  | queen => 12
  | king => 13
  | ace => 14

/-- The sign of a rank, as it stands in a written card. -/
def sign : Rank → Char
  | two => '2'
  | three => '3'
  | four => '4'
  | five => '5'
  | six => '6'
  | seven => '7'
  | eight => '8'
  | nine => '9'
  | ten => 'T'
  | jack => 'J'
  | queen => 'Q'
  | king => 'K'
  | ace => 'A'

/-- The rank of a spelling: its sign, in either case, or `10` for the ten. -/
def ofSpelling? : List Char → Option Rank
  | [c] => all.find? fun r => r.sign == c.toUpper
  | s => if s = ['1', '0'] then some ten else none

/-- The name of a rank. -/
def name : Rank → String
  | two => "Two"
  | three => "Three"
  | four => "Four"
  | five => "Five"
  | six => "Six"
  | seven => "Seven"
  | eight => "Eight"
  | nine => "Nine"
  | ten => "Ten"
  | jack => "Jack"
  | queen => "Queen"
  | king => "King"
  | ace => "Ace"

end Rank

/-- A playing card. -/
structure Card where
  /-- The suit, which comes first in the order of cards. -/
  suit : Suit
  /-- The rank. -/
  rank : Rank
  deriving DecidableEq, Ord

/-- A token that names no card, as it was delivered. -/
structure MalformedCard where
  /-- The token, with its blanks. -/
  token : String
  deriving DecidableEq

/-- The complaint about a token. -/
def MalformedCard.message (e : MalformedCard) : String :=
  "Malformed card token: " ++ Text.quoted e.token

namespace Card

/-- The 52 cards in ascending order. -/
def deck : List Card :=
  Suit.all.flatMap fun s => Rank.all.map fun r => ⟨s, r⟩

/-- A card as it is written: its sign, then its letter. -/
def text (c : Card) : String :=
  String.ofList [c.rank.sign, c.suit.letter]

/-- The card of a token without blanks around it: a spelling of a rank, then a suit letter. -/
def ofSpelling? (s : List Char) : Option Card := do
  let suit ← Suit.ofLetter? (← s.getLast?)
  let rank ← Rank.ofSpelling? s.dropLast
  return ⟨suit, rank⟩

/-- Reads a token. -/
def read (token : String) : Except MalformedCard Card :=
  match ofSpelling? (Text.trim token.toList) with
  | some c => .ok c
  | none => .error ⟨token⟩

/-- Reads tokens in order, up to the first that names no card. -/
def readAll (tokens : List String) : Except MalformedCard (List Card) :=
  tokens.mapM read

/-- The cards in ascending order. -/
def sorted (cs : List Card) : List Card :=
  cs.mergeSort fun a b => (compare a b).isLE

end Card

end Showdown
