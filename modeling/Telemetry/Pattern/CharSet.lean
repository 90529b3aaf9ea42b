import Telemetry.Pattern.Letter
import Telemetry.Pattern.Property
import Telemetry.Text.Blank

/-! Sets of characters as patterns write them: ranges, the kinds of characters that have names, and
what can be made of them. -/

namespace Telemetry

/-- A kind of character that has a name. -/
inductive CharKind where
  | any
  | ascii
  | letter
  | upper
  | lower
  | decimal
  | number
  | punctuation
  | symbol
  | separator
  | word
  | blank
  | greek
  | latin
  | cyrillic
  | han
deriving DecidableEq, Repr

namespace CharKind

/-- Whether a character is of a kind. -/
def contains (k : CharKind) (c : Char) : Bool :=
  match k with
  | .any => true
  | .ascii => c.toNat < 128
  | .letter => Letter.isLetter c
  | .upper => Property.holds Property.upper c
  | .lower => Property.holds Property.lower c
  | .decimal => Letter.isDecimal c
  | .number => Property.holds Property.numbers c
  | .punctuation => Property.holds Property.punctuation c
  | .symbol => Property.holds Property.symbols c
  | .separator => Property.holds Property.separators c
  | .word => Letter.isWord c
  | .blank => isBlank c
  | .greek => Property.holds Property.greek c
  | .latin => Property.holds Property.latin c
  | .cyrillic => Property.holds Property.cyrillic c
  | .han => Property.holds Property.han c

/-- The kind of a property's name. Case, blanks, hyphens and underscores in names do not matter. -/
def parse? (s : String) : Option CharKind :=
  match (String.ofList (s.toList.filter fun c => !(c == ' ' || c == '-' || c == '_'))).toLower with
  | "any" => some .any
  | "ascii" => some .ascii
  | "l" | "letter" => some .letter
  | "lu" | "uppercaseletter" => some .upper
  | "ll" | "lowercaseletter" => some .lower
  | "nd" | "decimalnumber" | "digit" => some .decimal
  | "n" | "number" => some .number
  | "p" | "punctuation" | "punct" => some .punctuation
  | "s" | "symbol" => some .symbol
  | "z" | "separator" => some .separator
  | "whitespace" | "space" => some .blank
  | "greek" | "grek" => some .greek
  | "latin" | "latn" => some .latin
  | "cyrillic" | "cyrl" => some .cyrillic
  | "han" | "hani" => some .han
  | _ => none

/-- An estimate of the bytes that a set of this kind takes in a pattern that is ready to search
with. -/
def weight : CharKind → Nat
  | .letter | .upper | .lower => 40000
  | .word => 50000
  | .number | .punctuation | .symbol => 10000
  | .decimal => 5000
  | .greek | .latin | .cyrillic | .han => 1500
  | .any | .ascii | .separator | .blank => 500

end CharKind

/-- A set of characters. -/
inductive CharSet where
  | none
  | range (low high : Char)
  | kind (k : CharKind)
  | not (s : CharSet)
  | union (s t : CharSet)
  | inter (s t : CharSet)
  | diff (s t : CharSet)
  | symmDiff (s t : CharSet)
  /-- What differs only in case from a member. -/
  | anyCase (s : CharSet)
deriving DecidableEq, Repr

namespace CharSet

/-- Whether a character belongs to a set. -/
def contains : CharSet → Char → Bool
  | none, _ => false
  | range low high, c => low ≤ c && c ≤ high
  | kind k, c => k.contains c
  | not s, c => !s.contains c
  | union s t, c => s.contains c || t.contains c
  | inter s t, c => s.contains c && t.contains c
  | diff s t, c => s.contains c && !t.contains c
  | symmDiff s t, c => s.contains c != t.contains c
  | anyCase s, c => (Letter.variants c).any s.contains

/-- An estimate of the bytes that a set takes in a pattern that is ready to search with. -/
def weight : CharSet → Nat
  | none => 0
  | range _ high => 32 * high.utf8Size
  | kind k => k.weight
  | not s => s.weight
  | union s t | inter s t | diff s t | symmDiff s t => s.weight + t.weight
  | anyCase s => 2 * s.weight

/-- The set of one character. -/
def single (c : Char) : CharSet := range c c

/-- The set of the members of any of the sets. -/
def unions (ss : List CharSet) : CharSet := ss.foldr union none

/-- A set of ASCII ranges. -/
def ranges (rs : List (Char × Char)) : CharSet := unions (rs.map fun r => range r.1 r.2)

/-- The named classes of ASCII characters. -/
def asciiClass? (name : String) : Option CharSet :=
  match name with
  | "alnum" => some (ranges [('0', '9'), ('A', 'Z'), ('a', 'z')])
  | "alpha" => some (ranges [('A', 'Z'), ('a', 'z')])
  | "ascii" => some (ranges [('\x00', '\x7f')])
  | "blank" => some (ranges [('\t', '\t'), (' ', ' ')])
  | "cntrl" => some (ranges [('\x00', '\x1f'), ('\x7f', '\x7f')])
  | "digit" => some (ranges [('0', '9')])
  | "graph" => some (ranges [('!', '~')])
  | "lower" => some (ranges [('a', 'z')])
  | "print" => some (ranges [(' ', '~')])
  | "punct" => some (ranges [('!', '/'), (':', '@'), ('[', '\x60'), ('\x7b', '~')])
  | "space" => some (ranges [('\t', '\r'), (' ', ' ')])
  | "upper" => some (ranges [('A', 'Z')])
  | "word" => some (ranges [('0', '9'), ('A', 'Z'), ('_', '_'), ('a', 'z')])
  | "xdigit" => some (ranges [('0', '9'), ('A', 'F'), ('a', 'f')])
  | _ => .none

end CharSet

end Telemetry
