import Telemetry.Pattern.CharSet

/-! Patterns of text. A pattern matches a text if some piece of the text belongs to it; the search
keeps the list of what may still follow, one character after the other. -/

namespace Telemetry

/-- A condition on the characters before and after a position. -/
inductive Anchor where
  | start
  | finish
  | lineStart (crlf : Bool)
  | lineFinish (crlf : Bool)
  | wordBoundary (ascii : Bool)
  | noWordBoundary (ascii : Bool)
  | wordStart (ascii : Bool)
  | wordFinish (ascii : Bool)
  | wordStartHalf (ascii : Bool)
  | wordFinishHalf (ascii : Bool)
deriving DecidableEq, Repr

namespace Anchor

/-- Whether a neighbour is a character of a word. -/
def inWord (ascii : Bool) : Option Char → Bool
  | none => false
  | some c =>
    if ascii then c.isAlphanum || c == '_' else Letter.isWord c

/-- Whether a position with these neighbours meets the condition. -/
def holds (a : Anchor) (before after : Option Char) : Bool :=
  match a with
  | .start => before.isNone
  | .finish => after.isNone
  | .lineStart false => before.isNone || before == some '\n'
  | .lineStart true =>
    before.isNone || before == some '\n' || (before == some '\r' && after != some '\n')
  | .lineFinish false => after.isNone || after == some '\n'
  | .lineFinish true =>
    after.isNone || after == some '\r' || (after == some '\n' && before != some '\r')
  | .wordBoundary b => inWord b before != inWord b after
  | .noWordBoundary b => inWord b before == inWord b after
  | .wordStart b => !inWord b before && inWord b after
  | .wordFinish b => inWord b before && !inWord b after
  | .wordStartHalf b => !inWord b before
  | .wordFinishHalf b => !inWord b after

end Anchor

/-- A pattern of text. -/
inductive Pattern where
  | never
  | empty
  | anchor (a : Anchor)
  | chars (s : CharSet)
  | cat (p q : Pattern)
  | alt (p q : Pattern)
  | star (p : Pattern)
deriving DecidableEq, Repr

namespace Pattern

/-- One pattern after the other. -/
def append : Pattern → Pattern → Pattern
  | empty, q => q
  | p, empty => p
  | p, q => cat p q

/-- The patterns of a list, one after the other. -/
def seq (ps : List Pattern) : Pattern := ps.foldr append empty

/-- Any pattern of a list. -/
def choice (ps : List Pattern) : Pattern :=
  match ps with
  | [] => never
  | p :: ps => ps.foldl alt p

/-- Up to `n` times a pattern. -/
def upTo (p : Pattern) : Nat → Pattern
  | 0 => empty
  | n + 1 => alt empty (append p (upTo p n))

/-- At least `low` times a pattern, and at most `high` times if there is a bound. -/
def times (p : Pattern) (low : Nat) (high : Option Nat) : Pattern :=
  let tail := match high with
    | none => star p
    | some high => upTo p (high - low)
  (List.replicate low p).foldr append tail

/-- Whether only empty pieces of text belong to a pattern. -/
def isEmptyOnly : Pattern → Bool
  | never | empty | anchor _ => true
  | chars _ => false
  | cat p q | alt p q => p.isEmptyOnly && q.isEmptyOnly
  | star p => p.isEmptyOnly

/-! ### Size -/

/-- An estimate of the bytes that a pattern takes once it is ready to search with. -/
def weight : Pattern → Nat
  | never | empty | anchor _ => 32
  | chars s => s.weight
  | cat p q => p.weight + q.weight
  | alt p q => p.weight + q.weight + 36
  | star p => p.weight + 36

/-- The size up to which patterns are accepted. -/
def maxWeight : Nat := 10485760

/-- A pattern repeated like by `times`, if that is not too large. Repeating what only empty pieces
belong to changes nothing after the first time. -/
def times? (p : Pattern) (low : Nat) (high : Option Nat) : Option Pattern :=
  let (low, high) :=
    if p.isEmptyOnly then (min low 1, some (min (high.getD 1) 1)) else (low, high)
  if maxWeight < max low (high.getD 1) * p.weight then none else some (p.times low high)

/-! ### Search -/

/-- Whether nothing at a position between two characters belongs to a pattern. -/
def nullable (before after : Option Char) : Pattern → Bool
  | never => false
  | empty => true
  | anchor a => a.holds before after
  | chars _ => false
  | cat p q => p.nullable before after && q.nullable before after
  | alt p q => p.nullable before after || q.nullable before after
  | star _ => true

/-- The patterns of which one must follow once `c` was read. -/
def residuals (before : Option Char) (c : Char) : Pattern → List Pattern
  | never => []
  | empty => []
  | anchor _ => []
  | chars s => if s.contains c then [empty] else []
  | cat p q =>
    ((p.residuals before c).map fun r => r.append q) ++
      if p.nullable before (some c) then q.residuals before c else []
  | alt p q => p.residuals before c ++ q.residuals before c
  | star p => (p.residuals before c).map fun r => r.append (star p)

/-- Whether one of the patterns belongs to a front of the text, or `p` to a later piece of it. -/
def searchFrom (p : Pattern) : Option Char → List Pattern → List Char → Bool
  | before, states, [] => states.any (nullable before none)
  | before, states, c :: cs =>
    states.any (nullable before (some c)) ||
      searchFrom p (some c)
        (p :: (states.flatMap (residuals before c)).eraseDups.filter (· ≠ p)) cs

/-- Whether a piece of the text belongs to the pattern. -/
def matchesText (p : Pattern) (s : String) : Bool := searchFrom p none [p] s.toList

end Pattern

end Telemetry
