import Telemetry.Payload.Event
import Telemetry.Text.Blank

/-! Symbols and frames of stack traces, and the events made of errors and panics. -/

namespace Telemetry.Backtrace

/-- Where the last occurrence of a text starts. -/
def lastIndex? (pattern : List Char) (cs : List Char) : Option Nat :=
  (List.range (cs.length + 1)).reverse.find? fun i => pattern.isPrefixOf (cs.drop i)

/-- The mark in front of a symbol's hash. -/
def hashMark : List Char := [':', ':', 'h']

/-- A character of a hash. -/
def isHashDigit (c : Char) : Bool :=
  c.isDigit || ('a' ≤ c && c ≤ 'f') || ('A' ≤ c && c ≤ 'F')

/-- A symbol without the hash at its end. -/
def stripSymbol (s : String) : String :=
  let cs := s.toList
  match lastIndex? hashMark cs with
  | none => s
  | some i =>
    let hash := cs.drop (i + 3)
    if hash.length = 16 ∧ hash.all isHashDigit then String.ofList (cs.take i) else s

/-- A name without the pairs of underscore and bracket in front of it. -/
def dropMarks : List Char → List Char
  | '_' :: '<' :: cs => dropMarks cs
  | cs => cs

/-- A function's name without the brackets in front of it. -/
def bareName (cs : List Char) : List Char := dropMarks (cs.dropWhile (· == '<'))

/-- Bytes of a text. -/
def byteLength : List Char → Nat
  | [] => 0
  | c :: cs => c.utf8Size + byteLength cs

/-- Whether a number of bytes ends between two characters. -/
def isBoundary : List Char → Nat → Bool
  | _, 0 => true
  | [], _ => false
  | c :: cs, n => if c.utf8Size ≤ n then isBoundary cs (n - c.utf8Size) else false

/-- Whether a function's name starts with a pattern, a full stop counting as a colon. -/
def startsWith (name pattern : String) : Bool :=
  let cs := bareName name.toList
  let ps := pattern.toList
  if byteLength cs < byteLength ps || !isBoundary cs (byteLength ps) then false
  else (cs.zip ps).all fun (f, p) => f == p || (f == '.' && p == ':')

/-- Functions that only carry a panic or an error to its report. -/
def borderPatterns : List String :=
  ["std::panicking::begin_panic", "core::panicking::panic",
   "outpost_core::backtrace_support::current_stacktrace",
   "outpost_core::error::event_from_error", "outpost::integrations::panic::"]

/-- Whether a frame belongs to the reporting itself. -/
def isBorder (f : Frame) : Bool :=
  match f.function with
  | some name => borderPatterns.any (startsWith name)
  | none => false

/-- A stack trace up to the first frame that belongs to the reporting. -/
def trim (s : Stacktrace) : Stacktrace := ⟨s.frames.takeWhile fun f => !isBorder f⟩

/-- The name of a type at the front of a value's debugging output. -/
def typeName (s : String) : String :=
  let ends (c : Char) := c == ' ' || c == '(' || c == '\x7b' || c == '\r' || c == '\n'
  String.ofList (trimList isBlank (s.toList.takeWhile fun c => !ends c))

/-- An error as a program shows it: for debugging, and for display. -/
structure ShownError where
  debug : String
  display : String
deriving DecidableEq, Repr

/-- An error of a chain. -/
def exception (e : ShownError) : Exception :=
  { type := typeName e.debug, value := some e.display, module := none, stacktrace := none,
    mechanism := none }

/-- The event of an error and its sources, the innermost first. -/
def errorEvent (blank : Event) (chain : List ShownError) : Event :=
  { blank with exceptions := (chain.map exception).reverse, level := .error }

/-- The event of a panic. -/
def panicEvent (blank : Event) (message : String) (stacktrace : Option Stacktrace) : Event :=
  { blank with
    exceptions := [
      { type := "panic", value := some message, module := none, stacktrace,
        mechanism := some
          { type := "panic", description := none, handled := some false, data := ∅ } }]
    level := .fatal }

end Telemetry.Backtrace
