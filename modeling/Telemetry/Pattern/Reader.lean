import Telemetry.Pattern.Basic

/-! Patterns for programs that run: literals, classes in brackets, groups, alternatives, repetitions,
anchors and flags, with some of the names that characters have. There are no references back and no
conditions on what lies around a match, so that every pattern that can be read can be searched for in
time linear in the text. -/

namespace Telemetry

/-- What the flags of a pattern change. -/
structure PatternFlags where
  ignoreCase : Bool
  multiLine : Bool
  dotAll : Bool
  crlf : Bool
  unicode : Bool
  verbose : Bool
deriving DecidableEq, Repr

namespace PatternReader

/-- The flags at the start of a pattern. -/
def initialFlags : PatternFlags := ⟨false, false, false, false, true, false⟩

/-! ### Blanks, numbers and escapes -/

/-- The rest of a text after the blanks and comments that a verbose pattern may hold. -/
def skipBlank (verbose : Bool) (cs : List Char) : List Char :=
  if verbose then go false cs else cs
where
  /-- The rest of a text, inside a comment or not. -/
  go : Bool → List Char → List Char
    | _, [] => []
    | true, c :: cs => go (c ≠ '\n') cs
    | false, c :: cs =>
      if isBlank c then go false cs else if c = '#' then go true cs else c :: cs

/-- The rest after the blanks, if there is any. -/
def next? (verbose : Bool) (cs : List Char) : Option (List Char) :=
  match skipBlank verbose cs with
  | [] => none
  | cs => some cs

/-- The digits at the front. -/
def digits (verbose : Bool) : Nat → List Char → List Char × List Char
  | 0, cs => ([], cs)
  | _ + 1, [] => ([], [])
  | fuel + 1, c :: cs =>
    if c.isDigit then
      let (ds, rest) := digits verbose fuel (skipBlank verbose cs)
      (c :: ds, rest)
    else ([], c :: cs)

/-- A number of 32 bits between blanks. -/
def decimal? (verbose : Bool) (cs : List Char) : Option (Nat × List Char) :=
  let (ds, rest) := digits verbose cs.length (cs.dropWhile isBlank)
  let n := ds.foldl (fun n d => 10 * n + (d.toNat - 48)) 0
  if ds.isEmpty || UInt32.size ≤ n then none else some (n, rest.dropWhile isBlank)

/-- How often something is repeated: the inside of braces and the brace at the end. -/
def bounds? (verbose : Bool) (cs : List Char) : Option ((Nat × Option Nat) × List Char) := do
  let cs ← next? verbose cs
  let (low, cs) ← decimal? verbose cs
  match cs with
  | '\x7d' :: cs => some ((low, some low), cs)
  | ',' :: cs =>
    match ← next? verbose cs with
    | '\x7d' :: cs => some ((low, none), cs)
    | cs =>
      let (high, cs) ← decimal? verbose cs
      match cs with
      | '\x7d' :: cs => if low ≤ high then some ((low, some high), cs) else none
      | _ => none
  | _ => none

/-- The value of a hexadecimal digit. -/
def hexDigit? (c : Char) : Option Nat :=
  if c.isDigit then some (c.toNat - 48)
  else if 'a' ≤ c && c ≤ 'f' then some (c.toNat - 87)
  else if 'A' ≤ c && c ≤ 'F' then some (c.toNat - 55)
  else none

/-- The character with a number. -/
def character? (n : Nat) : Option Char := if n.isValidChar then some (Char.ofNat n) else none

/-- A given number of hexadecimal digits. -/
def fixedHex? (verbose : Bool) : Nat → Nat → List Char → Option (Nat × List Char)
  | 0, n, cs => some (n, cs)
  | _ + 1, _, [] => none
  | k + 1, n, c :: cs => do
    let d ← hexDigit? c
    fixedHex? verbose k (16 * n + d) (if k = 0 then cs else skipBlank verbose cs)

/-- Hexadecimal digits up to a closing brace, at least one. -/
def bracedHex? (verbose : Bool) : Nat → Option Nat → List Char → Option (Nat × List Char)
  | 0, _, _ => none
  | fuel + 1, n, cs =>
    match skipBlank verbose cs with
    | [] => none
    | '\x7d' :: cs => n.map fun n => (n, cs)
    | c :: cs => do
      let d ← hexDigit? c
      bracedHex? verbose fuel (some (16 * n.getD 0 + d)) cs

/-- What an escape or a single character stands for. -/
inductive Atom where
  | literal (c : Char)
  | set (s : CharSet)
  | anchor (a : Anchor)
deriving DecidableEq, Repr

/-- A character written by its number. -/
def hexEscape? (f : PatternFlags) (length : Nat) (cs : List Char) :
    Option (Atom × List Char) := do
  match ← next? f.verbose cs with
  | '\x7b' :: cs =>
    let (n, cs) ← bracedHex? f.verbose (cs.length + 1) none cs
    return (.literal (← character? n), cs)
  | cs =>
    let (n, cs) ← fixedHex? f.verbose length 0 cs
    if !f.unicode && length = 2 && 128 ≤ n then none
    return (.literal (← character? n), cs)

/-- A set or, if `negated`, what is not in it; without Unicode nothing can be negated. -/
def negatedSet? (f : PatternFlags) (negated : Bool) (s : CharSet) : Option CharSet :=
  if negated then if f.unicode then some (.not s) else none else some s

/-- A kind of character by its letter. -/
def kindEscape? (f : PatternFlags) (k : CharKind) (ascii : List (Char × Char)) (negated : Bool) :
    Option Atom :=
  (negatedSet? f negated (if f.unicode then .kind k else .ranges ascii)).map .set

/-- A set with what differs from its members in case, if case is ignored. -/
def cased (f : PatternFlags) (s : CharSet) : CharSet := if f.ignoreCase then .anyCase s else s

/-- A kind of character by its name. -/
def property? (f : PatternFlags) (negated : Bool) (cs : List Char) :
    Option (Atom × List Char) := do
  if !f.unicode then none
  let named (name : List Char) : Option Atom := do
    let k ← CharKind.parse? (String.ofList name)
    let s := cased f (.kind k)
    return .set (if negated then .not s else s)
  match ← next? f.verbose cs with
  | '\x7b' :: cs =>
    let inside := cs.takeWhile (· ≠ '\x7d')
    match cs.drop inside.length with
    | [] => none
    | _ :: rest => return (← named inside, rest)
  | '\\' :: _ => none
  | c :: cs => return (← named [c], cs)
  | [] => none

/-- A boundary of words that is written with its name in braces, if that is what follows. -/
def namedBoundary? (f : PatternFlags) (cs : List Char) : Option (Option (Anchor × List Char)) :=
  let isNameChar (c : Char) := c.isAlpha || c == '-'
  match cs with
  | '\x7b' :: cs =>
    match skipBlank f.verbose cs with
    | [] => none
    | c :: rest =>
      if !isNameChar c then some none
      else
        let name := (c :: rest).takeWhile isNameChar
        match skipBlank f.verbose ((c :: rest).drop name.length) with
        | '\x7d' :: rest =>
          match String.ofList name with
          | "start" => some (some (.wordStart !f.unicode, rest))
          | "end" => some (some (.wordFinish !f.unicode, rest))
          | "start-half" => some (some (.wordStartHalf !f.unicode, rest))
          | "end-half" => some (some (.wordFinishHalf !f.unicode, rest))
          | _ => none
        | _ => none
  | _ => some none

/-- The ASCII letters, digits and the underscore. -/
def asciiWord : List (Char × Char) := [('0', '9'), ('A', 'Z'), ('_', '_'), ('a', 'z')]

/-- What follows a backslash. -/
def escape? (f : PatternFlags) : List Char → Option (Atom × List Char)
  | [] => none
  | c :: cs =>
    match c with
    | 'x' => hexEscape? f 2 cs
    | 'u' => hexEscape? f 4 cs
    | 'U' => hexEscape? f 8 cs
    | 'p' => property? f false cs
    | 'P' => property? f true cs
    | 'd' => (kindEscape? f .decimal [('0', '9')] false).map fun a => (a, cs)
    | 'D' => (kindEscape? f .decimal [('0', '9')] true).map fun a => (a, cs)
    | 's' => (kindEscape? f .blank [('\t', '\r'), (' ', ' ')] false).map fun a => (a, cs)
    | 'S' => (kindEscape? f .blank [('\t', '\r'), (' ', ' ')] true).map fun a => (a, cs)
    | 'w' => (kindEscape? f .word asciiWord false).map fun a => (a, cs)
    | 'W' => (kindEscape? f .word asciiWord true).map fun a => (a, cs)
    | 'a' => some (.literal '\x07', cs)
    | 'f' => some (.literal '\x0c', cs)
    | 't' => some (.literal '\t', cs)
    | 'n' => some (.literal '\n', cs)
    | 'r' => some (.literal '\r', cs)
    | 'v' => some (.literal '\x0b', cs)
    | 'A' => some (.anchor .start, cs)
    | 'z' => some (.anchor .finish, cs)
    | 'B' => some (.anchor (.noWordBoundary !f.unicode), cs)
    | '<' => some (.anchor (.wordStart !f.unicode), cs)
    | '>' => some (.anchor (.wordFinish !f.unicode), cs)
    | 'b' =>
      match namedBoundary? f cs with
      | none => none
      | some none => some (.anchor (.wordBoundary !f.unicode), cs)
      | some (some (a, rest)) => some (.anchor a, rest)
    | c => if c.toNat < 128 && !c.isAlphanum then some (.literal c, cs) else none

/-! ### Classes in brackets -/

/-- How two sets in brackets are joined. -/
inductive SetOp where
  | inter
  | diff
  | symmDiff
deriving DecidableEq, Repr

/-- A class whose bracket is still open. -/
structure OpenClass where
  negated : Bool
  /-- What is in front of an operator, and the operator. -/
  left : Option (CharSet × SetOp)
  items : List CharSet
deriving Repr

namespace OpenClass

/-- What has been read of a class. -/
def set (f : PatternFlags) (k : OpenClass) : CharSet :=
  let right := CharSet.unions k.items
  match k.left with
  | none => right
  | some (left, .inter) => .inter (cased f left) (cased f right)
  | some (left, .diff) => .diff (cased f left) (cased f right)
  | some (left, .symmDiff) => .symmDiff (cased f left) (cased f right)

/-- Adds a set to a class. -/
def add (s : CharSet) (k : OpenClass) : OpenClass := { k with items := s :: k.items }

/-- The class so far in front of an operator. -/
def operator (f : PatternFlags) (op : SetOp) (k : OpenClass) : OpenClass :=
  { k with left := some (k.set f, op), items := [] }

end OpenClass

/-- Hyphens at the start of a class. -/
def leadingHyphens? (f : PatternFlags) : Nat → OpenClass → List Char →
    Option (OpenClass × List Char)
  | 0, _, _ => none
  | fuel + 1, k, cs =>
    match cs with
    | '-' :: cs => do leadingHyphens? f fuel (k.add (.single '-')) (← next? f.verbose cs)
    | cs => some (k, cs)

/-- The start of a class, after its bracket. -/
def openClass? (f : PatternFlags) (cs : List Char) : Option (OpenClass × List Char) := do
  let cs ← next? f.verbose cs
  let (negated, cs) ← match cs with
    | '^' :: cs => (next? f.verbose cs).map fun cs => (true, cs)
    | cs => some (false, cs)
  let (k, cs) ← leadingHyphens? f (cs.length + 1) ⟨negated, none, []⟩ cs
  match k.items, cs with
  | [], ']' :: cs => return (k.add (.single ']'), ← next? f.verbose cs)
  | _, cs => return (k, cs)

/-- A class of ASCII characters by its name, after its bracket, if that is what follows. -/
def asciiClass? (f : PatternFlags) (cs : List Char) : Option (CharSet × List Char) := do
  match cs with
  | ':' :: cs =>
    let (negated, cs) := match cs with
      | '^' :: cs => (true, cs)
      | cs => (false, cs)
    let name := cs.takeWhile (· ≠ ':')
    match cs.drop name.length with
    | ':' :: ']' :: rest =>
      let s := cased f (← CharSet.asciiClass? (String.ofList name))
      return (if negated then .not s else s, rest)
    | _ => none
  | _ => none

/-- A member of a class. -/
def classAtom? (f : PatternFlags) : List Char → Option (Atom × List Char)
  | [] => none
  | '\\' :: cs => escape? f cs
  | c :: cs => if f.unicode || c.toNat < 128 then some (.literal c, cs) else none

/-- The set that a member of a class stands for. -/
def atomSet? : Atom → Option CharSet
  | .literal c => some (.single c)
  | .set s => some s
  | .anchor _ => none

/-- A member of a class or a range. -/
def classRange? (f : PatternFlags) (cs : List Char) : Option (CharSet × List Char) := do
  let (a, cs) ← classAtom? f cs
  let cs ← next? f.verbose cs
  match cs with
  | '-' :: rest =>
    let after := (skipBlank f.verbose rest).head?
    if after = some ']' ∨ after = some '-' then return (← atomSet? a, cs)
    let (b, cs) ← classAtom? f (← next? f.verbose rest)
    match a, b with
    | .literal low, .literal high => if low ≤ high then some (.range low high, cs) else none
    | _, _ => none
  | cs => return (← atomSet? a, cs)

/-- The rest of a class, given the classes whose brackets are open around it. -/
def classRest? (f : PatternFlags) : Nat → OpenClass → List OpenClass → List Char →
    Option (CharSet × List Char)
  | 0, _, _, _ => none
  | fuel + 1, k, outer, cs => do
    let range := do
      let (s, cs) ← classRange? f (skipBlank f.verbose cs)
      classRest? f fuel (k.add s) outer cs
    match skipBlank f.verbose cs with
    | '[' :: cs =>
      match asciiClass? f cs with
      | some (s, cs) => classRest? f fuel (k.add s) outer cs
      | none =>
        let (inner, cs) ← openClass? f cs
        classRest? f fuel inner (k :: outer) cs
    | ']' :: cs =>
      let s ← negatedSet? f k.negated (cased f (k.set f))
      match outer with
      | [] => some (s, cs)
      | k :: outer => classRest? f fuel (k.add s) outer cs
    | '&' :: '&' :: cs => classRest? f fuel (k.operator f .inter) outer cs
    | '-' :: '-' :: cs => classRest? f fuel (k.operator f .diff) outer cs
    | '~' :: '~' :: cs => classRest? f fuel (k.operator f .symmDiff) outer cs
    | _ => range

/-- A class, after its bracket. -/
def class? (f : PatternFlags) (cs : List Char) : Option (CharSet × List Char) := do
  let (k, rest) ← openClass? f cs
  classRest? f (cs.length + 1) k [] rest

/-! ### Groups and flags -/

/-- Flags up to the colon or parenthesis that ends them, which comes last. -/
def flags? : List Char → Bool → Bool → List Char → PatternFlags →
    Option (PatternFlags × Bool × Char × List Char)
  | _, _, _, [], _ => none
  | seen, negated, dangling, c :: cs, f =>
    if c = ':' ∨ c = ')' then
      if dangling then none else some (f, seen.isEmpty, c, cs)
    else if seen.contains c then none
    else
      let seen := c :: seen
      let on := !negated
      match c with
      | '-' => flags? seen true true cs f
      | 'i' => flags? seen negated false cs { f with ignoreCase := on }
      | 'm' => flags? seen negated false cs { f with multiLine := on }
      | 's' => flags? seen negated false cs { f with dotAll := on }
      | 'U' => flags? seen negated false cs f
      | 'u' => flags? seen negated false cs { f with unicode := on }
      | 'R' => flags? seen negated false cs { f with crlf := on }
      | 'x' => flags? seen negated false cs { f with verbose := on }
      | _ => none

/-- Whether a character may stand in the name of a group. -/
def isNameChar (first : Bool) (c : Char) : Bool :=
  c == '_' || Letter.isLetter c ||
    (!first && (Letter.isDecimal c || c == '.' || c == '[' || c == ']'))

/-- The name of a group up to its bracket. -/
def groupName? (cs : List Char) : Option (List Char × List Char) :=
  let name := cs.takeWhile (· ≠ '>')
  match name, cs.drop name.length with
  | c :: more, _ :: rest =>
    if isNameChar true c && more.all (isNameChar false) then some (name, rest) else none
  | _, _ => none

/-- A group whose parenthesis is still open. -/
structure OpenGroup where
  /-- The flags in force around the group. -/
  outerFlags : PatternFlags
  alternatives : List Pattern
  /-- The parts of the last alternative, the last part first; flags are no part that could be
  repeated. -/
  parts : List (Option Pattern)

namespace OpenGroup

/-- Nothing read yet. -/
def new (outerFlags : PatternFlags) : OpenGroup := ⟨outerFlags, [], []⟩

/-- Adds a part. -/
def add (p : Pattern) (g : OpenGroup) : OpenGroup := { g with parts := some p :: g.parts }

/-- The parts of the last alternative, one after the other. -/
def last (g : OpenGroup) : Pattern := Pattern.seq (g.parts.reverse.filterMap id)

/-- Starts another alternative. -/
def alternative (g : OpenGroup) : OpenGroup :=
  { g with alternatives := g.last :: g.alternatives, parts := [] }

/-- The pattern of a group. -/
def pattern (g : OpenGroup) : Pattern := Pattern.choice (g.last :: g.alternatives).reverse

/-- Repeats the last part, if there is one and the result is not too large. -/
def repeatLast? (low : Nat) (high : Option Nat) (g : OpenGroup) : Option OpenGroup :=
  match g.parts with
  | some p :: parts => (p.times? low high).map fun p => { g with parts := some p :: parts }
  | _ => none

end OpenGroup

/-- A pattern of which a part has been read. -/
structure Reading where
  flags : PatternFlags
  group : OpenGroup
  outer : List OpenGroup
  names : List (List Char)

namespace Reading

/-- Adds a part to the innermost group. -/
def add (p : Pattern) (r : Reading) : Reading := { r with group := r.group.add p }

/-- How deep groups may stand in each other. -/
def maxDepth : Nat := 250

/-- Opens a group with its own flags. -/
def openGroup? (flags : PatternFlags) (r : Reading) : Option Reading :=
  if r.outer.length < maxDepth then
    some { r with flags, group := .new r.flags, outer := r.group :: r.outer }
  else none

/-- Opens the group or sets the flags that a parenthesis starts. -/
def parenthesis? (r : Reading) (cs : List Char) : Option (Reading × List Char) :=
  let name? (cs : List Char) := do
    let (name, cs) ← groupName? cs
    if r.names.contains name then none
    else return (← { r with names := name :: r.names }.openGroup? r.flags, cs)
  match skipBlank r.flags.verbose cs with
  | '?' :: '=' :: _ => none
  | '?' :: '!' :: _ => none
  | '?' :: '<' :: '=' :: _ => none
  | '?' :: '<' :: '!' :: _ => none
  | '?' :: 'P' :: '<' :: cs => name? cs
  | '?' :: '<' :: cs => name? cs
  | '?' :: cs => do
    let (flags, noFlags, finish, cs) ← flags? [] false false cs r.flags
    if finish = ':' then return (← r.openGroup? flags, cs)
    else if noFlags then none
    else some ({ r with flags, group := { r.group with parts := none :: r.group.parts } }, cs)
  | cs => (r.openGroup? r.flags).map fun r => (r, cs)

/-- Closes the innermost group. -/
def close? (r : Reading) : Option Reading :=
  match r.outer with
  | [] => none
  | g :: outer =>
    some { r with flags := r.group.outerFlags, group := g.add r.group.pattern, outer }

/-- The set of everything a full stop stands for. -/
def dot? (f : PatternFlags) : Option CharSet :=
  if !f.unicode then none
  else if f.dotAll then some (.kind .any)
  else if f.crlf then some (.not (.union (.single '\n') (.single '\r')))
  else some (.not (.single '\n'))

/-- A single part of a pattern. -/
def part? (f : PatternFlags) : List Char → Option (Pattern × List Char)
  | [] => none
  | '\\' :: cs => do
    match ← escape? f cs with
    | (.literal c, cs) => some (.chars (cased f (.single c)), cs)
    | (.set s, cs) => some (.chars s, cs)
    | (.anchor a, cs) => some (.anchor a, cs)
  | '.' :: cs => (dot? f).map fun s => (.chars s, cs)
  | '^' :: cs => some (.anchor (if f.multiLine then .lineStart f.crlf else .start), cs)
  | '$' :: cs => some (.anchor (if f.multiLine then .lineFinish f.crlf else .finish), cs)
  | '[' :: cs => (class? f cs).map fun r => (.chars r.1, r.2)
  | c :: cs => some (.chars (cased f (.single c)), cs)

/-- The rest without a question mark in front, which only asks for the shortest match. -/
def dropLazy : List Char → List Char
  | '?' :: cs => cs
  | cs => cs

/-- Repeats the last part. -/
def repeatLast? (low : Nat) (high : Option Nat) (r : Reading) : Option Reading :=
  (r.group.repeatLast? low high).map fun group => { r with group }

/-- Reads the rest of a pattern. -/
def finish? : Nat → Reading → List Char → Option Pattern
  | 0, _, _ => none
  | fuel + 1, r, cs =>
    let verbose := r.flags.verbose
    match skipBlank verbose cs with
    | [] => if r.outer.isEmpty then some r.group.pattern else none
    | '(' :: cs => do
      let (r, cs) ← r.parenthesis? cs
      finish? fuel r cs
    | ')' :: cs => do finish? fuel (← r.close?) cs
    | '|' :: cs => finish? fuel { r with group := r.group.alternative } cs
    | '*' :: cs => do finish? fuel (← r.repeatLast? 0 none) (dropLazy cs)
    | '+' :: cs => do finish? fuel (← r.repeatLast? 1 none) (dropLazy cs)
    | '?' :: cs => do finish? fuel (← r.repeatLast? 0 (some 1)) (dropLazy cs)
    | '\x7b' :: cs => do
      let ((low, high), cs) ← bounds? verbose cs
      finish? fuel (← r.repeatLast? low high) (dropLazy (skipBlank verbose cs))
    | cs => do
      let (p, cs) ← part? r.flags cs
      finish? fuel (r.add p) cs

end Reading

end PatternReader

/-- Reads a pattern; one that is too large counts as unreadable. -/
def Pattern.parse? (s : String) : Option Pattern :=
  let cs := s.toList
  let flags := PatternReader.initialFlags
  (PatternReader.Reading.finish? (cs.length + 1) ⟨flags, .new flags, [], []⟩ cs).filter
    fun p => p.weight ≤ Pattern.maxWeight

end Telemetry
