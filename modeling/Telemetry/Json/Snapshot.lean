import Telemetry.Json.Basic
import Telemetry.Number.Reader

/-! Snapshots: JSON values in which whatever differs from run to run is replaced, so that two runs
can be compared. Random identifiers get names in the order of their first appearance, and current
times become a word. -/

namespace Telemetry

/-- What a snapshot goes by, and the names given so far. -/
structure Snapshot where
  /-- Whether an identifier is none of the random ones. -/
  known : String → Bool
  /-- Whether a number of seconds is a current time. -/
  current : Float → Bool
  names : List (String × String)

namespace Snapshot

/-! ### Identifiers -/

/-- A digit of an identifier. -/
def isDigit (c : Char) : Bool := c.isDigit || ('a' ≤ c && c ≤ 'f')

/-- The name of an identifier. -/
def name (id : List Char) (s : Snapshot) : List Char × Snapshot :=
  let text := String.ofList id
  match s.names.lookup text with
  | some n => (n.toList, s)
  | none =>
    if s.known text || id.all (· == '0') then (id, s)
    else
      let n := "$" ++ toString (s.names.length + 1)
      (n.toList, { s with names := s.names ++ [(text, n)] })

/-- A text cut into longest pieces of digits only and pieces without digits. -/
def pieces (cs : List Char) : List (List Char) := cs.splitBy fun a b => isDigit a == isDigit b

/-- Whether a piece ends as the text in front of a number does. -/
def leadsNumber (piece : List Char) : Bool :=
  let lead (c : Char) := c == '.' || c == ':' || c == ',' || c == '['
  match piece.reverse with
  | '-' :: c :: _ => lead c
  | c :: _ => lead c
  | [] => false

/-- Whether a piece has the length of an identifier and is not part of a number. -/
def isIdentifier (before piece : List Char) : Bool :=
  piece.all isDigit && (piece.length == 32 || piece.length == 16) && !leadsNumber before

/-- The identifier that pieces with hyphens between them make up. -/
def hyphenated? (ps : List (List Char)) : Option (List Char) :=
  match ps with
  | a :: ['-'] :: b :: ['-'] :: c :: ['-'] :: d :: ['-'] :: e :: rest =>
    if [a, b, c, d, e].map List.length == [8, 4, 4, 4, 12] && [a, b, c, d, e].all (·.all isDigit) &&
        (rest.headD []).head? != some '-' then
      some (a ++ b ++ c ++ d ++ e)
    else none
  | _ => none

/-- Names the identifiers among pieces, the first `skip` of which are done with. -/
def namePieces (skip : Nat) (before : List Char) :
    List (List Char) → Snapshot → List Char × Snapshot
  | [], s => ([], s)
  | p :: ps, s =>
    match skip with
    | n + 1 => namePieces n p ps s
    | 0 =>
      let (text, skip, s) := match hyphenated? (p :: ps) with
        | some id =>
          let (n, s) := name id s
          (n, 8, s)
        | none =>
          if isIdentifier before p then
            let (n, s) := name p s
            (n, 0, s)
          else (p, 0, s)
      let (rest, s) := namePieces skip p ps s
      (text ++ rest, s)

/-! ### Times -/

/-- What stands for a current time. -/
def nowText : String := "now"

/-- The end of the name of a field with a time. -/
def timeField : String := "timestamp"

/-- Replaces the current times in encoded JSON, of which the first `skip` characters are done with.
-/
def replaceTimes (current : Float → Bool) (skip : Nat) : List Char → List Char
  | [] => []
  | c :: cs =>
    match skip with
    | n + 1 => replaceTimes current n cs
    | 0 =>
      let mark := (timeField ++ "\":").toList
      let number := ((c :: cs).drop mark.length).takeWhile fun d => d.isDigit || d == '.'
      if mark.isPrefixOf (c :: cs) && (FloatText.read? (String.ofList number)).any current then
        mark ++ ("\"" ++ nowText ++ "\"").toList ++
          replaceTimes current (mark.length + number.length - 1) cs
      else c :: replaceTimes current 0 cs

/-! ### Values -/

/-- A string with its identifiers named and its times replaced. -/
def text (t : String) (s : Snapshot) : Json × Snapshot :=
  let (cs, s) := namePieces 0 [] (pieces (replaceTimes s.current 0 t.toList)) s
  (.str (String.ofList cs), s)

mutual

/-- The snapshot of a value; `timed` if it is that of a field with a time. -/
def value (timed : Bool) : Json → Snapshot → Json × Snapshot
  | .str t, s => s.text t
  | .float x, s => (if timed && s.current x then .str nowText else .float x, s)
  | .int n, s => (if timed && s.current (Float.ofInt n) then .str nowText else .int n, s)
  | .arr xs, s =>
    let (xs, s) := values xs s
    (.arr xs, s)
  | .obj es, s =>
    let (es, s) := entries es s
    (.obj es, s)
  | j, s => (j, s)

/-- The snapshots of values, one after the other. -/
def values : List Json → Snapshot → List Json × Snapshot
  | [], s => ([], s)
  | j :: js, s =>
    let (j, s) := value false j s
    let (js, s) := values js s
    (j :: js, s)

/-- The snapshots of entries, one after the other. -/
def entries : List (String × Json) → Snapshot → List (String × Json) × Snapshot
  | [], s => ([], s)
  | (k, j) :: es, s =>
    let (j, s) := value (k.endsWith timeField) j s
    let (es, s) := entries es s
    ((k, j) :: es, s)

end

end Snapshot

mutual

/-- A value in which the objects in fields of a certain name are replaced by a word. -/
def Json.redacted (name word : String) : Json → Json
  | .arr xs => .arr (Json.redactedItems name word xs)
  | .obj es => .obj (Json.redactedEntries name word es)
  | j => j

/-- Values in which the objects in fields of a certain name are replaced by a word. -/
def Json.redactedItems (name word : String) : List Json → List Json
  | [] => []
  | j :: js => j.redacted name word :: Json.redactedItems name word js

/-- Entries in which the objects in fields of a certain name are replaced by a word. -/
def Json.redactedEntries (name word : String) : List (String × Json) → List (String × Json)
  | [] => []
  | (k, .obj es) :: rest =>
    (k, if k = name then .str word else .obj (Json.redactedEntries name word es)) ::
      Json.redactedEntries name word rest
  | (k, j) :: rest => (k, j.redacted name word) :: Json.redactedEntries name word rest

end

mutual

/-- A value with the entries of its objects in order of their keys. -/
def Json.sorted : Json → Json
  | .arr xs => .arr (Json.sortedItems xs)
  | .obj es => .obj (sortedEntries (Json.sortedValues es))
  | j => j

/-- Values with the entries of their objects in order of their keys. -/
def Json.sortedItems : List Json → List Json
  | [] => []
  | j :: js => j.sorted :: Json.sortedItems js

/-- Entries whose values have the entries of their objects in order of their keys. -/
def Json.sortedValues : List (String × Json) → List (String × Json)
  | [] => []
  | (k, j) :: es => (k, j.sorted) :: Json.sortedValues es

end

/-- Whether a text holds another one in small letters, with or without its hyphens. -/
def Snapshot.mentions (text : String) : String → Bool :=
  let lower := text.map Char.toLower
  let plain := String.ofList (lower.toList.filter (· ≠ '-'))
  fun id => 1 < (lower.splitOn id).length || 1 < (plain.splitOn id).length

/-- The snapshot of a value, whose objects are gone through in order of their keys. Identifiers that
the text `source` mentions keep their names. -/
def Json.snapshot (source : String) (current : Float → Bool) (j : Json) : Json :=
  (Snapshot.value false j.sorted ⟨Snapshot.mentions source, current, []⟩).1

end Telemetry
