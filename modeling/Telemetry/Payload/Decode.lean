import Telemetry.Fresh
import Telemetry.ProjectId
import Telemetry.StringMap

/-! Decoding payloads. A `Decoder` turns a JSON value into a domain value or says why not; a `Field`
reads one field of a record. Records are objects, or arrays that list the fields in order. Of
several faults in a record, a value that does not decode outranks an absent field, the earliest such
value counts, and of absent fields the first declared. -/

namespace Telemetry

/-- Why a value does not decode. -/
inductive DecodeError where
  /-- A value of another kind, or out of range, or an unknown name. -/
  | shape
  | level
  | timestamp (text : String)
  | projectId (cause : ProjectIdError)
  | missing (field : String)
  | hex (cause : HexError)
  /-- A float of seconds too large for a length of time: not refused but fatal. -/
  | overflow
deriving DecidableEq, Repr

/-- The wording of a decoding error, where it has one of its own. -/
def DecodeError.message? : DecodeError → Option String
  | .shape => none
  | .level => some "invalid level"
  | .timestamp text => some ("invalid timestamp: " ++ text)
  | .projectId e => some e.message
  | .missing field => some ("missing field `" ++ field ++ "`")
  | .hex e => some e.message
  | .overflow => none

/-- Reads a value, drawing identifiers and the time for what it leaves out. -/
abbrev Decoder (α : Type) := Json → Fresh → Except DecodeError (α × Fresh)

/-- The fields of a record in the order in which they are visited. -/
structure Fields where
  entries : List (String × Json)
  /-- The record is an array, whose absent fields have no names. -/
  positional : Bool

/-- What is wrong with a record. -/
inductive Fault where
  | value (position : Nat) (cause : DecodeError)
  | absent (cause : DecodeError)
deriving DecidableEq, Repr

namespace Fault

/-- The decoding error a fault amounts to. -/
def cause : Fault → DecodeError
  | .value _ e => e
  | .absent e => e

/-- Which of two faults is reported. -/
def worse : Fault → Fault → Fault
  | .value i e, .value j e' => if j < i then .value j e' else .value i e
  | .value i e, .absent _ => .value i e
  | .absent _, .value j e' => .value j e'
  | .absent e, .absent _ => .absent e

end Fault

/-- Reads from the fields of a record. -/
def Field (α : Type) := Fields → Fresh → Except Fault (α × Fresh)

namespace Field

/-- Reads nothing. -/
protected def pure {α : Type} (a : α) : Field α := fun _ s => .ok (a, s)

/-- Reads both and reports the worse of two faults. -/
protected def seq {α β : Type} (f : Field (α → β)) (x : Field α) : Field β := fun fs s =>
  match f fs s with
  | .ok (g, s') =>
    match x fs s' with
    | .ok (a, s'') => .ok (g a, s'')
    | .error e => .error e
  | .error e =>
    match x fs s with
    | .ok _ => .error e
    | .error e' => .error (e.worse e')

instance : Applicative Field where
  pure := Field.pure
  seq f x := Field.seq f (x ())

/-- The position and value of a field. -/
def find? (fs : Fields) (name : String) : Option (Nat × Json) :=
  go 0 fs.entries
where
  /-- Looks from a position on. -/
  go : Nat → List (String × Json) → Option (Nat × Json)
    | _, [] => none
    | i, (k, j) :: rest => if k = name then some (i, j) else go (i + 1) rest

/-- A field that may be absent, `absent` then giving its value. -/
def orElse {α : Type} (name : String) (decode : Decoder α)
    (absent : Fields → Fresh → Except Fault (α × Fresh)) : Field α := fun fs s =>
  match find? fs name with
  | some (i, j) => (decode j s).mapError (.value i)
  | none => absent fs s

/-- A field that must be there. -/
def required {α : Type} (name : String) (decode : Decoder α) : Field α :=
  orElse name decode fun fs _ => .error (.absent (if fs.positional then .shape else .missing name))

/-- A field with a value for when it is absent. -/
def defaulted {α : Type} (name : String) (decode : Decoder α) (value : α) : Field α :=
  orElse name decode fun _ s => .ok (value, s)

/-- A field that is drawn when it is absent. -/
def drawn {α : Type} (name : String) (decode : Decoder α) (draw : Fresh → α × Fresh) : Field α :=
  orElse name decode fun _ s => .ok (draw s)

end Field

namespace Decoder

/-- A decoder that draws nothing. -/
def plain {α : Type} (f : Json → Except DecodeError α) : Decoder α := fun j s =>
  (f j).map fun a => (a, s)

/-- A record with the given fields, in order of declaration. -/
def record {α : Type} (names : List String) (field : Field α) : Decoder α := fun j s =>
  match j with
  | .obj entries => (field ⟨entries, false⟩ s).mapError Fault.cause
  | .arr items =>
    match field ⟨names.zip items, true⟩ s with
    | .error f => .error f.cause
    | .ok r => if items.length ≤ names.length then .ok r else .error .shape
  | _ => .error .shape

/-- Any value. -/
def value : Decoder Json := plain .ok

/-- A string. -/
def string : Decoder String := plain fun
  | .str s => .ok s
  | _ => .error .shape

/-- A truth value. -/
def bool : Decoder Bool := plain fun
  | .bool b => .ok b
  | _ => .error .shape

/-- A whole number below a bound. -/
def natBelow (bound : Nat) : Decoder Nat := plain fun
  | .int n => if 0 ≤ n ∧ n < bound then .ok n.toNat else .error .shape
  | _ => .error .shape

/-- A whole number of 64 bits. -/
def uint64 : Decoder UInt64 := fun j s => (natBelow UInt64.size j s).map fun r => (.ofNat r.1, r.2)

/-- A whole number of 8 bits. -/
def uint8 : Decoder UInt8 := fun j s => (natBelow 256 j s).map fun r => (.ofNat r.1, r.2)

/-- A number. -/
def float : Decoder Float := plain fun
  | .int n => .ok (Float.ofInt n)
  | .float x => .ok x
  | _ => .error .shape

/-- A value that may be null. -/
def option {α : Type} (d : Decoder α) : Decoder (Option α) := fun j s =>
  match j with
  | .null => .ok (none, s)
  | j => (d j s).map fun r => (some r.1, r.2)

/-- The items of an array, one after the other. -/
def items {α : Type} (d : Decoder α) : List Json → Fresh → Except DecodeError (List α × Fresh)
  | [], s => .ok ([], s)
  | j :: js, s => do
    let (a, s) ← d j s
    let (as, s) ← items d js s
    .ok (a :: as, s)

/-- An array. -/
def list {α : Type} (d : Decoder α) : Decoder (List α) := fun j s =>
  match j with
  | .arr js => items d js s
  | _ => .error .shape

/-- The values of an object, one after the other. -/
def values {α : Type} (d : Decoder α) :
    List (String × Json) → Fresh → Except DecodeError (List (String × α) × Fresh)
  | [], s => .ok ([], s)
  | (k, j) :: es, s => do
    let (a, s) ← d j s
    let (as, s) ← values d es s
    .ok ((k, a) :: as, s)

/-- An object with values of one kind. -/
def map {α : Type} (d : Decoder α) : Decoder (StringMap α) := fun j s =>
  match j with
  | .obj es => (values d es s).map fun r => (.ofList r.1, r.2)
  | _ => .error .shape

/-- One of a set of names: as a string, or as the key of an object whose only value is empty. -/
def named {α : Type} (parse? : String → Option α) (isUnit : Json → Bool) : Decoder α :=
  plain fun
  | .str s => get (parse? s)
  | .obj [(k, j)] => if isUnit j then get (parse? k) else .error .shape
  | _ => .error .shape
where
  /-- Refuses an unknown name. -/
  get : Option α → Except DecodeError α
    | some a => .ok a
    | none => .error .shape

/-- Whether a value is null. -/
def isNull : Json → Bool
  | .null => true
  | _ => false

/-- Whether a value is null or an object without entries. -/
def isEmptyUnit : Json → Bool
  | .null => true
  | .obj [] => true
  | _ => false

/-- A hexadecimal identifier. -/
def hexId (n : Nat) : Decoder (HexId n) := plain fun
  | .str s => (HexId.parse n s).mapError .hex
  | _ => .error .shape

/-- An event or check-in identifier. -/
def uuid : Decoder Uuid := plain fun
  | .str s =>
    match Uuid.parse? s with
    | some u => .ok u
    | none => .error .shape
  | _ => .error .shape

/-- A project identifier. -/
def projectId : Decoder ProjectId := plain fun
  | .str s => (ProjectId.parse s).mapError .projectId
  | _ => .error .shape

/-- A point in time. -/
def instant : Decoder Instant := plain fun
  | .int n =>
    if n < 0 then .error .shape
    else match Instant.ofSeconds? n.toNat with
      | some t => .ok t
      | none => .error (.timestamp (toString n))
  | .float x =>
    match Instant.ofFloat x with
    | .instant t => .ok t
    | .invalid => .error (.timestamp (FloatLayout.message.double x))
    | .overflow => .error .overflow
  | _ => .error .shape

/-- A point in time that may be null; a number that is no point in time counts as null. -/
def optionalInstant : Decoder (Option Instant) := fun j s => do
  let (x, s) ← option float j s
  match x with
  | none => .ok (none, s)
  | some x =>
    match Instant.ofFloat x with
    | .instant t => .ok (some t, s)
    | .invalid => .ok (none, s)
    | .overflow => .error .overflow

end Decoder

/-- The payload form of a project identifier. -/
def ProjectId.json (p : ProjectId) : Json := .str p.text

end Telemetry
