import Telemetry.Number.Reader

/-! Project identifiers: one or more ASCII letters, digits, hyphens and underscores. -/

namespace Telemetry

/-- Why a text is no project identifier. -/
inductive ProjectIdError where
  | invalidValue
  | emptyValue
deriving DecidableEq, Repr

/-- The wording of an identifier's error. -/
def ProjectIdError.message : ProjectIdError → String
  | .invalidValue => "invalid value for project id"
  | .emptyValue => "empty or missing project id"

/-- The characters of a project identifier. -/
def isProjectIdChar (c : Char) : Bool := c.isAlphanum || c == '-' || c == '_'

/-- A project identifier. -/
structure ProjectId where
  text : String
deriving DecidableEq, Repr, Inhabited

namespace ProjectId

/-- Reads an identifier. -/
def parse (s : String) : Except ProjectIdError ProjectId :=
  if s.isEmpty then .error .emptyValue
  else if s.toList.all isProjectIdChar then .ok ⟨s⟩
  else .error .invalidValue

/-- An identifier that was read is the text itself. -/
theorem of_parse {s : String} {p : ProjectId} (h : parse s = .ok p) :
    p.text = s ∧ s.isEmpty = false ∧ s.toList.all isProjectIdChar = true := by
  unfold parse at h
  split at h
  · cases h
  · next full =>
    split at h
    · next valid =>
      cases h
      exact ⟨rfl, by simpa using full, valid⟩
    · cases h

/-- The identifier of a number. -/
def ofNat (n : UInt64) : ProjectId := ⟨toString n.toNat⟩

/-- The number an identifier stands for, if it is one of 64 bits. -/
def value? (p : ProjectId) : Option Nat :=
  let cs := p.text.toList
  if !cs.isEmpty && cs.all Char.isDigit then
    let n := FloatText.digitsValue cs
    if n < UInt64.size then some n else none
  else none

end ProjectId

end Telemetry
