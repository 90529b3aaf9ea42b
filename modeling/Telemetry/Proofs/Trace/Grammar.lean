import Telemetry.Proofs.Text.Spelling
import Telemetry.Proofs.Trace.Header

/-! The grammar of trace headers. A text is one if what is left of it without white space at its
ends is 32 digits, a hyphen, 16 digits, and then nothing, or a hyphen and any text. -/

namespace Telemetry.TraceHeader

/-- A part that may be missing, behind its hyphen. -/
def hyphened : Option (List Char) → List Char
  | some part => '-' :: part
  | none => []

/-- What a flag decides: only two texts decide anything. -/
inductive Decides : Option (List Char) → Option Bool → Prop
  | missing : Decides none none
  | yes : Decides (some ['1']) (some true)
  | no : Decides (some ['0']) (some false)
  | other {flag : List Char} (yes : flag ≠ ['1']) (no : flag ≠ ['0']) : Decides (some flag) none

/-- A text without white space at its ends is a header. Its digits may be in either case. -/
inductive Spells : List Char → TraceHeader → Prop
  | mk {trace span : List Char} {flag : Option (List Char)} {h : TraceHeader}
      (traceId : List.Forall₂ WritesDigit trace h.traceId.digits)
      (spanId : List.Forall₂ WritesDigit span h.spanId.digits)
      (sampled : Decides flag h.sampled) : Spells (trace ++ '-' :: (span ++ hyphened flag)) h

/-! ### Reading -/

theorem splitHyphen_eq_iff {cs part : List Char} {rest : Option (List Char)} :
    splitHyphen cs = (part, rest) ↔ cs = part ++ hyphened rest ∧ ∀ c ∈ part, c ≠ '-' := by
  constructor
  · rintro ⟨⟩
    refine ⟨?_, fun c hc => by simpa using List.mem_takeWhile_imp hc⟩
    have whole : cs = cs.takeWhile (· ≠ '-') ++ cs.dropWhile (· ≠ '-') :=
      List.takeWhile_append_dropWhile.symm
    have first := List.head?_dropWhile_not (· ≠ '-') cs
    refine whole.trans (congrArg _ ?_)
    cases back : cs.dropWhile (· ≠ '-') with
    | nil => rfl
    | cons c rest =>
      rw [back] at first
      obtain rfl : c = '-' := by simpa using first
      rfl
  · rintro ⟨rfl, plain⟩
    cases rest with
    | none => simpa [hyphened] using splitHyphen_all plain
    | some rest => exact splitHyphen_append plain rest

theorem ne_hyphen {c : Char} {d : Fin 16} (h : WritesDigit c d) : c ≠ '-' := by
  obtain rfl | rfl := h <;> revert d <;> decide

theorem splitHyphen_digits {cs : List Char} {ds : List (Fin 16)}
    (h : List.Forall₂ WritesDigit cs ds) (rest : Option (List Char)) :
    splitHyphen (cs ++ hyphened rest) = (cs, rest) := by
  refine splitHyphen_eq_iff.mpr ⟨rfl, ?_⟩
  induction h with
  | nil => exact fun _ h => nomatch h
  | cons digit _ ih => exact List.forall_mem_cons.mpr ⟨ne_hyphen digit, ih⟩

theorem id?_eq_some_iff {n : Nat} (even : n % 2 = 0) {cs : List Char} {i : HexId n} :
    id? n cs = some i ↔ List.Forall₂ WritesDigit cs i.digits := by
  have parsed := HexId.parse_eq_ok_iff even (s := String.ofList cs) (i := i)
  rw [String.toList_ofList] at parsed
  rw [← parsed, id?]
  cases HexId.parse n (String.ofList cs) <;> simp

theorem decides_iff {flag : Option (List Char)} {sampled : Option Bool} :
    Decides flag sampled ↔ flag.bind decision = sampled := by
  constructor
  · intro h
    cases h with
    | missing | yes | no => rfl
    | other yes no => rw [Option.bind_some, decision, if_neg yes, if_neg no]
  · rintro rfl
    cases flag with
    | none => exact .missing
    | some flag =>
      rw [Option.bind_some, decision]
      split
      · next yes =>
        rw [yes]
        exact .yes
      · next yes =>
        split
        · next no =>
          rw [no]
          exact .no
        · next no => exact .other yes no

theorem parse?_eq_some_iff {s : String} {h : TraceHeader} :
    parse? s = some h ↔ Spells (trimList isBlank s.toList) h := by
  generalize cut : trimList isBlank s.toList = cs
  rw [parse?, cut]
  constructor
  · intro read
    cases front : splitHyphen cs with
    | mk trace rest =>
      simp only [front, Option.bind_eq_bind, Option.bind_eq_some_iff] at read
      obtain ⟨traceId, first, rest, rfl, spanId, second, made⟩ := read
      obtain ⟨rfl, -⟩ := splitHyphen_eq_iff.mp front
      cases back : splitHyphen rest with
      | mk span flag =>
        rw [back] at second made
        cases made
        obtain ⟨rfl, -⟩ := splitHyphen_eq_iff.mp back
        exact .mk ((id?_eq_some_iff rfl).mp first) ((id?_eq_some_iff rfl).mp second)
          (decides_iff.mpr rfl)
  · intro spelt
    cases spelt with
    | @mk trace span flag _ traceId spanId sampled =>
      have front : splitHyphen (trace ++ '-' :: (span ++ hyphened flag)) =
          (trace, some (span ++ hyphened flag)) := splitHyphen_digits traceId (some _)
      simp only [front, splitHyphen_digits spanId, (id?_eq_some_iff rfl).mpr traceId,
        (id?_eq_some_iff rfl).mpr spanId, decides_iff.mp sampled, Option.bind_eq_bind,
        Option.bind_some]
      rfl

/-! ### Normal form -/

/-- What is kept of the flag and its hyphen: a decision, and nothing else. -/
def keptFlag (flag : List Char) : List Char :=
  if flag = ['-', '1'] ∨ flag = ['-', '0'] then flag else []

/-- The normal form of a header: its identifiers in lower case, and of what follows only a
decision. -/
def normal (cs : List Char) : List Char :=
  (cs.take 49).map Char.toLower ++ keptFlag (cs.drop 49)

theorem map_toLower_digits {n : Nat} {cs : List Char} {i : HexId n}
    (h : List.Forall₂ WritesDigit cs i.digits) : cs.map Char.toLower = digits i := by
  rw [digits]
  generalize i.digits = ds at h ⊢
  induction h with
  | nil => rfl
  | cons digit _ ih => rw [List.map_cons, List.map_cons, digit.toLower, ih]

theorem flag_eq {rest : Option (List Char)} {sampled : Option Bool} (h : Decides rest sampled) :
    flag sampled = keptFlag (hyphened rest) := by
  cases h with
  | missing | yes | no => rfl
  | other yes no => simp [keptFlag, hyphened, flag, yes, no]

theorem Spells.normal {cs : List Char} {h : TraceHeader} (spelt : Spells cs h) :
    normal cs = h.text.toList := by
  cases spelt with
  | @mk trace span rest _ traceId spanId sampled =>
    have long : (trace ++ '-' :: span).length = 49 := by
      simp [traceId.length_eq, spanId.length_eq, h.traceId.length_eq, h.spanId.length_eq]
    have parts : trace ++ '-' :: (span ++ hyphened rest) =
        trace ++ '-' :: span ++ hyphened rest := by simp
    rw [TraceHeader.normal, parts, List.take_left' long, List.drop_left' long, toList_text,
      flag_eq sampled, ← map_toLower_digits traceId, ← map_toLower_digits spanId]
    simp

/-- What is read as a header, and as which one; that every header is read from its own text; and
that this text is the normal form of whatever else the header is read from. -/
theorem parse?_grammar :
    (∀ s h, parse? s = some h ↔ ∃ core, Trimmed isBlank s.toList core ∧ Spells core h) ∧
    (∀ h : TraceHeader, parse? h.text = some h) ∧
    ∀ s h core, parse? s = some h → Trimmed isBlank s.toList core →
      h.text.toList = normal core ∧ parse? h.text = some h := by
  refine ⟨fun s h => ?_, parse?_text, fun s h core read trimmed => ?_⟩
  · rw [parse?_eq_some_iff]
    constructor
    · exact fun spelt => ⟨_, trimmed_iff.mpr rfl, spelt⟩
    · rintro ⟨core, trimmed, spelt⟩
      rwa [trimmed_iff.mp trimmed]
  · rw [parse?_eq_some_iff, trimmed_iff.mp trimmed] at read
    exact ⟨read.normal.symm, parse?_text h⟩

/-- Capitals, white space around the value, and a flag that decides nothing. -/
theorem parse?_grammar_capitals :
    let s := " 09E04486820349518AC7B5D2ADBF6BA5-9cf635fa5b870b3A-01\n"
    let core := "09E04486820349518AC7B5D2ADBF6BA5-9cf635fa5b870b3A-01".toList
    let h : TraceHeader :=
      ⟨.ofNat 32 0x09e04486820349518ac7b5d2adbf6ba5, .ofNat 16 0x9cf635fa5b870b3a, none⟩
    parse? s = some h ∧ Trimmed isBlank s.toList core ∧
      h.text.toList = "09e04486820349518ac7b5d2adbf6ba5-9cf635fa5b870b3a".toList ∧
      parse? h.text = some h := by
  intro s core h
  have trimmed : Trimmed isBlank s.toList core := trimmed_iff.mpr (by decide)
  have parts : core = "09E04486820349518AC7B5D2ADBF6BA5".toList ++
      '-' :: ("9cf635fa5b870b3A".toList ++ hyphened (some ['0', '1'])) := by decide
  have spelt : Spells core h := by
    rw [parts]
    exact .mk (by decide) (by decide) (.other (by decide) (by decide))
  have read : parse? s = some h := (parse?_grammar.1 s h).mpr ⟨core, trimmed, spelt⟩
  have normal := parse?_grammar.2.2 s h core read trimmed
  exact ⟨read, trimmed, normal.1.trans (by decide), normal.2⟩

end Telemetry.TraceHeader
