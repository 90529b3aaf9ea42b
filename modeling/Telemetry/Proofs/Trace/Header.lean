import Telemetry.Proofs.Text.Hex
import Telemetry.Proofs.Text.Pieces
import Telemetry.Trace.Header

/-! Trace headers read back from their text. The digits of an identifier are neither hyphens nor white
space, so the hyphens of the text are those between its parts. -/

namespace Telemetry

theorem hexDigit_plain (d : Fin 16) : hexDigit d ≠ '-' ∧ isBlank (hexDigit d) = false := by
  revert d
  decide

namespace TraceHeader

theorem splitHyphen_append {cs : List Char} (h : ∀ c ∈ cs, c ≠ '-') (rest : List Char) :
    splitHyphen (cs ++ '-' :: rest) = (cs, some rest) := by
  have front : (cs ++ '-' :: rest).takeWhile (· ≠ '-') = cs := by
    rw [List.takeWhile_append_of_pos (by simpa using h)]
    simp
  have back : (cs ++ '-' :: rest).dropWhile (· ≠ '-') = '-' :: rest := by
    rw [List.dropWhile_append_of_pos (by simpa using h)]
    simp
  rw [splitHyphen, front, back]

theorem splitHyphen_all {cs : List Char} (h : ∀ c ∈ cs, c ≠ '-') :
    splitHyphen cs = (cs, none) := by
  have front : cs.takeWhile (· ≠ '-') = cs := List.takeWhile_eq_self_iff.mpr (by simpa using h)
  have back : cs.dropWhile (· ≠ '-') = [] := List.dropWhile_eq_nil_iff.mpr (by simpa using h)
  rw [splitHyphen, front, back]

/-- The digits of an identifier. -/
def digits {n : Nat} (i : HexId n) : List Char := i.digits.map hexDigit

theorem digits_plain {n : Nat} (i : HexId n) :
    ∀ c ∈ digits i, c ≠ '-' ∧ isBlank c = false := by
  intro c hc
  obtain ⟨d, -, rfl⟩ := List.mem_map.mp hc
  exact hexDigit_plain d

theorem id?_digits {n : Nat} (i : HexId n) (even : n % 2 = 0) : id? n (digits i) = some i := by
  rw [id?, show String.ofList (digits i) = i.text from rfl, i.parse_text even]

/-- The hyphen and the digit of a decision, if there is one. -/
def flag : Option Bool → List Char
  | some b => ['-', if b then '1' else '0']
  | none => []

theorem toList_text (h : TraceHeader) :
    h.text.toList = digits h.traceId ++ '-' :: (digits h.spanId ++ flag h.sampled) := by
  obtain ⟨traceId, spanId, sampled⟩ := h
  rcases sampled with _ | _ | _ <;>
    simp [text, flag, flagText, HexId.text, digits, String.toList_append]

theorem flag_plain {sampled : Option Bool} {c : Char} (hc : c ∈ flag sampled) :
    isBlank c = false := by
  rcases sampled with _ | _ | _
  · cases hc
  · obtain rfl | rfl : c = '-' ∨ c = '0' := by simpa [flag] using hc
    all_goals decide
  · obtain rfl | rfl : c = '-' ∨ c = '1' := by simpa [flag] using hc
    all_goals decide

theorem trim_text (h : TraceHeader) : trimList isBlank h.text.toList = h.text.toList := by
  apply trimList_eq_self
  intro c hc
  rw [toList_text, List.mem_append, List.mem_cons, List.mem_append] at hc
  rcases hc with trace | rfl | span | flagged
  · exact (digits_plain h.traceId c trace).2
  · decide
  · exact (digits_plain h.spanId c span).2
  · exact flag_plain flagged

/-- A trace header says what it was made of. -/
theorem parse?_text (h : TraceHeader) : parse? h.text = some h := by
  have trace : ∀ c ∈ digits h.traceId, c ≠ '-' := fun c hc => (digits_plain _ c hc).1
  have span : ∀ c ∈ digits h.spanId, c ≠ '-' := fun c hc => (digits_plain _ c hc).1
  rw [parse?, trim_text, toList_text, splitHyphen_append trace]
  simp only [id?_digits h.traceId rfl, Option.bind_eq_bind, Option.bind_some]
  obtain ⟨traceId, spanId, sampled⟩ := h
  cases sampled with
  | none =>
    simp only [flag, List.append_nil, splitHyphen_all span]
    simp [id?_digits]
  | some b =>
    simp only [flag, splitHyphen_append span]
    cases b <;> simp [id?_digits, decision]

end TraceHeader

namespace TransactionContext

theorem lowerAscii_name : lowerAscii TraceHeader.name = TraceHeader.name := by
  rw [← String.toList_inj, lowerAscii, String.toList_map]
  decide

theorem traceHeader?_headers (h : TraceHeader) : traceHeader? h.headers = some h := by
  rw [TraceHeader.headers, traceHeader?, List.foldl_cons, if_pos lowerAscii_name, List.foldl_nil,
    TraceHeader.parse?_text]

/-- None of these headers is the trace header, in whatever letters its name is written. -/
def Others (hs : List (String × String)) : Prop := ∀ e ∈ hs, lowerAscii e.1 ≠ TraceHeader.name

/-- Other headers leave what was found before them. -/
theorem traceHeader?_append_others (hs : List (String × String)) {others : List (String × String)}
    (h : Others others) : traceHeader? (hs ++ others) = traceHeader? hs := by
  unfold traceHeader?
  rw [List.foldl_append]
  generalize hs.foldl _ none = found
  induction others with
  | nil => rfl
  | cons e es ih =>
    rw [List.foldl_cons, if_neg (h e (List.mem_cons_self ..))]
    exact ih fun e he => h e (List.mem_cons_of_mem _ he)

theorem traceHeader?_others_append {others : List (String × String)} (h : Others others)
    (hs : List (String × String)) : traceHeader? (others ++ hs) = traceHeader? hs := by
  have none : traceHeader? others = none := traceHeader?_append_others [] h
  unfold traceHeader? at none ⊢
  rw [List.foldl_append, none]

/-- Whoever gets the headers that a trace is handed on with continues that trace. -/
theorem ofHeaders_headers (name operation : String) (h : TraceHeader) (s : Fresh) :
    ofHeaders name operation h.headers s = (continuing name operation h, s) := by
  rw [ofHeaders, traceHeader?_headers]

end TransactionContext

end Telemetry
