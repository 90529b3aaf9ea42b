import Telemetry.Envelope
import Telemetry.Proofs.Json.Line
import Telemetry.Proofs.Json.Quote
import Telemetry.Proofs.Text.Bytes
import Telemetry.Proofs.Text.Pieces

/-! Envelopes on the wire. A reader that knows nothing of payloads takes a line for the envelope,
and then, as long as there are bytes, a line for an item, as many bytes as that line says, and a line
end. It finds the items that were written, and no byte of a payload ever ends a line. -/

namespace Telemetry.Framing

/-! ### The reader -/

/-- What a field of a header says. -/
inductive Value where
  | text (s : String)
  | number (n : Nat)
deriving DecidableEq, Repr

/-- The text that a value is. -/
def Value.text? : Value → Option String
  | .text s => some s
  | .number _ => none

/-- The number that a value is. -/
def Value.number? : Value → Option Nat
  | .text _ => none
  | .number n => some n

/-- The value at the front of a text: a string or digits. -/
def value? : List Char → Option (Value × List Char)
  | '"' :: rest =>
    (Json.Reader.string? (rest.length + 1) [] rest).map fun (s, rest) => (.text s, rest)
  | cs =>
    let digits := cs.takeWhile Char.isDigit
    if digits.isEmpty then none
    else some (.number (FloatText.digitsValue digits), cs.dropWhile Char.isDigit)

/-- The fields of a header up to its closing brace, with which the header ends. -/
def fields? : Nat → List Char → Option (List (String × Value))
  | fuel + 1, '"' :: rest => do
    let (name, rest) ← Json.Reader.string? (rest.length + 1) [] rest
    match rest with
    | ':' :: rest =>
      let (value, rest) ← value? rest
      match rest with
      | ['}'] => some [(name, value)]
      | ',' :: rest => (fields? fuel rest).map ((name, value) :: ·)
      | _ => none
    | _ => none
  | _, _ => none

/-- The fields of a header line: an object of strings and whole numbers. -/
def header? (line : List UInt8) : Option (List (String × Value)) := do
  let text ← String.fromUTF8? ⟨line.toArray⟩
  match text.toList with
  | ['{', '}'] => some []
  | '{' :: rest => fields? rest.length rest
  | _ => none

/-- The first line, and what comes after its end. -/
def line? (bytes : List UInt8) : Option (List UInt8 × List UInt8) :=
  match bytes.dropWhile (· ≠ 10) with
  | [] => none
  | _ :: rest => some (bytes.takeWhile (· ≠ 10), rest)

/-- An item as it stands on the wire. -/
structure Frame where
  typeName : String
  count : Option Nat
  payload : List UInt8
deriving DecidableEq, Repr

/-- The item at the front of some bytes. -/
def frame? (bytes : List UInt8) : Option (Frame × List UInt8) := do
  let (line, rest) ← line? bytes
  let header ← header? line
  let typeName ← (header.lookup "type").bind Value.text?
  let length ← (header.lookup "length").bind Value.number?
  let count := (header.lookup "item_count").bind Value.number?
  match rest.drop length with
  | 10 :: more => some (⟨typeName, count, rest.take length⟩, more)
  | _ => none

/-- The items until the end. -/
def frames? : Nat → List UInt8 → Option (List Frame)
  | _, [] => some []
  | 0, _ => none
  | fuel + 1, bytes => do
    let (frame, rest) ← frame? bytes
    let frames ← frames? fuel rest
    some (frame :: frames)

/-- The identifier in a header, if there is one. -/
def eventId? (header : List (String × Value)) : Option (Option Uuid) :=
  match header.lookup "event_id" with
  | none => some none
  | some value => (value.text?.bind Uuid.parse?).map some

/-- The identifier of an envelope and its items. -/
def read? (bytes : List UInt8) : Option (Option Uuid × List Frame) := do
  let (line, rest) ← line? bytes
  let header ← header? line
  let id ← eventId? header
  let frames ← frames? rest.length rest
  some (id, frames)

/-! ### Headers -/

/-- A value as it is written. -/
def Value.json : Value → Json
  | .text s => .str s
  | .number n => .int n

/-- The fields of a header as they are written. -/
def written (fields : List (String × Value)) : Json := .obj (fields.map fun f => (f.1, f.2.json))

theorem value?_json (v : Value) {c : Char} (hc : c.isDigit = false) (rest : List Char) :
    value? (v.json.render.toList ++ c :: rest) = some (v, c :: rest) := by
  cases v with
  | text s =>
    rw [Value.json, Json.render]
    obtain ⟨body, hb, hs⟩ := Json.Reader.string?_quote s (c :: rest)
    rw [hb, value?, hs]
    rfl
  | number n =>
    have digits : (Value.number n).json.render.toList = (toString n).toList := by
      rw [Value.json, Json.render]
      rfl
    rw [digits]
    have quote : ∀ body, (toString n).toList ++ c :: rest ≠ '"' :: body := by
      intro body h
      cases hn : (toString n).toList with
      | nil => exact toString_ne_nil n hn
      | cons d ds =>
        have digit : d.isDigit = true := isDigit_of_mem_toString (hn ▸ List.mem_cons_self ..)
        rw [hn, List.cons_append] at h
        injection h with hd
        subst hd
        cases digit
    rw [value?.eq_def]
    split
    · next h => exact absurd h (quote _)
    · dsimp only
      rw [takeWhile_toString n hc, dropWhile_toString n hc, digitsValue_toString, if_neg]
      rw [List.isEmpty_iff]
      exact toString_ne_nil n

theorem fields?_written {fields : List (String × Value)} (hne : fields ≠ []) {fuel : Nat}
    (hf : fields.length ≤ fuel) :
    fields? fuel ((Json.renderEntries (fields.map fun f => (f.1, f.2.json))).toList ++ ['}']) =
      some fields := by
  induction fields generalizing fuel with
  | nil => exact absurd rfl hne
  | cons f fields ih =>
    obtain ⟨name, value⟩ := f
    rw [List.length_cons] at hf
    obtain ⟨fuel, rfl⟩ : ∃ n, fuel = n + 1 := ⟨fuel - 1, by omega⟩
    cases fields with
    | nil =>
      obtain ⟨body, hb, hs⟩ :=
        Json.Reader.string?_quote name (':' :: (value.json.render.toList ++ ['}']))
      have text : (Json.renderEntries ([(name, value)].map fun f => (f.1, f.2.json))).toList ++
          ['}'] = '"' :: body := by
        rw [← hb]
        simp [Json.renderEntries]
      rw [text, fields?, hs]
      simp only [Option.bind_eq_bind, Option.bind_some]
      rw [value?_json value (by decide)]
      rfl
    | cons g fields =>
      obtain ⟨body, hb, hs⟩ := Json.Reader.string?_quote name (':' :: (value.json.render.toList ++
        ',' :: ((Json.renderEntries ((g :: fields).map fun f => (f.1, f.2.json))).toList ++ ['}'])))
      have text : (Json.renderEntries (((name, value) :: g :: fields).map
          fun f => (f.1, f.2.json))).toList ++ ['}'] = '"' :: body := by
        rw [← hb, List.map_cons, List.map_cons, Json.renderEntries_cons]
        simp
      rw [text, fields?, hs]
      simp only [Option.bind_eq_bind, Option.bind_some]
      rw [value?_json value (by decide)]
      simp only [Option.bind_some]
      rw [ih (by simp) (by omega)]
      rfl

theorem length_le_renderEntries (fields : List (String × Json)) :
    fields.length ≤ (Json.renderEntries fields).toList.length := by
  induction fields with
  | nil => simp
  | cons f fields ih =>
    obtain ⟨name, value⟩ := f
    cases fields with
    | nil =>
      simp [Json.renderEntries]
      omega
    | cons g fields =>
      simp [Json.renderEntries_cons] at ih ⊢
      omega

/-- A header is read back. -/
theorem header?_written (fields : List (String × Value)) :
    header? (written fields).render.toUTF8.toList = some fields := by
  rw [header?, fromUTF8?_bytes]
  simp only [Option.bind_eq_bind, Option.bind_some]
  cases fields with
  | nil => rfl
  | cons f fields =>
    have text : (written (f :: fields)).render.toList = '\x7b' ::
        ((Json.renderEntries ((f :: fields).map fun f => (f.1, f.2.json))).toList ++ ['\x7d']) := by
      rw [written, Json.render]
      simp
    rw [text]
    have enough := length_le_renderEntries ((f :: fields).map fun f => (f.1, f.2.json))
    rw [List.length_map, List.length_cons] at enough
    split
    · next empty =>
      -- an object with a field is not written as two braces
      have none := congrArg List.length empty
      simp only [List.length_cons, List.length_append, List.length_nil] at none
      omega
    · next full =>
      injection full with _ full
      rw [← full]
      apply fields?_written (by simp)
      rw [List.length_append, List.length_cons]
      omega
    · next other => exact absurd rfl (other _)

theorem line?_of_oneLine {s : String} (h : OneLine s) (rest : List UInt8) :
    line? ((s ++ "\n").toUTF8.toList ++ rest) = some (s.toUTF8.toList, rest) := by
  have inside : ∀ b ∈ s.toUTF8.toList, decide (b ≠ 10) = true := by
    intro b hb
    rw [decide_eq_true_eq]
    rintro rfl
    exact h (mem_of_bytes (c := '\n') (by decide) hb)
  rw [bytes_line, line?, List.dropWhile_append_of_pos inside, List.takeWhile_append_of_pos inside]
  simp

/-! ### Items -/

/-- How many records an item lists; only logs and metrics are counted. -/
def count? : Item → Option Nat
  | .logs ls => some ls.length
  | .metrics ms => some ms.length
  | _ => none

/-- An item as it is to stand on the wire, with the bytes of its JSON text. -/
def frameOf? (i : Item) : Option Frame :=
  i.payload?.map fun payload => ⟨i.typeName, count? i, payload.toUTF8.toList⟩

theorem oneLine_payload {i : Item} {payload : String} (h : i.payload? = some payload) :
    OneLine payload := by
  cases i with
  | event e | transaction e =>
    obtain ⟨j, -, rfl⟩ := Option.map_eq_some_iff.mp h
    exact Json.oneLine_render j
  | checkIn c =>
    obtain rfl : c.json.render = payload := Option.some.inj h
    exact Json.oneLine_render _
  | logs rs | metrics rs =>
    obtain ⟨js, -, rfl⟩ := Option.map_eq_some_iff.mp h
    exact Json.oneLine_render _

/-- The header of an item is an object that says its type, its number of records and its length. -/
theorem header_written (i : Item) (n : Nat) :
    ∃ fields, i.header n = written fields ∧
      (fields.lookup "type").bind Value.text? = some i.typeName ∧
      (fields.lookup "length").bind Value.number? = some n ∧
      (fields.lookup "item_count").bind Value.number? = count? i := by
  cases i with
  | event e | transaction e | checkIn c =>
    exact ⟨[("type", .text _), ("length", .number n)], rfl, rfl, rfl, rfl⟩
  | logs rs | metrics rs =>
    exact ⟨[("type", .text _), ("item_count", .number rs.length), ("content_type", .text _),
      ("length", .number n)], rfl, rfl, rfl, rfl⟩

theorem wire?_eq {i : Item} {payload : String} (h : i.payload? = some payload) :
    i.wire? = some ((i.header payload.utf8ByteSize).render ++ "\n" ++ payload ++ "\n") := by
  rw [Item.wire?, h]
  rfl

/-- An item is read off the front. -/
theorem frame?_wire (i : Item) (payload : String) (rest : List UInt8) :
    frame? (((i.header payload.utf8ByteSize).render ++ "\n" ++ payload ++ "\n").toUTF8.toList ++
      rest) = some (⟨i.typeName, count? i, payload.toUTF8.toList⟩, rest) := by
  obtain ⟨fields, written, type, length, count⟩ := header_written i payload.utf8ByteSize
  have bytes : ((i.header payload.utf8ByteSize).render ++ "\n" ++ payload ++ "\n").toUTF8.toList ++
      rest = ((i.header payload.utf8ByteSize).render ++ "\n").toUTF8.toList ++
        (payload.toUTF8.toList ++ 10 :: rest) := by
    rw [bytes_line, bytes_append, List.append_assoc]
  rw [bytes, frame?, line?_of_oneLine (Json.oneLine_render _)]
  simp only [Option.bind_eq_bind, Option.bind_some]
  rw [written, header?_written]
  simp only [Option.bind_some]
  rw [type, length, count]
  simp only [Option.bind_some]
  rw [← length_bytes, List.drop_left, List.take_left]
  rfl

/-! ### Envelopes -/

/-- The lines of some items, one item after the other. -/
inductive Laid : List Item → String → Prop
  | nil : Laid [] ""
  | cons {i : Item} {payload : String} {rest : List Item} {text : String}
      (payload_eq : i.payload? = some payload) (more : Laid rest text) :
      Laid (i :: rest)
        ((i.header payload.utf8ByteSize).render ++ "\n" ++ payload ++ "\n" ++ text)

theorem Laid.of_wire {items : List Item} {texts : List String}
    (h : items.mapM Item.wire? = some texts) : Laid items (String.join texts) := by
  induction items generalizing texts with
  | nil =>
    obtain rfl : [] = texts := Option.some.inj h
    exact .nil
  | cons i rest ih =>
    rw [List.mapM_cons] at h
    cases hp : i.payload? with
    | none =>
      rw [Item.wire?, hp] at h
      cases h
    | some payload =>
      cases hr : rest.mapM Item.wire? with
      | none =>
        rw [wire?_eq hp, hr] at h
        cases h
      | some more =>
        rw [wire?_eq hp, hr] at h
        obtain rfl := Option.some.inj h
        rw [String.join_cons]
        exact .cons hp (ih hr)

/-- The items are read off until the end; every item takes one unit of fuel. -/
theorem Laid.frames {items : List Item} {text : String} (l : Laid items text) :
    ∃ frames, items.mapM frameOf? = some frames ∧
      ∀ fuel, items.length ≤ fuel → frames? fuel text.toUTF8.toList = some frames := by
  induction l with
  | nil =>
    refine ⟨[], rfl, fun fuel _ => ?_⟩
    rw [bytes_eq]
    cases fuel <;> rfl
  | @cons i payload rest text hp _ ih =>
    obtain ⟨frames, hm, hr⟩ := ih
    have frame : frameOf? i = some ⟨i.typeName, count? i, payload.toUTF8.toList⟩ := by
      rw [frameOf?, hp]
      rfl
    refine ⟨⟨i.typeName, count? i, payload.toUTF8.toList⟩ :: frames, ?_, fun fuel hf => ?_⟩
    · rw [List.mapM_cons, frame, hm]
      rfl
    · rw [List.length_cons] at hf
      obtain ⟨fuel, rfl⟩ : ∃ n, fuel = n + 1 := ⟨fuel - 1, by omega⟩
      rw [bytes_append, frames?, frame?_wire]
      · simp only [Option.bind_eq_bind, Option.bind_some]
        rw [hr fuel (by omega)]
        rfl
      · intro empty
        have := frame?_wire i payload text.toUTF8.toList
        rw [empty] at this
        cases this

theorem Laid.length_le {items : List Item} {text : String} (l : Laid items text) :
    items.length ≤ text.toUTF8.toList.length := by
  induction l with
  | nil => simp
  | cons _ _ ih =>
    rw [bytes_append, bytes_line, List.length_append, List.length_cons, List.length_cons]
    omega

theorem splitList_line {s : String} (h : OneLine s) (rest : String) :
    splitList '\n' (s ++ "\n" ++ rest).toList = s.toList :: splitList '\n' rest.toList := by
  have text : (s ++ "\n" ++ rest).toList = s.toList ++ '\n' :: rest.toList := by simp
  rw [text, splitList_append h]

/-- Every item takes two lines. -/
theorem Laid.lines {items : List Item} {text : String} (l : Laid items text) :
    ∃ lines, splitList '\n' text.toList = lines ++ [[]] ∧ lines.length = 2 * items.length := by
  induction l with
  | nil => exact ⟨[], rfl, rfl⟩
  | @cons i payload rest text hp _ ih =>
    obtain ⟨lines, split, length⟩ := ih
    refine ⟨(i.header payload.utf8ByteSize).render.toList :: payload.toList :: lines, ?_, ?_⟩
    · rw [String.append_assoc, String.append_assoc, splitList_line (Json.oneLine_render _),
        ← String.append_assoc, splitList_line (oneLine_payload hp), split]
      rfl
    · simp only [List.length_cons, length]
      omega

/-- The header of an envelope says its identifier, or nothing. -/
theorem envelope_header_written (e : Envelope) :
    ∃ fields, e.header = written fields ∧ eventId? fields = some e.id := by
  obtain ⟨id, items⟩ := e
  cases id with
  | none => exact ⟨[], rfl, rfl⟩
  | some id =>
    refine ⟨[("event_id", .text id.text)], rfl, ?_⟩
    show (Option.bind (some id.text) Uuid.parse?).map some = _
    rw [Option.bind_some, Uuid.parse?_text]
    rfl

/-- What an envelope is written as can be read in one way only. The reader finds the identifier and,
item by item, the type, the number of records and the bytes of the JSON text. No header and no
payload has a line break, so that `n` items make `1 + 2 * n` lines, each of them ended. -/
theorem wire_unambiguous (e : Envelope) (text : String) (h : e.wire? = some text) :
    (∃ frames, e.items.mapM frameOf? = some frames ∧
      read? text.toUTF8.toList = some (e.id, frames)) ∧
    (∀ i ∈ e.items, ∀ payload, i.payload? = some payload →
      OneLine payload ∧ ∀ n, OneLine (i.header n).render) ∧
    ∃ lines, splitList '\n' text.toList = e.header.render.toList :: lines ++ [[]] ∧
      (e.header.render.toList :: lines).length = 1 + 2 * e.items.length := by
  rw [Envelope.wire?] at h
  cases hw : e.items.mapM Item.wire? with
  | none =>
    rw [hw] at h
    cases h
  | some texts =>
    rw [hw] at h
    obtain rfl := Option.some.inj h
    have laid := Laid.of_wire hw
    obtain ⟨frames, hm, read⟩ := laid.frames
    obtain ⟨fields, written, id⟩ := envelope_header_written e
    refine ⟨⟨frames, hm, ?_⟩, fun i _ payload hp => ⟨oneLine_payload hp, fun n =>
      Json.oneLine_render _⟩, ?_⟩
    · rw [bytes_append, read?, line?_of_oneLine (Json.oneLine_render _)]
      simp only [Option.bind_eq_bind, Option.bind_some]
      rw [written, header?_written]
      simp only [Option.bind_some]
      rw [id]
      simp only [Option.bind_some]
      rw [read _ laid.length_le]
      rfl
    · obtain ⟨lines, split, length⟩ := laid.lines
      refine ⟨lines, ?_, ?_⟩
      · rw [splitList_line (Json.oneLine_render _), split]
        rfl
      · rw [List.length_cons, length]
        omega

/-- A check-in whose name has a line break, a quote and a letter of two bytes, and a log. -/
theorem wire_unambiguous_line_break :
    let e := Envelope.ofItems [
      .checkIn ⟨.nil, "a\n\"é", .ok, none, none, none⟩, .logs [.make .warn "b\x00" .epoch]]
    ∃ text frames, e.wire? = some text ∧ read? text.toUTF8.toList = some (none, frames) ∧
      frames.map (fun f => (f.typeName, f.count, f.payload.length)) =
        [("check_in", none, 89), ("log", some 1, 59)] := by
  intro e
  have written : e.wire?.isSome = true := by decide +kernel
  obtain ⟨text, h⟩ := Option.isSome_iff_exists.mp written
  obtain ⟨⟨frames, hm, read⟩, -⟩ := wire_unambiguous e text h
  have found : (e.items.mapM frameOf?).map
      (·.map fun f => (f.typeName, f.count, f.payload.length)) =
        some [("check_in", none, 89), ("log", some 1, 59)] := by decide +kernel
  rw [hm] at found
  exact ⟨text, frames, h, read, Option.some.inj found⟩

end Telemetry.Framing
