import Telemetry.Proofs.Payload.Decoded

/-! Which objects pass for a trace context. A trace context need not say anything, so an object is
one unless it holds, under the name of one of its fields, a value that the field cannot have. A
context is read back from what is written of it unless it is some other object that passes for a
trace context: that is read as one, of new identifiers, and what it said is lost. -/

namespace Telemetry

variable {α β : Type}

theorem exists_map_ok {ε : Type} {x : Except ε α} {f : α → β} :
    (∃ b, x.map f = .ok b) ↔ ∃ a, x = .ok a := by
  cases x <;> simp [Except.map]

theorem exists_mapError_ok {ε ε' : Type} {x : Except ε α} {f : ε → ε'} :
    (∃ a, x.mapError f = .ok a) ↔ ∃ a, x = .ok a := by
  cases x <;> simp [Except.mapError]

/-- A decoder accepts a value, whatever is drawn. -/
def Decoder.Takes (d : Decoder α) (j : Json) : Prop := ∀ s, ∃ r, d j s = .ok r

/-- A field accepts a record, whatever is drawn. -/
def Field.Takes (f : Field α) (fs : Fields) : Prop := ∀ s, ∃ r, f fs s = .ok r

/-! ### Fields -/

namespace Field

theorem takes_seq (f : Field (β → α)) {x : Field β} (hx : x.Steady) (fs : Fields) :
    (f <*> x).Takes fs ↔ f.Takes fs ∧ x.Takes fs := by
  constructor
  · intro h
    refine ⟨fun s => ?_, fun s => ?_⟩
    all_goals
      obtain ⟨⟨a, s'⟩, ha⟩ := h s
      obtain ⟨g, b, s'', hg, hb, -⟩ := seq_eq_ok ha
    · exact ⟨_, hg⟩
    · exact hx fs fs s'' s _ (fun _ => rfl) hb
  · rintro ⟨hf, hx⟩ s
    obtain ⟨⟨g, s'⟩, hg⟩ := hf s
    obtain ⟨⟨b, s''⟩, hb⟩ := hx s'
    refine ⟨(g b, s''), ?_⟩
    show Field.seq f x fs s = _
    simp only [Field.seq, hg, hb]

theorem takes_map (g : β → α) {x : Field β} (hx : x.Steady) (fs : Fields) :
    (g <$> x).Takes fs ↔ x.Takes fs :=
  (takes_seq (Field.pure g) hx fs).trans (and_iff_right fun s => ⟨(g, s), rfl⟩)

theorem steady_drawn (name : String) {d : Decoder α} (hd : d.Steady) (draw : Fresh → α × Fresh) :
    (drawn name d draw).Steady := .orElse hd name draw

theorem steady_defaulted (name : String) {d : Decoder α} (hd : d.Steady) (value : α) :
    (defaulted name d value).Steady := .orElse hd name fun s => (value, s)

/-- A field that may be absent accepts a record unless its value is there and is refused. -/
theorem takes_drawn (name : String) (d : Decoder α) (draw : Fresh → α × Fresh) (fs : Fields) :
    (drawn name d draw).Takes fs ↔ ∀ j, fs.entries.lookup name = some j → d.Takes j := by
  constructor
  · intro h j hj s
    obtain ⟨r, hr⟩ := h s
    rcases orElse_eq_ok hr with ⟨j', hj', hr'⟩ | ⟨hn, -⟩
    · rw [hj] at hj'
      cases hj'
      exact ⟨r, hr'⟩
    · rw [hj] at hn
      cases hn
  · intro h s
    cases hfind : find? fs name with
    | none => exact ⟨draw s, by simp only [drawn, orElse, hfind]⟩
    | some found =>
      have accepted := h found.2 (by rw [← find?_snd, hfind]; rfl) s
      simp only [drawn, orElse, hfind]
      exact exists_mapError_ok.mpr accepted

theorem takes_defaulted (name : String) (d : Decoder α) (value : α) (fs : Fields) :
    (defaulted name d value).Takes fs ↔ ∀ j, fs.entries.lookup name = some j → d.Takes j :=
  takes_drawn name d (fun s => (value, s)) fs

end Field

/-! ### Values -/

namespace Decoder

theorem takes_plain (f : Json → Except DecodeError α) (j : Json) :
    (plain f).Takes j ↔ ∃ a, f j = .ok a :=
  ⟨fun h => exists_map_ok.mp (h ⟨.epoch, id, 0⟩), fun h _ => exists_map_ok.mpr h⟩

theorem takes_option (d : Decoder α) (j : Json) :
    (option d).Takes j ↔ j = .null ∨ d.Takes j := by
  by_cases hj : j = .null
  · subst hj
    exact iff_of_true (fun s => ⟨_, rfl⟩) (.inl rfl)
  · rw [or_iff_right hj]
    refine forall_congr' fun s => ?_
    rw [option_of_ne_null d hj]
    exact exists_map_ok

theorem takes_string (j : Json) : string.Takes j ↔ ∃ s, j = .str s := by
  rw [string, takes_plain]
  cases j <;> simp

theorem takes_hexId (n : Nat) (j : Json) :
    (hexId n).Takes j ↔ ∃ s i, j = .str s ∧ HexId.parse n s = .ok i := by
  rw [hexId, takes_plain]
  cases j with
  | str s =>
    cases hs : HexId.parse n s <;> simp [hs, Except.mapError]
  | _ => simp

theorem takes_record (names : List String) (f : Field α) (es : List (String × Json)) :
    (record names f).Takes (.obj es) ↔ f.Takes ⟨es, false⟩ :=
  forall_congr' fun _ => exists_mapError_ok

theorem takes_map_value (j : Json) : (map value).Takes j ↔ ∃ es, j = .obj es := by
  cases j with
  | obj es =>
    refine iff_of_true (fun s => ?_) ⟨es, rfl⟩
    simp only [map, values_value]
    exact ⟨_, rfl⟩
  | _ =>
    refine iff_of_false (fun h => ?_) nofun
    obtain ⟨_, ⟨⟩⟩ := h ⟨.epoch, id, 0⟩

end Decoder

/-- A status is its name, or an object with just that name and no value. -/
theorem SpanStatus.takes_decode (j : Json) :
    decode.Takes j ↔ ∃ t : SpanStatus, j = .str t.name ∨ j = .obj [(t.name, .null)] := by
  have known (s : String) (a : SpanStatus) (h : Decoder.named.get (parse? s) = .ok a) :
      a.name = s := by
    unfold Decoder.named.get at h
    split at h
    · next t ht =>
      cases h
      simpa using List.find?_some ht
    · cases h
  rw [decode, Decoder.named, Decoder.takes_plain]
  constructor
  · rintro ⟨t, ht⟩
    split at ht
    · next s => exact ⟨t, .inl (congrArg Json.str (known s t ht).symm)⟩
    · next k j =>
      split at ht
      · next hj =>
        obtain rfl : j = .null := by cases j <;> simp_all [Decoder.isNull]
        exact ⟨t, .inr (by rw [known k t ht])⟩
      · cases ht
    · cases ht
  · rintro ⟨t, rfl | rfl⟩
    · exact ⟨t, by simp only [parse?_name, Decoder.named.get]⟩
    · exact ⟨t, by simp only [parse?_name, Decoder.named.get, Decoder.isNull, if_true]⟩

/-! ### Trace contexts -/

/-- Nothing that an object says is at odds with its being a trace context. -/
structure TraceContext.Fits (m : StringMap Json) : Prop where
  spanId : ∀ j, m.get? "span_id" = some j → ∃ s i, j = .str s ∧ HexId.parse 16 s = .ok i
  traceId : ∀ j, m.get? "trace_id" = some j → ∃ s i, j = .str s ∧ HexId.parse 32 s = .ok i
  parentSpanId : ∀ j, m.get? "parent_span_id" = some j →
    j = .null ∨ ∃ s i, j = .str s ∧ HexId.parse 16 s = .ok i
  op : ∀ j, m.get? "op" = some j → j = .null ∨ ∃ s, j = .str s
  description : ∀ j, m.get? "description" = some j → j = .null ∨ ∃ s, j = .str s
  status : ∀ j, m.get? "status" = some j →
    j = .null ∨ ∃ t : SpanStatus, j = .str t.name ∨ j = .obj [(t.name, .null)]
  data : ∀ j, m.get? "data" = some j → ∃ es, j = .obj es

theorem StringMap.json_id (m : StringMap Json) : m.json id = .obj m.entries := by
  simp [json, Json.entries]

theorem TraceContext.takes_iff_fits (m : StringMap Json) :
    decode.Takes (m.json id) ↔ Fits m := by
  have hexId (n : Nat) : (Decoder.hexId n).Steady := Decoder.steady_plain _
  have string : Decoder.string.option.Steady := (Decoder.steady_plain _).option
  have status : SpanStatus.decode.option.Steady := (Decoder.steady_plain _).option
  rw [StringMap.json_id, decode, Decoder.takes_record,
    Field.takes_seq _ (Field.steady_defaulted _ Decoder.steady_map_value _),
    Field.takes_seq _ (Field.steady_defaulted _ status _),
    Field.takes_seq _ (Field.steady_defaulted _ string _),
    Field.takes_seq _ (Field.steady_defaulted _ string _),
    Field.takes_seq _ (Field.steady_defaulted _ (hexId 16).option _),
    Field.takes_seq _ (Field.steady_drawn _ (hexId 32) _),
    Field.takes_map _ (Field.steady_drawn _ (hexId 16) _)]
  simp only [Field.takes_defaulted, Field.takes_drawn, Decoder.takes_option, Decoder.takes_string,
    Decoder.takes_hexId, SpanStatus.takes_decode, Decoder.takes_map_value]
  constructor
  · rintro ⟨⟨⟨⟨⟨⟨spanId, traceId⟩, parentSpanId⟩, op⟩, description⟩, status⟩, data⟩
    exact ⟨spanId, traceId, parentSpanId, op, description, status, data⟩
  · rintro ⟨spanId, traceId, parentSpanId, op, description, status, data⟩
    exact ⟨⟨⟨⟨⟨⟨spanId, traceId⟩, parentSpanId⟩, op⟩, description⟩, status⟩, data⟩

/-! ### Contexts -/

namespace Context

/-- A context without the sampling decision, which is never sent. -/
def unsampled : Context → Context
  | .trace t => .trace { t with sampled := none }
  | .other m => .other m

/-- A context says what it is: as a trace context, or as an object that does not pass for one. -/
def Distinguishable : Context → Prop
  | .trace _ => True
  | .other m => ¬ TraceContext.Fits m

/-- A context is read back from what is written of it, but for the sampling decision, exactly if it
says what it is. -/
theorem survives_iff (c : Context) : decode.Reads c.json c.unsampled ↔ c.Distinguishable := by
  cases c with
  | trace t =>
    have sound : TraceContext.Sound { t with sampled := none } := rfl
    exact iff_of_true (fun s => decode_trace (TraceContext.reads sound s)) trivial
  | other m =>
    constructor
    · intro reads fits
      obtain ⟨⟨t, s'⟩, ht⟩ := (TraceContext.takes_iff_fits m).mpr fits ⟨.epoch, id, 0⟩
      have other := (decode_trace ht).symm.trans (reads ⟨.epoch, id, 0⟩)
      cases other
    · intro unfit
      refine reads fun s r hr => unfit ((TraceContext.takes_iff_fits m).mp fun s' => ?_)
      rw [StringMap.json_id] at hr ⊢
      exact TraceContext.steady (fun _ => rfl) hr

/-- The name of a system is lost: nothing that a trace context can say is written as that object,
and yet it is read as a trace context of new identifiers. -/
theorem name_lost :
    let m : StringMap Json := .ofList [("name", .str "linux")]
    (∀ t : TraceContext, t.json ≠ m.json id) ∧
      ∀ s, decode (json (.other m)) s =
        .ok (.trace (TraceContext.fresh s).1, (TraceContext.fresh s).2) := by
  refine ⟨fun t h => ?_, fun s => decode_trace rfl⟩
  have first : (t.json.field? "span_id").isSome := rfl
  rw [h] at first
  exact absurd first (by decide)

end Context

end Telemetry
