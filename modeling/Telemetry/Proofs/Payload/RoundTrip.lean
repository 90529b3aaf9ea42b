import Telemetry.Proofs.Payload.Decoded

/-! Decoding undoes encoding on whatever was decoded, for every record of the payload format. -/

namespace Telemetry

/-- Whatever was decoded and is timely can be encoded, and decoding the result gives it again and
draws nothing. -/
def Survives {α : Type} (decode : Decoder α) (encode : α → Option Json) (timely : α → Prop) :
    Prop :=
  ∀ v s x s', v.Distinct → decode v s = .ok (x, s') → timely x →
    ∃ j, encode x = some j ∧ ∀ t, decode j t = .ok (x, t)

variable {α : Type} {decode : Decoder α} {timely sound : α → Prop}

theorem survives_of_yields {encode : α → Option Json} (hy : decode.Yields sound)
    (hr : ∀ x, sound x → timely x → ∃ j, encode x = some j ∧ decode.Reads j x) :
    Survives decode encode timely :=
  fun v s x s' hv h ht => hr x (hy v s x s' hv h) ht

/-- What holds of all values holds of those that were decoded. -/
theorem survives_of_reads {encode : α → Option Json}
    (hr : ∀ x, timely x → ∃ j, encode x = some j ∧ decode.Reads j x) :
    Survives decode encode timely := fun _ _ x _ _ _ ht => hr x ht

theorem survives_of_inverts {json : α → Json} (h : decode.Inverts json) :
    Survives decode (fun x => some (json x)) fun _ => True :=
  survives_of_reads fun x _ => ⟨json x, rfl, (h x).2⟩

/-- Every payload survives being written and read again: events, breadcrumbs and spans if their
times are whole seconds, those that may be absent below `2 ^ 53`, and all others as they are. -/
theorem decoded_survives :
    Survives Event.decode Event.json? Event.Timely ∧
    Survives Breadcrumb.decode Breadcrumb.json? Breadcrumb.Timely ∧
    Survives User.decode (fun u => some u.json) (fun _ => True) ∧
    Survives Request.decode (fun r => some r.json) (fun _ => True) ∧
    Survives Frame.decode (fun f => some f.json) (fun _ => True) ∧
    Survives Stacktrace.decode (fun t => some t.json) (fun _ => True) ∧
    Survives Mechanism.decode (fun m => some m.json) (fun _ => True) ∧
    Survives Exception.decode (fun e => some e.json) (fun _ => True) ∧
    Survives Context.decode (fun c => some c.json) (fun _ => True) ∧
    Survives SdkInfo.decode (fun i => some i.json) (fun _ => True) ∧
    Survives Span.decode Span.json? Span.Timely ∧
    Survives TraceContext.decode (fun t => some t.json) (fun _ => True) ∧
    Survives CheckIn.decode (fun c => some c.json) (fun _ => True) ∧
    Survives MonitorConfig.decode (fun c => some c.json) (fun _ => True) ∧
    Survives MonitorSchedule.decode (fun t => some t.json) (fun _ => True) ∧
    Survives Decoder.projectId (fun p => some p.json) fun _ => True := by
  refine ⟨?event, ?breadcrumb, ?user, survives_of_inverts Request.inverts,
    survives_of_inverts Frame.inverts, survives_of_inverts Stacktrace.inverts,
    survives_of_inverts Mechanism.inverts, survives_of_inverts Exception.inverts, ?context,
    survives_of_inverts SdkInfo.inverts, ?span, ?trace, survives_of_inverts CheckIn.inverts,
    survives_of_inverts MonitorConfig.inverts, survives_of_inverts MonitorSchedule.inverts,
    ?projectId⟩
  case event => exact survives_of_yields Event.yields fun e sound timely => Event.reads sound timely
  case breadcrumb => exact survives_of_reads fun b timely => Breadcrumb.reads timely
  case user => exact survives_of_yields User.yields fun u h _ => ⟨u.json, rfl, User.reads h⟩
  case context =>
    exact survives_of_yields Context.yields fun c h _ => ⟨c.json, rfl, Context.reads h⟩
  case span => exact survives_of_reads fun t timely => Span.reads timely
  case trace =>
    exact survives_of_yields TraceContext.yields fun t h _ => ⟨t.json, rfl, TraceContext.reads h⟩
  case projectId =>
    refine survives_of_yields ProjectId.yields fun p h _ => ⟨p.json, rfl, fun s => ?_⟩
    have parsed : ProjectId.parse p.text = .ok p := h
    simp only [Decoder.projectId, Decoder.plain, ProjectId.json, parsed]
    rfl

/-- An event with a level under its other name, an identifier with capitals, a user with a field of
its own and a context that cannot be a trace context. -/
theorem decoded_survives_event :
    let v := Json.obj [("contexts", .obj [("os", .obj [("span_id", .int 7)])]),
      ("event_id", .str "0123456789ABCDEF0123456789abcdef"), ("level", .str "log"),
      ("timestamp", .int 5), ("user", .obj [("plan", .str "free")])]
    ∃ x s', Event.decode v ⟨.epoch, id, 0⟩ = .ok (x, s') ∧ x.level = .info ∧ x.Timely ∧
      ∃ j, x.json? = some j ∧ ∀ t, Event.decode j t = .ok (x, t) := by
  intro v
  have distinct : v.Distinct := by
    refine .obj (by decide) ?_
    simp only [List.forall_mem_cons]
    refine ⟨.obj (by decide) ?_, .str _, .str _, .int _, .obj (by decide) ?_, nofun⟩
    · simpa using .obj (by decide) (by simpa using .int 7)
    · simpa using .str "free"
  have facts : (Event.decode v ⟨.epoch, id, 0⟩).toOption.map (fun r => (r.1.timestamp, r.1.level,
      r.1.startTimestamp.isSome, r.1.breadcrumbs.isEmpty, r.1.spans.isEmpty)) =
        some (.ofSeconds 5, .info, false, true, true) := by decide +kernel
  cases hx : Event.decode v ⟨.epoch, id, 0⟩ with
  | error e =>
    rw [hx] at facts
    cases facts
  | ok r =>
    obtain ⟨x, s'⟩ := r
    simp only [hx, Except.toOption, Option.map_some, Option.some.injEq, Prod.mk.injEq,
      Option.isSome_eq_false_iff, Option.isNone_iff_eq_none, List.isEmpty_iff] at facts
    obtain ⟨timestamp, level, start, breadcrumbs, spans⟩ := facts
    have timely : x.Timely :=
      ⟨⟨5, by decide, timestamp⟩, by simp [start], by simp [breadcrumbs], by simp [spans]⟩
    exact ⟨x, s', rfl, level, timely, decoded_survives.1 v _ x s' distinct hx timely⟩

end Telemetry
