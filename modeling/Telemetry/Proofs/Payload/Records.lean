import Telemetry.Payload.Event
import Telemetry.Proofs.Number.Whole
import Telemetry.Proofs.Payload.Reading

/-! Every record of the payload format is read back from what is written of it: whatever is skipped
has the value that it stands for when it is absent. Points in time must be whole seconds, those that
may be absent below `2 ^ 53`. -/

namespace Telemetry

/-! ### Points in time -/

namespace Instant

/-- A whole number of seconds since the epoch. -/
def IsWhole (t : Instant) : Prop := ∃ n, n ≤ maxSeconds ∧ t = .ofSeconds n

/-- A whole number of seconds since the epoch that is a double. -/
def IsExact (t : Instant) : Prop := ∃ n, n < 2 ^ 53 ∧ t = .ofSeconds n

theorem json?_ofSeconds (n : Nat) : json? (.ofSeconds n) = some (.int n) := by
  have nanos : (ofSeconds n).nanos = (n * perSecond : Nat) := (Int.natCast_mul ..).symm
  have nonneg : ¬ ((n * perSecond : Nat) : Int) < 0 := by omega
  have whole : n * perSecond % perSecond = 0 := Nat.mul_mod_left n perSecond
  have seconds : n * perSecond / perSecond = n := Nat.mul_div_cancel n (by decide)
  simp only [json?, nanos, if_neg nonneg, Int.toNat_natCast, whole, if_pos, seconds]

theorem IsWhole.reads {t : Instant} (h : t.IsWhole) :
    ∃ j, t.json? = some j ∧ Decoder.instant.Reads j t := by
  obtain ⟨n, hn, rfl⟩ := h
  refine ⟨.int n, json?_ofSeconds n, fun s => ?_⟩
  have nonneg : ¬ (n : Int) < 0 := by omega
  simp only [Decoder.instant, Decoder.plain, if_neg nonneg, Int.toNat_natCast, ofSeconds?,
    if_pos hn, Except.map]

theorem IsExact.reads {t : Instant} (h : t.IsExact) :
    ∃ j, t.json? = some j ∧ Decoder.optionalInstant.Reads j (some t) := by
  obtain ⟨n, hn, rfl⟩ := h
  refine ⟨.int n, json?_ofSeconds n, fun s => ?_⟩
  have seconds : Decoder.option .float (.int n) s = .ok (some (Float.ofInt n), s) := rfl
  rw [Decoder.optionalInstant, seconds]
  simp only [bind, Except.bind, ofFloat_ofInt hn]

/-- A point in time that may be absent, and then is not written. -/
theorem optional_reads {v : Option Instant} (h : ∀ t, v = some t → t.IsExact) :
    ∃ v', v.mapM json? = some v' ∧ ∀ {fs : Fields} {names : List String}
      {es : List (Option (String × Json))} {name : String}, Shows fs names es →
      ∀ i : Nat, names[i]? = some name → es[i]? = some (Json.optional name (fun j => j) v') →
        (Field.defaulted name .optionalInstant none).Reads fs v := by
  cases v with
  | none =>
    refine ⟨none, rfl, fun w i hi he => w.orElse i hi he ?_ fun _ _ => rfl⟩
    rintro p ⟨⟩
  | some t =>
    obtain ⟨j, hj, hd⟩ := (h t rfl).reads
    refine ⟨some j, by simp [hj], fun w i hi he => w.orElse i hi he ?_ nofun⟩
    rintro p ⟨⟩
    exact hd

end Instant

/-! ### Names -/

theorem Level.inverts : Level.decode.Inverts Level.json := by
  refine fun l => ⟨nofun, fun s => ?_⟩
  have known : parse? l.name = some l := by cases l <;> decide
  simp only [decode, Decoder.plain, json, known, Except.map]

theorem SpanStatus.parse?_name (t : SpanStatus) : parse? t.name = some t := by
  cases t <;> decide

theorem SpanStatus.inverts : SpanStatus.decode.Inverts SpanStatus.json :=
  Decoder.inverts_named SpanStatus.parse?_name

theorem CheckInStatus.inverts : CheckInStatus.decode.Inverts fun t => .str t.name :=
  Decoder.inverts_named fun t => by cases t <;> decide

theorem HexId.inverts {n : Nat} (even : n % 2 = 0) : (Decoder.hexId n).Inverts HexId.json :=
  Decoder.inverts_hexId even

theorem Uuid.inverts : Decoder.uuid.Inverts (HexId.json (n := 32)) := Decoder.inverts_uuid

/-! ### Stacks and errors -/

open Decoder

theorem reads_values (m : StringMap Json) : ∀ e ∈ m.entries, value.Reads (id e.2) e.2 :=
  fun e _ => reads_value e.2

theorem reads_texts (m : StringMap String) : ∀ e ∈ m.entries, string.Reads (.str e.2) e.2 :=
  fun e _ => (inverts_string e.2).2

theorem Frame.inverts : Frame.decode.Inverts Frame.json := by
  refine fun f => ⟨nofun, reads_record (by simp [Named]) (by decide) fun fs w => ?_⟩
  exact (w.optional 0 rfl rfl inverts_string).map Frame.mk
    |>.seq (w.optional 1 rfl rfl inverts_string)
    |>.seq (w.optional 2 rfl rfl inverts_string)
    |>.seq (w.optional 3 rfl rfl inverts_string)
    |>.seq (w.optional 4 rfl rfl inverts_string)
    |>.seq (w.optional 5 rfl rfl inverts_uint64)
    |>.seq (w.optional 6 rfl rfl inverts_uint64)
    |>.seq (w.optional 7 rfl rfl inverts_bool)

theorem Stacktrace.inverts : Stacktrace.decode.Inverts Stacktrace.json := by
  refine fun t => ⟨nofun, ?_⟩
  show (Decoder.record _ _).Reads
    (Json.object [some ("frames", Json.array Frame.json t.frames)]) t
  refine reads_record (by simp [Named]) (by decide) fun fs w => ?_
  exact (w.written 0 rfl rfl (reads_list fun f _ => (Frame.inverts f).2) _).map Stacktrace.mk

theorem Mechanism.inverts : Mechanism.decode.Inverts Mechanism.json := by
  refine fun m => ⟨nofun, reads_record (by simp [Named]) (by decide) fun fs w => ?_⟩
  exact (w.required 0 rfl rfl inverts_string).map Mechanism.mk
    |>.seq (w.optional 1 rfl rfl inverts_string)
    |>.seq (w.optional 2 rfl rfl inverts_bool)
    |>.seq (w.map 3 rfl rfl (reads_values _))

theorem Exception.inverts : Exception.decode.Inverts Exception.json := by
  refine fun e => ⟨nofun, reads_record (by simp [Named]) (by decide) fun fs w => ?_⟩
  exact (w.required 0 rfl rfl inverts_string).map Exception.mk
    |>.seq (w.optional 1 rfl rfl inverts_string)
    |>.seq (w.optional 2 rfl rfl inverts_string)
    |>.seq (w.optional 3 rfl rfl Stacktrace.inverts)
    |>.seq (w.optional 4 rfl rfl Mechanism.inverts)

/-! ### Requests, users and producers -/

theorem Request.inverts : Request.decode.Inverts Request.json := by
  refine fun r => ⟨nofun, reads_record (by simp [Named]) (by decide) fun fs w => ?_⟩
  exact (w.optional 0 rfl rfl inverts_string).map Request.mk
    |>.seq (w.optional 1 rfl rfl inverts_string)
    |>.seq (w.optional 2 rfl rfl inverts_string)
    |>.seq (w.optional 3 rfl rfl inverts_string)
    |>.seq (w.optional 4 rfl rfl inverts_string)
    |>.seq (w.map 5 rfl rfl (reads_texts _))
    |>.seq (w.map 6 rfl rfl (reads_texts _))

theorem SdkInfo.inverts : SdkInfo.decode.Inverts SdkInfo.json := by
  refine fun i => ⟨nofun, reads_record (by simp [Named]) (by decide) fun fs w => ?_⟩
  exact (w.required 0 rfl rfl inverts_string).map SdkInfo.mk
    |>.seq (w.required 1 rfl rfl inverts_string)
    |>.seq (w.list 2 rfl rfl rfl (reads_list fun a _ => (inverts_string a).2))

/-- The other fields of a user have none of the names that users have. -/
def User.Sound (u : User) : Prop := ∀ e ∈ u.other.entries, e.1 ∉ User.fieldNames

theorem User.reads {u : User} (h : u.Sound) : User.decode.Reads u.json u := by
  intro s
  let es := [Json.optional "id" .str u.id, Json.optional "email" .str u.email,
    Json.optional "ip_address" .str u.ipAddress, Json.optional "username" .str u.username]
  have named : Named fieldNames es := by simp [Named, fieldNames, es]
  have w : Shows ⟨present es ++ u.other.entries, false⟩ fieldNames es :=
    shows_append named (by decide) h false
  have own : (present es).filter (fun e => !fieldNames.contains e.1) = [] := by
    refine List.filter_eq_nil_iff.mpr fun p hp => ?_
    obtain ⟨e, he, rfl⟩ := List.mem_filterMap.mp hp
    simpa using named.mem he
  have other : u.other.entries.filter (fun e => !fieldNames.contains e.1) = u.other.entries :=
    List.filter_eq_self.mpr fun e he => by simpa using h e he
  have rest : otherFields.Reads ⟨present es ++ u.other.entries, false⟩ u.other := by
    intro s
    rw [otherFields, List.filter_append, own, other, List.nil_append, StringMap.ofList_entries]
  have json : u.json = .obj (present es ++ u.other.entries) := by
    rw [← present_append]
    rfl
  have fields := (w.optional 0 rfl rfl inverts_string).map User.mk
    |>.seq (w.optional 1 rfl rfl inverts_string)
    |>.seq (w.optional 2 rfl rfl inverts_string)
    |>.seq (w.optional 3 rfl rfl inverts_string)
    |>.seq rest
  rw [json]
  show ((_ : Field User) ⟨present es ++ u.other.entries, false⟩ s).mapError Fault.cause = _
  rw [fields s]
  rfl

/-! ### Traces -/

/-- A sampling decision is never read. -/
def TraceContext.Sound (t : TraceContext) : Prop := t.sampled = none

theorem TraceContext.reads {t : TraceContext} (h : t.Sound) :
    TraceContext.decode.Reads t.json t := by
  refine reads_record (by simp [Named, fieldNames]) (by decide) fun fs w => ?_
  obtain ⟨spanId, traceId, parentSpanId, op, description, status, data, sampled⟩ := t
  obtain rfl : sampled = none := h
  exact (w.drawn 0 rfl rfl (HexId.inverts rfl) _).map _
    |>.seq (w.drawn 1 rfl rfl (HexId.inverts rfl) _)
    |>.seq (w.optional 2 rfl rfl (HexId.inverts rfl))
    |>.seq (w.optional 3 rfl rfl inverts_string)
    |>.seq (w.optional 4 rfl rfl inverts_string)
    |>.seq (w.optional 5 rfl rfl SpanStatus.inverts)
    |>.seq (w.map 6 rfl rfl (reads_values _))

/-- The times of a span are whole seconds. -/
structure Span.Timely (t : Span) : Prop where
  start : t.startTimestamp.IsWhole
  finish : ∀ u, t.timestamp = some u → u.IsExact

theorem Span.reads {t : Span} (h : t.Timely) :
    ∃ j, t.json? = some j ∧ Span.decode.Reads j t := by
  obtain ⟨start, hstart, dstart⟩ := h.start.reads
  obtain ⟨finish, hfinish, dfinish⟩ := Instant.optional_reads h.finish
  refine ⟨_, by simp only [json?, hstart, hfinish]; rfl, ?_⟩
  refine reads_record (by simp [Named, fieldNames]) (by decide) fun fs w => ?_
  exact (w.drawn 0 rfl rfl (HexId.inverts rfl) _).map Span.mk
    |>.seq (w.drawn 1 rfl rfl (HexId.inverts rfl) _)
    |>.seq (w.optional 2 rfl rfl (HexId.inverts rfl))
    |>.seq (w.optional 3 rfl rfl inverts_string)
    |>.seq (w.optional 4 rfl rfl inverts_string)
    |>.seq (dfinish w 5 rfl rfl)
    |>.seq (w.written 6 rfl rfl dstart _)
    |>.seq (w.optional 7 rfl rfl SpanStatus.inverts)
    |>.seq (w.map 8 rfl rfl (reads_texts _))
    |>.seq (w.map 9 rfl rfl (reads_values _))

/-- A trace context was read as one; any other object cannot be. -/
def Context.Sound : Context → Prop
  | .trace t => t.Sound
  | .other m => ∀ s r, TraceContext.decode (m.json id) s ≠ .ok r

theorem Context.decode_trace {j : Json} {s s' : Fresh} {t : TraceContext}
    (h : TraceContext.decode j s = .ok (t, s')) : Context.decode j s = .ok (.trace t, s') := by
  simp only [Context.decode, h]

theorem Context.decode_other {j : Json} {s s' : Fresh} {d : DecodeError} {m : StringMap Json}
    (ht : TraceContext.decode j s = .error d) (hm : Decoder.map .value j s = .ok (m, s')) :
    Context.decode j s = .ok (.other m, s') := by
  simp only [Context.decode, ht, hm]

theorem Context.reads {c : Context} (h : c.Sound) : Context.decode.Reads c.json c := by
  intro s
  cases c with
  | trace t => exact decode_trace (TraceContext.reads h s)
  | other m =>
    cases hd : TraceContext.decode (m.json id) s with
    | ok r => exact absurd hd (h s r)
    | error d => exact decode_other hd (reads_map (reads_values m) s)

/-! ### Check-ins -/

theorem MonitorSchedule.inverts : MonitorSchedule.decode.Inverts MonitorSchedule.json := by
  have unit (u : IntervalUnit) : (named IntervalUnit.parse? isEmptyUnit).Reads (.str u.name) u :=
    (inverts_named (f := IntervalUnit.name) (fun u => by cases u <;> decide) u).2
  intro t
  cases t with
  | crontab value =>
    refine ⟨nofun, fun s => ?_⟩
    have content : (Decoder.record ["value"] (crontab <$> Field.required "value" .string)).Reads
        (Json.object [some ("value", .str value)]) (.crontab value) :=
      reads_record (by simp [Named]) (by decide) fun fs w =>
        (w.required 0 rfl rfl inverts_string).map crontab
    exact content s
  | interval value u =>
    refine ⟨nofun, fun s => ?_⟩
    have content : (Decoder.record ["value", "unit"]
        (interval <$> Field.required "value" .uint64 <*>
          Field.required "unit" (.named IntervalUnit.parse? Decoder.isEmptyUnit))).Reads
        (Json.object [some ("value", .int value.toNat), some ("unit", .str u.name)])
        (.interval value u) :=
      reads_record (by simp [Named]) (by decide) fun fs w =>
        ((w.written 0 rfl rfl (inverts_uint64 value).2 _).map interval).seq
          (w.written 1 rfl rfl (unit u) _)
    have tag : tagged (json (.interval value u)) = .ok (.str "interval",
        Json.object [some ("value", .int value.toNat), some ("unit", .str u.name)]) := by
      simp [tagged, json, Json.object]
    rw [decode, tag, ok_bind]
    dsimp only
    split
    · next h => simp at h
    · exact content s
    · next h => exact absurd rfl h

theorem MonitorConfig.inverts : MonitorConfig.decode.Inverts MonitorConfig.json := by
  refine fun c => ⟨nofun, reads_record (by simp [Named]) (by decide) fun fs w => ?_⟩
  exact (w.required 0 rfl rfl MonitorSchedule.inverts).map MonitorConfig.mk
    |>.seq (w.optional 1 rfl rfl inverts_uint64)
    |>.seq (w.optional 2 rfl rfl inverts_uint64)
    |>.seq (w.optional 3 rfl rfl inverts_string)

theorem CheckIn.inverts : CheckIn.decode.Inverts CheckIn.json := by
  refine fun c => ⟨nofun, reads_record (by simp [Named]) (by decide) fun fs w => ?_⟩
  exact (w.required 0 rfl rfl Uuid.inverts).map CheckIn.mk
    |>.seq (w.required 1 rfl rfl inverts_string)
    |>.seq (w.written 2 rfl rfl (CheckInStatus.inverts _).2 _)
    |>.seq (w.optional 3 rfl rfl inverts_string)
    |>.seq (w.optional 4 rfl rfl inverts_float)
    |>.seq (w.optional 5 rfl rfl MonitorConfig.inverts)

/-! ### Events -/

/-- The time of a breadcrumb is a whole second. -/
def Breadcrumb.Timely (b : Breadcrumb) : Prop := b.timestamp.IsWhole

theorem Breadcrumb.reads {b : Breadcrumb} (h : b.Timely) :
    ∃ j, b.json? = some j ∧ Breadcrumb.decode.Reads j b := by
  obtain ⟨timestamp, ht, hd⟩ := Instant.IsWhole.reads h
  refine ⟨_, by simp only [json?, ht]; rfl, ?_⟩
  refine reads_record (by simp [Named]) (by decide) fun fs w => ?_
  have level : (Field.defaulted "level" Level.decode .info).Reads fs b.level := by
    refine w.orElse 3 rfl rfl ?_ ?_
    · intro p hp
      split at hp <;> cases hp
      exact (Level.inverts b.level).2
    · intro hn s
      split at hn
      · next hl => rw [hl]
      · cases hn
  exact (w.written 0 rfl rfl hd _).map Breadcrumb.mk
    |>.seq (w.written 1 rfl rfl (inverts_string _).2 _)
    |>.seq (w.optional 2 rfl rfl inverts_string)
    |>.seq level
    |>.seq (w.optional 4 rfl rfl inverts_string)
    |>.seq (w.map 5 rfl rfl (reads_values _))

/-- What reading an event gives: a kind of event is never read. -/
structure Event.Sound (e : Event) : Prop where
  user : ∀ u, e.user = some u → u.Sound
  contexts : ∀ c ∈ e.contexts.entries, c.2.Sound
  kind : e.kind = .default
  checkIn : e.checkIn = none

/-- The times of an event and of all that it holds are whole seconds. -/
structure Event.Timely (e : Event) : Prop where
  timestamp : e.timestamp.IsWhole
  start : ∀ t, e.startTimestamp = some t → t.IsExact
  breadcrumbs : ∀ b ∈ e.breadcrumbs, b.Timely
  spans : ∀ t ∈ e.spans, t.Timely

theorem Event.reads {e : Event} (h : e.Sound) (timely : e.Timely) :
    ∃ j, e.json? = some j ∧ Event.decode.Reads j e := by
  obtain ⟨timestamp, ht, dt⟩ := timely.timestamp.reads
  obtain ⟨start, hstart, dstart⟩ := Instant.optional_reads timely.start
  obtain ⟨breadcrumbs, hb, emptyb, db⟩ :=
    reads_list_of_mapM fun b hb => Breadcrumb.reads (timely.breadcrumbs b hb)
  obtain ⟨spans, hs, emptys, ds⟩ := reads_list_of_mapM fun t ht => Span.reads (timely.spans t ht)
  refine ⟨_, by simp only [json?, ht, hstart, hb, hs]; rfl, ?_⟩
  refine reads_record (by simp [Named, fieldNames]) (by decide) fun fs w => ?_
  obtain ⟨user, contexts, kind, checkIn⟩ := h
  obtain ⟨⟩ := e
  obtain rfl := kind
  obtain rfl := checkIn
  exact (w.required 0 rfl rfl Uuid.inverts).map Event.mk
    |>.seq (w.required 1 rfl rfl Level.inverts)
    |>.seq (w.list 2 rfl rfl rfl (reads_list fun a _ => (inverts_string a).2))
    |>.seq (w.optional 3 rfl rfl inverts_string)
    |>.seq (w.optional 4 rfl rfl inverts_string)
    |>.seq (w.optional 5 rfl rfl inverts_string)
    |>.seq (w.optional 6 rfl rfl inverts_string)
    |>.seq (w.written 7 rfl rfl (inverts_string _).2 _)
    |>.seq (w.written 8 rfl rfl dt _)
    |>.seq (dstart w 9 rfl rfl)
    |>.seq (w.optional 10 rfl rfl inverts_string)
    |>.seq (w.optional 11 rfl rfl inverts_string)
    |>.seq (w.optional 12 rfl rfl inverts_string)
    |>.seq (w.optionalOf 13 rfl rfl fun u hu => ⟨nofun, User.reads (user u hu)⟩)
    |>.seq (w.optional 14 rfl rfl Request.inverts)
    |>.seq (w.map 15 rfl rfl fun c hc => Context.reads (contexts c hc))
    |>.seq (w.list 16 rfl rfl emptyb db)
    |>.seq (w.list 17 rfl rfl rfl (reads_list fun a _ => (Exception.inverts a).2))
    |>.seq (w.optional 18 rfl rfl Stacktrace.inverts)
    |>.seq (w.map 19 rfl rfl (reads_texts _))
    |>.seq (w.map 20 rfl rfl (reads_values _))
    |>.seq (w.list 21 rfl rfl emptys ds)
    |>.seq (w.optional 22 rfl rfl SdkInfo.inverts)
    |>.seq (Field.reads_pure fs .default)
    |>.seq (Field.reads_pure fs none)

end Telemetry
