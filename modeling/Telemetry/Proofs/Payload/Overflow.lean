import Telemetry.Payload.CheckIn
import Telemetry.Payload.Event
import Telemetry.Payload.Log
import Telemetry.Proofs.Payload.Visiting

/-! Decoding fails for good just if it comes to a time of `2 ^ 64` seconds or more. Every type of the
protocol is told by the slots that it visits, in the order of its fields. -/

namespace Telemetry

/-! ### Values -/

namespace Decoder

theorem timeless_value : value.Timeless := timeless_plain nofun

theorem timeless_string : string.Timeless := by
  refine timeless_plain fun j => ?_
  cases j <;> nofun

theorem timeless_bool : bool.Timeless := by
  refine timeless_plain fun j => ?_
  cases j <;> nofun

theorem timeless_float : float.Timeless := by
  refine timeless_plain fun j => ?_
  cases j <;> nofun

theorem timeless_natBelow (bound : Nat) : (natBelow bound).Timeless := by
  refine timeless_plain fun j => ?_
  cases j with
  | int n =>
    dsimp only
    split <;> nofun
  | _ => nofun

theorem timeless_uint64 : uint64.Timeless := (timeless_natBelow _).mapped _

theorem timeless_uint8 : uint8.Timeless := (timeless_natBelow _).mapped _

theorem timeless_named {α : Type} (parse? : String → Option α) (isUnit : Json → Bool) :
    (named parse? isUnit).Timeless := by
  have get (v : Option α) : named.get v ≠ .error .overflow := by cases v <;> nofun
  refine timeless_plain fun j => ?_
  split
  · exact get _
  · split
    · exact get _
    · nofun
  · nofun

theorem timeless_hexId (n : Nat) : (hexId n).Timeless := by
  refine timeless_plain fun j => ?_
  split
  · next s => cases HexId.parse n s <;> nofun
  · nofun

theorem timeless_uuid : uuid.Timeless := by
  refine timeless_plain fun j => ?_
  split
  · split <;> nofun
  · nofun

theorem timeless_projectId : projectId.Timeless := by
  refine timeless_plain fun j => ?_
  split
  · next s => cases ProjectId.parse s <;> nofun
  · nofun

/-- A whole number of seconds is accepted or refused; a float may be too long. -/
theorem comesTo_instant : instant.ComesTo fun j x => j = .float x where
  steady := steady_plain _
  overflow j s := by
    simp only [instant, plain, map_eq_error, ← Instant.ofFloat_overflow_iff]
    cases j with
    | int n =>
      by_cases negative : n < 0
      · simp [negative]
      · cases late : Instant.ofSeconds? n.toNat <;> simp [negative, late]
    | float x => cases read : Instant.ofFloat x <;> simp [read]
    | _ => simp

theorem optionalInstant_eq (x : Float) (s : Fresh) {j : Json} (number : float j s = .ok (x, s)) :
    optionalInstant j s = match Instant.ofFloat x with
      | .instant t => .ok (some t, s)
      | .invalid => .ok (none, s)
      | .overflow => .error .overflow := by
  cases j with
  | int n => cases number; rfl
  | float y => cases number; rfl
  | _ => cases number

/-- A time that may be null is read as a float, also where it is a whole number. -/
theorem comesTo_optionalInstant : optionalInstant.ComesTo fun j x =>
    j = .float x ∨ ∃ n, j = .int n ∧ x = .ofInt n := by
  have read (x : Float) {j : Json} (number : ∀ s, float j s = .ok (x, s)) (s : Fresh) :
      optionalInstant j s = .error .overflow ↔ TooLong x := by
    rw [optionalInstant_eq x s (number s), ← Instant.ofFloat_overflow_iff]
    cases Instant.ofFloat x <;> simp
  have steady (x : Float) {j : Json} (number : ∀ s, float j s = .ok (x, s)) (s s' : Fresh)
      (r : Option Instant × Fresh) (accepted : optionalInstant j s = .ok r) :
      ∃ r', optionalInstant j s' = .ok r' := by
    rw [optionalInstant_eq x s (number s)] at accepted
    rw [optionalInstant_eq x s' (number s')]
    cases read : Instant.ofFloat x with
    | overflow => simp [read] at accepted
    | _ => exact ⟨_, rfl⟩
  constructor
  · intro j s s' r accepted
    cases j with
    | null => exact ⟨_, rfl⟩
    | int n => exact steady (.ofInt n) (fun _ => rfl) s s' r accepted
    | float x => exact steady x (fun _ => rfl) s s' r accepted
    | _ => cases accepted
  · intro j s
    cases j with
    | int n => simpa using read (.ofInt n) (fun _ => rfl) s
    | float x => simpa using read x (fun _ => rfl) s
    | _ => exact iff_of_false nofun (by simp)

end Decoder

/-! ### Records -/

open Decoder

theorem Level.timeless : Level.decode.Timeless := by
  refine timeless_plain fun j => ?_
  split
  · split <;> nofun
  · nofun

theorem Attribute.timeless : Attribute.decode.Timeless := timeless_plain nofun

theorem SpanStatus.timeless : SpanStatus.decode.Timeless := timeless_named _ _

theorem LogLevel.timeless : LogLevel.decode.Timeless := timeless_named _ _

theorem CheckInStatus.timeless : CheckInStatus.decode.Timeless := timeless_named _ _

theorem Frame.timeless : Frame.decode.Timeless := by
  refine timeless_record ?_
  refine .defaulted ?_ timeless_bool.option _
  iterate 2 refine .defaulted ?_ timeless_uint64.option _
  iterate 5 refine .defaulted ?_ timeless_string.option _
  exact Field.timeless_pure _

theorem Stacktrace.timeless : Stacktrace.decode.Timeless :=
  timeless_record (.defaulted (Field.timeless_pure _) Frame.timeless.list _)

theorem Mechanism.timeless : Mechanism.decode.Timeless := by
  refine timeless_record ?_
  refine .defaulted ?_ timeless_value.map _
  refine .defaulted ?_ timeless_bool.option _
  refine .defaulted ?_ timeless_string.option _
  exact .required (Field.timeless_pure _) timeless_string

theorem Exception.timeless : Exception.decode.Timeless := by
  refine timeless_record ?_
  refine .defaulted ?_ Mechanism.timeless.option _
  refine .defaulted ?_ Stacktrace.timeless.option _
  iterate 2 refine .defaulted ?_ timeless_string.option _
  exact .required (Field.timeless_pure _) timeless_string

theorem Request.timeless : Request.decode.Timeless := by
  refine timeless_record ?_
  iterate 2 refine .defaulted ?_ timeless_string.map _
  iterate 5 refine .defaulted ?_ timeless_string.option _
  exact Field.timeless_pure _

theorem SdkInfo.timeless : SdkInfo.decode.Timeless := by
  refine timeless_record ?_
  refine .defaulted ?_ timeless_string.list _
  iterate 2 refine .required ?_ timeless_string
  exact Field.timeless_pure _

theorem TraceContext.timeless : TraceContext.decode.Timeless := by
  refine timeless_record ?_
  refine .defaulted ?_ timeless_value.map _
  refine .defaulted ?_ SpanStatus.timeless.option _
  iterate 2 refine .defaulted ?_ timeless_string.option _
  refine .defaulted ?_ (timeless_hexId 16).option _
  refine .drawn ?_ (timeless_hexId 32) _
  exact .drawn (Field.timeless_pure _) (timeless_hexId 16) _

theorem User.timeless : User.decode.Timeless := by
  have others : Field.Timeless otherFields :=
    ⟨[], ⟨fun _ _ _ _ _ _ _ => ⟨_, rfl⟩, fun _ _ _ => nofun⟩, nofun⟩
  have record : (record fieldNames (User.mk <$>
      Field.defaulted "id" (.option .string) none <*>
      Field.defaulted "email" (.option .string) none <*>
      Field.defaulted "ip_address" (.option .string) none <*>
      Field.defaulted "username" (.option .string) none <*>
      otherFields)).Timeless := by
    refine timeless_record (.seq ?_ others)
    iterate 4 refine .defaulted ?_ timeless_string.option _
    exact Field.timeless_pure _
  refine timeless_of (fun j s s' r accepted => ?_) fun j s failed => ?_
  · cases j with
    | obj es => exact record.steady (.obj es) s s' r accepted
    | _ => cases accepted
  · cases j with
    | obj es => exact record.never (.obj es) s failed
    | _ => cases failed

theorem Context.timeless : Context.decode.Timeless := by
  refine timeless_of (fun j s s' r accepted => ?_) fun j s failed => ?_
  · unfold decode at accepted ⊢
    cases tried : TraceContext.decode j s' with
    | ok t => exact ⟨_, rfl⟩
    | error e =>
      cases before : TraceContext.decode j s with
      | ok t =>
        obtain ⟨t', again⟩ := TraceContext.timeless.steady j s s' t before
        cases tried.symm.trans again
      | error e' =>
        simp only [before] at accepted
        split at accepted
        · next m t read =>
          obtain ⟨r', again⟩ := steady_map_value j s s' (m, t) read
          simp only [again]
          exact ⟨_, rfl⟩
        · cases accepted
  · unfold decode at failed
    split at failed
    · cases failed
    · split at failed <;> cases failed

theorem MonitorSchedule.tagged_ne_overflow (j : Json) : tagged j ≠ .error .overflow := by
  unfold tagged
  split
  · split <;> nofun
  all_goals nofun

theorem MonitorSchedule.timeless : MonitorSchedule.decode.Timeless := by
  have crontab : (record ["value"] (crontab <$> Field.required "value" .string)).Timeless :=
    timeless_record (.required (Field.timeless_pure _) timeless_string)
  have interval : (record ["value", "unit"] (interval <$> Field.required "value" .uint64 <*>
      Field.required "unit" (.named IntervalUnit.parse? isEmptyUnit))).Timeless :=
    timeless_record
      (.required (.required (Field.timeless_pure _) timeless_uint64) (timeless_named _ _))
  refine timeless_of (fun j s s' r accepted => ?_) fun j s failed => ?_
  · obtain ⟨⟨tag, content⟩, found, accepted⟩ := bind_eq_ok accepted
    unfold decode
    simp only [found, ok_bind]
    dsimp only at accepted
    split at accepted
    · exact crontab.steady content s s' r accepted
    · exact interval.steady content s s' r accepted
    · cases accepted
  · rcases bind_eq_error.mp failed with untagged | ⟨⟨tag, content⟩, -, failed⟩
    · exact tagged_ne_overflow j untagged
    · dsimp only at failed
      split at failed
      · exact crontab.never content s failed
      · exact interval.never content s failed
      · cases failed

theorem MonitorConfig.timeless : MonitorConfig.decode.Timeless := by
  refine timeless_record ?_
  refine .defaulted ?_ timeless_string.option _
  iterate 2 refine .defaulted ?_ timeless_uint64.option _
  exact .required (Field.timeless_pure _) MonitorSchedule.timeless

theorem CheckIn.timeless : CheckIn.decode.Timeless := by
  refine timeless_record ?_
  refine .defaulted ?_ MonitorConfig.timeless.option _
  refine .defaulted ?_ timeless_float.option _
  refine .defaulted ?_ timeless_string.option _
  refine .required ?_ CheckInStatus.timeless
  refine .required ?_ timeless_string
  exact .required (Field.timeless_pure _) timeless_uuid

/-! ### Records with times -/

def Breadcrumb.slots : List Slot :=
  [⟨"timestamp", comesTo_instant⟩, ⟨"type", timeless_string⟩,
   ⟨"category", timeless_string.option⟩, ⟨"level", Level.timeless⟩,
   ⟨"message", timeless_string.option⟩, ⟨"data", timeless_value.map⟩]

theorem Breadcrumb.comesTo : Breadcrumb.decode.ComesTo (recordTimes slots) := by
  refine comesTo_record ?_ rfl (by decide)
  iterate 5 refine .defaulted ?_ _ _
  exact .drawn (Field.visits_pure _) _ _

def Span.slots : List Slot :=
  [⟨"span_id", timeless_hexId 16⟩, ⟨"trace_id", timeless_hexId 32⟩,
   ⟨"parent_span_id", (timeless_hexId 16).option⟩, ⟨"op", timeless_string.option⟩,
   ⟨"description", timeless_string.option⟩, ⟨"timestamp", comesTo_optionalInstant⟩,
   ⟨"start_timestamp", comesTo_instant⟩, ⟨"status", SpanStatus.timeless.option⟩,
   ⟨"tags", timeless_string.map⟩, ⟨"data", timeless_value.map⟩]

theorem Span.comesTo : Span.decode.ComesTo (recordTimes slots) := by
  refine comesTo_record ?_ rfl (by decide)
  iterate 3 refine .defaulted ?_ _ _
  refine .drawn ?_ _ _
  iterate 4 refine .defaulted ?_ _ _
  exact .drawn (.drawn (Field.visits_pure _) _ _) _ _

def Log.slots : List Slot :=
  [⟨"level", LogLevel.timeless⟩, ⟨"body", timeless_string⟩,
   ⟨"trace_id", (timeless_hexId 32).option⟩, ⟨"timestamp", comesTo_instant⟩,
   ⟨"severity_number", timeless_uint8.option⟩, ⟨"attributes", Attribute.timeless.map⟩]

theorem Log.comesTo : Log.decode.ComesTo (recordTimes slots) := by
  refine comesTo_record ?_ rfl (by decide)
  iterate 2 refine .defaulted ?_ _ _
  refine .required ?_ _
  refine .defaulted ?_ _ _
  exact .required (.required (Field.visits_pure _) _) _

def Metric.slots : List Slot :=
  [⟨"type", timeless_named MetricKind.parse? isNull⟩, ⟨"name", timeless_string⟩,
   ⟨"value", timeless_float⟩, ⟨"timestamp", comesTo_instant⟩, ⟨"trace_id", timeless_hexId 32⟩,
   ⟨"span_id", (timeless_hexId 16).option⟩, ⟨"unit", timeless_string.option⟩,
   ⟨"attributes", Attribute.timeless.map⟩]

theorem Metric.comesTo : Metric.decode.ComesTo (recordTimes slots) := by
  refine comesTo_record ?_ rfl (by decide)
  iterate 3 refine .defaulted ?_ _ _
  iterate 5 refine .required ?_ _
  exact Field.visits_pure _

def Event.slots : List Slot :=
  [⟨"event_id", timeless_uuid⟩, ⟨"level", Level.timeless⟩, ⟨"fingerprint", timeless_string.list⟩,
   ⟨"culprit", timeless_string.option⟩, ⟨"transaction", timeless_string.option⟩,
   ⟨"message", timeless_string.option⟩, ⟨"logger", timeless_string.option⟩,
   ⟨"platform", timeless_string⟩, ⟨"timestamp", comesTo_instant⟩,
   ⟨"start_timestamp", comesTo_optionalInstant⟩, ⟨"server_name", timeless_string.option⟩,
   ⟨"release", timeless_string.option⟩, ⟨"environment", timeless_string.option⟩,
   ⟨"user", User.timeless.option⟩, ⟨"request", Request.timeless.option⟩,
   ⟨"contexts", Context.timeless.map⟩, ⟨"breadcrumbs", Breadcrumb.comesTo.list⟩,
   ⟨"exception", Exception.timeless.list⟩, ⟨"stacktrace", Stacktrace.timeless.option⟩,
   ⟨"tags", timeless_string.map⟩, ⟨"extra", timeless_value.map⟩, ⟨"spans", Span.comesTo.list⟩,
   ⟨"sdk", SdkInfo.timeless.option⟩]

theorem Event.comesTo : Event.decode.ComesTo (recordTimes slots) := by
  refine comesTo_record ?_ rfl (by decide)
  iterate 2 refine .seq ?_ (Field.visits_pure _)
  iterate 14 refine .defaulted ?_ _ _
  refine .drawn ?_ _ _
  iterate 6 refine .defaulted ?_ _ _
  iterate 2 refine .required ?_ _
  exact Field.visits_pure _

/-! ### The types of the protocol -/

/-- A record of which no field is known to have times comes to none. -/
theorem not_recordTimes_nil (j : Json) (x : Float) : ¬ recordTimes [] j x := by
  rintro ⟨fs, -, a, ⟨⟩, -⟩

/-- What can be decoded. -/
inductive ProtocolType where
  | event
  | breadcrumb
  | user
  | request
  | frame
  | stacktrace
  | mechanism
  | exception
  | context
  | sdk
  | span
  | spanStatus
  | trace
  | traceId
  | spanId
  | level
  | logLevel
  | log
  | logAttribute
  | metric
  | metricKind
  | checkIn
  | checkInStatus
  | monitorConfig
  | schedule
  | intervalUnit
  | projectId

namespace ProtocolType

/-- The type and how it is read. -/
def decoder : ProtocolType → (α : Type) × Decoder α
  | event => ⟨Event, Event.decode⟩
  | breadcrumb => ⟨Breadcrumb, Breadcrumb.decode⟩
  | user => ⟨User, User.decode⟩
  | request => ⟨Request, Request.decode⟩
  | frame => ⟨Frame, Frame.decode⟩
  | stacktrace => ⟨Stacktrace, Stacktrace.decode⟩
  | mechanism => ⟨Mechanism, Mechanism.decode⟩
  | exception => ⟨Exception, Exception.decode⟩
  | context => ⟨Context, Context.decode⟩
  | sdk => ⟨SdkInfo, SdkInfo.decode⟩
  | span => ⟨Span, Span.decode⟩
  | spanStatus => ⟨SpanStatus, SpanStatus.decode⟩
  | trace => ⟨TraceContext, TraceContext.decode⟩
  | traceId => ⟨HexId 32, .hexId 32⟩
  | spanId => ⟨HexId 16, .hexId 16⟩
  | level => ⟨Level, Level.decode⟩
  | logLevel => ⟨LogLevel, LogLevel.decode⟩
  | log => ⟨Log, Log.decode⟩
  | logAttribute => ⟨Attribute, Attribute.decode⟩
  | metric => ⟨Metric, Metric.decode⟩
  | metricKind => ⟨MetricKind, .named MetricKind.parse? Decoder.isNull⟩
  | checkIn => ⟨CheckIn, CheckIn.decode⟩
  | checkInStatus => ⟨CheckInStatus, CheckInStatus.decode⟩
  | monitorConfig => ⟨MonitorConfig, MonitorConfig.decode⟩
  | schedule => ⟨MonitorSchedule, MonitorSchedule.decode⟩
  | intervalUnit => ⟨IntervalUnit, .named IntervalUnit.parse? Decoder.isNull⟩
  | projectId => ⟨ProjectId, Decoder.projectId⟩

/-- The fields of a record with times in it; no other type has any. -/
def slots : ProtocolType → List Slot
  | event => Event.slots
  | breadcrumb => Breadcrumb.slots
  | span => Span.slots
  | log => Log.slots
  | metric => Metric.slots
  | _ => []

/-- Decoding gives a value or refuses the JSON, unless it comes to a time of `2 ^ 64` seconds or more:
everything in front of that is accepted. -/
theorem decoder_overflow_iff (t : ProtocolType) (j : Json) (s : Fresh) :
    t.decoder.2 j s = .error .overflow ↔ ∃ x, recordTimes t.slots j x ∧ TooLong x := by
  have timeless {α : Type} {d : Decoder α} (h : d.Timeless) : d.ComesTo (recordTimes []) := by
    refine ⟨h.steady, fun j s => iff_of_false (h.never j s) ?_⟩
    rintro ⟨x, none, -⟩
    exact not_recordTimes_nil j x none
  have comesTo : t.decoder.2.ComesTo (recordTimes t.slots) := by
    cases t with
    | event => exact Event.comesTo
    | breadcrumb => exact Breadcrumb.comesTo
    | span => exact Span.comesTo
    | log => exact Log.comesTo
    | metric => exact Metric.comesTo
    | user => exact timeless User.timeless
    | request => exact timeless Request.timeless
    | frame => exact timeless Frame.timeless
    | stacktrace => exact timeless Stacktrace.timeless
    | mechanism => exact timeless Mechanism.timeless
    | exception => exact timeless Exception.timeless
    | context => exact timeless Context.timeless
    | sdk => exact timeless SdkInfo.timeless
    | spanStatus => exact timeless SpanStatus.timeless
    | trace => exact timeless TraceContext.timeless
    | traceId => exact timeless (timeless_hexId 32)
    | spanId => exact timeless (timeless_hexId 16)
    | level => exact timeless Level.timeless
    | logLevel => exact timeless LogLevel.timeless
    | logAttribute => exact timeless Attribute.timeless
    | metricKind => exact timeless (timeless_named _ _)
    | checkIn => exact timeless CheckIn.timeless
    | checkInStatus => exact timeless CheckInStatus.timeless
    | monitorConfig => exact timeless MonitorConfig.timeless
    | schedule => exact timeless MonitorSchedule.timeless
    | intervalUnit => exact timeless (timeless_named _ _)
    | projectId => exact timeless timeless_projectId
  exact comesTo.overflow j s

/-- A breadcrumb of `1e20` seconds. -/
theorem breadcrumb_overflow :
    breadcrumb.decoder.2 (.obj [("timestamp", .float 1e20)]) ⟨.epoch, id, 0⟩ =
      .error .overflow := by
  rfl

end ProtocolType

end Telemetry
