import Telemetry.Payload.Log
import Telemetry.Proofs.Payload.Records

/-! Logs and metrics read back. Everything comes back but the attributes: each is written with the
name of its type beside it, and the two of them are read as its value. -/

namespace Telemetry

variable {α β : Type}

namespace StringMap

/-- The map of what `f` makes of the values. -/
def mapValues (f : α → β) (m : StringMap α) : StringMap β where
  entries := m.entries.map fun e => (e.1, f e.2)
  sorted := by simpa [SortedKeys, List.pairwise_map] using m.sorted

theorem field_mapValues (name : String) (g : β → Json) (f : α → β) (m : StringMap α) :
    (m.mapValues f).field name g = m.field name fun a => g (f a) := by
  simp [field, isEmpty, json, Json.entries, mapValues, Function.comp_def]

/-- Two functions that never agree give the same map only of the empty one. -/
theorem mapValues_eq_iff {f g : α → β} (h : ∀ a, f a ≠ g a) (m : StringMap α) :
    m.mapValues f = m.mapValues g ↔ m.isEmpty := by
  obtain ⟨entries, sorted⟩ := m
  cases entries <;> simp [mapValues, isEmpty, h]

end StringMap

/-- A decoder reads one value only. -/
theorem Decoder.Reads.reads_iff {d : Decoder α} {j : Json} {a : α} (ha : d.Reads j a) (b : α) :
    d.Reads j b ↔ a = b := by
  constructor
  · intro hb
    cases (ha ⟨.epoch, id, 0⟩).symm.trans (hb ⟨.epoch, id, 0⟩)
    rfl
  · rintro rfl
    exact ha

/-! ### Attributes -/

namespace Attribute

/-- An attribute as its value is written: one without a type of its own counts as its text. -/
def asWritten (a : Attribute) : Attribute :=
  match a.value with
  | .str _ | .bool _ | .int _ | .float _ => a
  | other => ⟨.str other.render⟩

/-- What is read in place of an attribute: the object that was written of it. -/
def asRead (a : Attribute) : Attribute := ⟨a.json⟩

theorem asRead_ne_asWritten (a : Attribute) : a.asRead ≠ a.asWritten := by
  obtain ⟨value⟩ := a
  cases value <;> simp [asRead, asWritten, json]

theorem reads_attribute (a : Attribute) : decode.Reads a.value a := fun _ => rfl

theorem field_asRead (name : String) (m : StringMap Attribute) :
    m.field name json = (m.mapValues asRead).field name value :=
  (m.field_mapValues name value asRead).symm

end Attribute

/-- A record that was read is the one that was written only if it has no attributes. -/
theorem Attribute.reads_asWritten_iff {d : Decoder α} {j : Json} {m : StringMap Attribute}
    {mapped : (Attribute → Attribute) → α}
    (mapped_eq : ∀ f g, mapped f = mapped g ↔ m.mapValues f = m.mapValues g)
    (read : d.Reads j (mapped asRead)) : d.Reads j (mapped asWritten) ↔ m.isEmpty := by
  rw [read.reads_iff, mapped_eq, m.mapValues_eq_iff asRead_ne_asWritten]

/-! ### Records -/

theorem LogLevel.inverts : LogLevel.decode.Inverts fun l => .str l.name :=
  Decoder.inverts_named fun l => by cases l <;> decide

theorem MetricKind.inverts :
    (Decoder.named MetricKind.parse? Decoder.isNull).Inverts fun k => .str k.name :=
  Decoder.inverts_named fun k => by cases k <;> decide

theorem Decoder.inverts_uint8 : uint8.Inverts fun n => .int n.toNat := by
  refine fun n => ⟨nofun, fun s => ?_⟩
  rw [uint8, reads_natBelow n.toNat_lt_size s]
  simp only [Except.map, UInt8.ofNat_toNat]

open Decoder

/-- A log with its attributes changed. -/
def Log.mapAttributes (f : Attribute → Attribute) (l : Log) : Log :=
  { l with attributes := l.attributes.mapValues f }

theorem Log.mapAttributes_eq_iff (l : Log) (f g : Attribute → Attribute) :
    l.mapAttributes f = l.mapAttributes g ↔
      l.attributes.mapValues f = l.attributes.mapValues g := by
  simp [mapAttributes]

theorem Log.reads {l : Log} (whole : l.timestamp.IsWhole) :
    ∃ j, l.json? = some j ∧ decode.Reads j (l.mapAttributes .asRead) := by
  obtain ⟨timestamp, written, read⟩ := whole.reads
  refine ⟨_, by simp only [json?, written]; rfl, ?_⟩
  rw [Attribute.field_asRead]
  refine reads_record (by simp [Named, fieldNames]) (by decide) fun fs w => ?_
  exact (w.written 0 rfl rfl (LogLevel.inverts l.level).2 _).map Log.mk
    |>.seq (w.required 1 rfl rfl inverts_string)
    |>.seq (w.optional 2 rfl rfl (HexId.inverts rfl))
    |>.seq (w.written 3 rfl rfl read _)
    |>.seq (w.optional 4 rfl rfl inverts_uint8)
    |>.seq (w.map 5 rfl rfl fun e _ => e.2.reads_attribute)

/-- A metric with its attributes changed. -/
def Metric.mapAttributes (f : Attribute → Attribute) (m : Metric) : Metric :=
  { m with attributes := m.attributes.mapValues f }

theorem Metric.mapAttributes_eq_iff (m : Metric) (f g : Attribute → Attribute) :
    m.mapAttributes f = m.mapAttributes g ↔
      m.attributes.mapValues f = m.attributes.mapValues g := by
  simp [mapAttributes]

/-- A metric that can be sent as it is: its time is a whole second and its value a number. -/
structure Metric.Exact (m : Metric) : Prop where
  timestamp : m.timestamp.IsWhole
  value : m.value.isFinite

theorem Metric.reads {m : Metric} (exact : m.Exact) :
    ∃ j, m.json? = some j ∧ decode.Reads j (m.mapAttributes .asRead) := by
  obtain ⟨timestamp, written, read⟩ := exact.timestamp.reads
  refine ⟨_, by simp only [json?, written]; rfl, ?_⟩
  rw [Attribute.field_asRead]
  refine reads_record (by simp [Named, fieldNames]) (by decide) fun fs w => ?_
  exact (w.written 0 rfl rfl (MetricKind.inverts m.kind).2 _).map Metric.mk
    |>.seq (w.required 1 rfl rfl inverts_string)
    |>.seq (w.required 2 rfl rfl inverts_float)
    |>.seq (w.written 3 rfl rfl read _)
    |>.seq (w.required 4 rfl rfl (HexId.inverts rfl))
    |>.seq (w.optional 5 rfl rfl (HexId.inverts rfl))
    |>.seq (w.optional 6 rfl rfl inverts_string)
    |>.seq (w.map 7 rfl rfl fun e _ => e.2.reads_attribute)

/-- A log whose time is a whole second is read back but for its attributes, and so is a metric whose
value moreover is finite: in place of each attribute stands the object that was written of it. That
is the record again, even with attributes counted as the text they are written as, only if there
are no attributes. -/
theorem survive_but_for_attributes (l : Log) (whole : l.timestamp.IsWhole) (m : Metric)
    (exact : m.Exact) :
    (∃ j, l.json? = some j ∧ Log.decode.Reads j (l.mapAttributes .asRead) ∧
      (Log.decode.Reads j (l.mapAttributes .asWritten) ↔ l.attributes.isEmpty)) ∧
    ∃ j, m.json? = some j ∧ Metric.decode.Reads j (m.mapAttributes .asRead) ∧
      (Metric.decode.Reads j (m.mapAttributes .asWritten) ↔ m.attributes.isEmpty) := by
  constructor
  case left =>
    obtain ⟨j, hj, read⟩ := Log.reads whole
    exact ⟨j, hj, read, Attribute.reads_asWritten_iff l.mapAttributes_eq_iff read⟩
  case right =>
    obtain ⟨j, hj, read⟩ := Metric.reads exact
    exact ⟨j, hj, read, Attribute.reads_asWritten_iff m.mapAttributes_eq_iff read⟩

/-- A log with an attribute, and a metric without any. -/
theorem survive_but_for_attributes_both :
    let l : Log := ⟨.info, "hi", none, .ofSeconds 5, none, .ofList [("a", ⟨.str "x"⟩)]⟩
    let m : Metric := ⟨.gauge, "load", 1.5, .ofSeconds 7, .zero 32, none, some "ms", ∅⟩
    l.timestamp.IsWhole ∧ m.Exact ∧
    (∃ j, l.json? = some j ∧ Log.decode.Reads j (l.mapAttributes .asRead) ∧
      ¬ Log.decode.Reads j (l.mapAttributes .asWritten)) ∧
    ∃ j, m.json? = some j ∧ Metric.decode.Reads j (m.mapAttributes .asWritten) := by
  intro l m
  have whole : l.timestamp.IsWhole := ⟨5, by decide, rfl⟩
  have exact : m.Exact := ⟨⟨7, by decide, rfl⟩, by decide +kernel⟩
  obtain ⟨⟨j, hj, read, same⟩, j', hj', -, same'⟩ := survive_but_for_attributes l whole m exact
  exact ⟨whole, exact, ⟨j, hj, read, fun h => absurd (same.mp h) (by decide)⟩, j', hj',
    same'.mpr rfl⟩

/-- What is written of a log with an attribute is not read as that log. -/
theorem log_attribute_wrapped :
    let l : Log := ⟨.info, "hi", none, .ofSeconds 5, none, .ofList [("a", ⟨.str "x"⟩)]⟩
    ∃ j, l.json? = some j ∧ ¬ Log.decode.Reads j l ∧ Log.decode.Reads j { l with
      attributes := .ofList [("a", ⟨.obj [("value", .str "x"), ("type", .str "string")]⟩)] } := by
  intro l
  obtain ⟨j, hj, read⟩ := Log.reads (l := l) ⟨5, by decide, rfl⟩
  refine ⟨j, hj, fun h => ?_, read⟩
  have same := (read.reads_iff l).mp h
  simp [l, Log.mapAttributes, StringMap.mapValues, StringMap.ofList, StringMap.insertAll,
    StringMap.insert, insertSorted, StringMap.empty, Attribute.asRead, Attribute.json] at same

end Telemetry
