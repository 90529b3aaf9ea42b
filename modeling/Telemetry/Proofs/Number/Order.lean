import Telemetry.Trace.Header

/-! Rates in order: comparing single-precision numbers is comparing what their bits stand for. -/

namespace Telemetry

namespace Binary

open Float.Model

theorem single_le_iff {a b : Float32} :
    a ≤ b ↔ a.toModel.unpack.le b.toModel.unpack = true := by
  show a.le b = true ↔ _
  simp only [Float32.le, decide_eq_true_eq]
  rfl

theorem unpack_zero : (0 : Float32).toModel.unpack = .zero .positive := rfl

theorem unpack_one :
    (1 : Float32).toModel.unpack = .finite .positive 8388608 (-23) (by decide) := rfl

/-- What is at most 0 is not from 1 on. -/
theorem not_one_le {a : Float32} (h : a ≤ 0) : ¬ a ≥ 1 := by
  intro h1
  have low := single_le_iff.mp h
  have high := single_le_iff.mp h1
  rw [unpack_zero] at low
  rw [unpack_one] at high
  generalize a.toModel.unpack = u at low high
  cases u with
  | infinity s =>
    cases s with
    | negative => exact Bool.false_ne_true high
    | positive => exact Bool.false_ne_true low
  | notANumber => exact Bool.false_ne_true low
  | zero s => exact Bool.false_ne_true high
  | finite s m e hm =>
    cases s with
    | negative => exact Bool.false_ne_true high
    | positive => exact Bool.false_ne_true low

theorem single_lt_iff {a b : Float32} :
    a < b ↔ a.toModel.unpack.lt b.toModel.unpack = true := by
  show a.lt b = true ↔ _
  simp only [Float32.lt, decide_eq_true_eq]
  rfl

theorem isNaN_iff {a : Float32} : a.isNaN = true ↔ a.toModel.unpack = .notANumber := by
  show a.toModel.unpack.isNaN = true ↔ _
  cases a.toModel.unpack with
  | notANumber => exact iff_of_true rfl rfl
  | infinity s => exact iff_of_false Bool.false_ne_true (by rintro ⟨⟩)
  | zero s => exact iff_of_false Bool.false_ne_true (by rintro ⟨⟩)
  | finite s m e hm => exact iff_of_false Bool.false_ne_true (by rintro ⟨⟩)

/-- What is not from 0 to 1 is below, above, or in no order at all. -/
theorem outside_iff {a : Float32} :
    ¬ (0 ≤ a ∧ a ≤ 1) ↔ a < 0 ∨ 1 < a ∨ a.isNaN = true := by
  rw [single_le_iff, single_le_iff, single_lt_iff, single_lt_iff, isNaN_iff, unpack_zero, unpack_one]
  generalize a.toModel.unpack = u
  cases u with
  | notANumber => exact iff_of_true (fun h => Bool.false_ne_true h.1) (.inr (.inr rfl))
  | infinity s =>
    cases s with
    | negative => exact iff_of_true (fun h => Bool.false_ne_true h.1) (.inl rfl)
    | positive => exact iff_of_true (fun h => Bool.false_ne_true h.2) (.inr (.inl rfl))
  | zero s =>
    refine iff_of_false (fun h => h ⟨rfl, rfl⟩) ?_
    rintro (below | above | none)
    · exact Bool.false_ne_true below
    · exact Bool.false_ne_true above
    · cases none
  | finite s m e hm =>
    cases s with
    | negative => exact iff_of_true (fun h => Bool.false_ne_true h.1) (.inl rfl)
    | positive =>
      -- one comparison with 1 answers both questions about it
      let c := (compare e (-23)).then (compare m 8388608)
      have flip : ((compare (-23) e).then (compare 8388608 m)) = c.swap := by
        rw [Ordering.swap_then, ← Std.OrientedCmp.eq_swap, ← Std.OrientedCmp.eq_swap]
      let one : UnpackedFloat := .finite .positive 8388608 (-23) (by decide)
      have le : UnpackedFloat.le (.finite .positive m e hm) one = c.isLE := rfl
      have lt : UnpackedFloat.lt one (.finite .positive m e hm) = (some c.swap == some .lt) :=
        congrArg (fun o => some o == some Ordering.lt) flip
      rw [le, lt]
      generalize c = o
      cases o with
      | gt => exact iff_of_true (fun h => Bool.false_ne_true h.2) (.inr (.inl rfl))
      | lt | eq =>
        refine iff_of_false (fun h => h ⟨rfl, rfl⟩) ?_
        rintro (below | above | none)
        · exact Bool.false_ne_true below
        · exact Bool.false_ne_true above
        · cases none

end Binary

/-- Nothing is kept at a rate up to 0. -/
theorem keptAtRate_of_le_zero {rate : Float32} (h : rate ≤ 0) (draw : Float32) :
    keptAtRate rate draw = false := by
  rw [keptAtRate, if_neg (Binary.not_one_le h), if_pos h]

end Telemetry
