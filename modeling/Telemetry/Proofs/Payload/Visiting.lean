import Telemetry.Proofs.Number.Seconds
import Telemetry.Proofs.Payload.Context

/-! Which times decoding comes to. The values of a record are visited in the order of the text, and the
first one that is refused is the fault that the record has: no value behind it counts, nor does an
absent field. So a time is come to if everything in front of it was accepted. -/

namespace Telemetry

variable {α β : Type} {times : Json → Float → Prop}

/-- The decoder fails for good just if it comes to a time that is too long. -/
structure Decoder.ComesTo (d : Decoder α) (times : Json → Float → Prop) : Prop where
  steady : d.Steady
  overflow : ∀ j s, d j s = .error .overflow ↔ ∃ x, times j x ∧ TooLong x

/-- The decoder comes to no times. -/
def Decoder.Timeless (d : Decoder α) : Prop := d.ComesTo fun _ _ => False

/-- A field of a record, and the times that reading its value comes to. -/
structure Slot where
  name : String
  {Value : Type}
  {decode : Decoder Value}
  {times : Json → Float → Prop}
  comesTo : decode.ComesTo times

namespace Fields

/-- What a record is visited as. -/
def of? (names : List String) : Json → Option Fields
  | .obj entries => some ⟨entries, false⟩
  | .arr items => some ⟨names.zip items, true⟩
  | _ => none

/-- Every value in front of a position is accepted. -/
def Accepted (fs : Fields) (slots : List Slot) (i : Nat) : Prop :=
  ∀ a ∈ slots, ∀ k v, Field.find? fs a.name = some (k, v) → k < i → a.decode.Takes v

/-- Reading the fields comes to a time. -/
def ComeTo (fs : Fields) (slots : List Slot) (x : Float) : Prop :=
  ∃ a ∈ slots, ∃ i v, Field.find? fs a.name = some (i, v) ∧ fs.Accepted slots i ∧ a.times v x

end Fields

/-- Reading a record comes to a time. -/
def recordTimes (slots : List Slot) (j : Json) (x : Float) : Prop :=
  ∃ fs, Fields.of? (slots.map Slot.name) j = some fs ∧ fs.ComeTo slots x

/-- Reading an array comes to a time of an item: the items in front are accepted. -/
def itemTimes (d : Decoder α) (times : Json → Float → Prop) (j : Json) (x : Float) : Prop :=
  ∃ front v back, j = .arr (front ++ v :: back) ∧ (∀ u ∈ front, d.Takes u) ∧ times v x

/-! ### Failures -/

theorem map_eq_error {ε : Type} {x : Except ε α} {f : α → β} {e : ε} :
    x.map f = .error e ↔ x = .error e := by
  cases x <;> simp [Except.map]

theorem bind_eq_error {ε : Type} {x : Except ε α} {f : α → Except ε β} {e : ε} :
    x >>= f = .error e ↔ x = .error e ∨ ∃ a, x = .ok a ∧ f a = .error e := by
  cases x <;> simp [bind, Except.bind]

/-! ### Decoders -/

namespace Decoder

variable {d : Decoder α}

theorem timeless_of (steady : d.Steady) (never : ∀ j s, d j s ≠ .error .overflow) :
    d.Timeless where
  steady := steady
  overflow j s := iff_of_false (never j s) (by simp)

theorem Timeless.never (h : d.Timeless) (j : Json) (s : Fresh) : d j s ≠ .error .overflow := by
  intro failed
  obtain ⟨x, none, -⟩ := (h.overflow j s).mp failed
  exact none

theorem timeless_plain {f : Json → Except DecodeError α} (never : ∀ j, f j ≠ .error .overflow) :
    (plain f).Timeless :=
  timeless_of (steady_plain f) fun j _ failed => never j (map_eq_error.mp failed)

theorem ComesTo.refuses (h : d.ComesTo times) {j : Json} {x : Float} (there : times j x)
    (long : TooLong x) : ¬ d.Takes j := by
  intro takes
  obtain ⟨r, accepted⟩ := takes ⟨.epoch, id, 0⟩
  rw [(h.overflow j _).mpr ⟨x, there, long⟩] at accepted
  cases accepted

theorem Steady.takes (steady : d.Steady) {j : Json} {s : Fresh} {r : α × Fresh}
    (accepted : d j s = .ok r) : d.Takes j := fun s' => steady j s s' r accepted

theorem ComesTo.option (h : d.ComesTo times) :
    (option d).ComesTo fun j x => j ≠ .null ∧ times j x where
  steady := h.steady.option
  overflow j s := by
    by_cases hj : j = .null
    · subst hj
      exact iff_of_false nofun (by simp)
    · rw [option_of_ne_null d hj, map_eq_error, h.overflow]
      simp [hj]

theorem Timeless.option (h : d.Timeless) : (option d).Timeless :=
  timeless_of h.steady.option fun j s failed => by
    obtain ⟨x, ⟨-, none⟩, -⟩ := (ComesTo.overflow (ComesTo.option h) j s).mp failed
    exact none

theorem steady_items (steady : d.Steady) (js : List Json) (s s' : Fresh) (r : List α × Fresh)
    (accepted : items d js s = .ok r) : ∃ r', items d js s' = .ok r' := by
  induction js generalizing s s' r with
  | nil => exact ⟨_, rfl⟩
  | cons j js ih =>
    obtain ⟨⟨a, t⟩, first, accepted⟩ := bind_eq_ok accepted
    obtain ⟨⟨as, t₁⟩, others, -⟩ := bind_eq_ok accepted
    obtain ⟨⟨b, t'⟩, first'⟩ := steady j s s' _ first
    obtain ⟨⟨bs, t₁'⟩, others'⟩ := ih t t' _ others
    exact ⟨_, items_cons first' others'⟩

theorem ComesTo.items (h : d.ComesTo times) (js : List Json) (s : Fresh) :
    items d js s = .error .overflow ↔
      ∃ front v back, js = front ++ v :: back ∧ (∀ u ∈ front, d.Takes u) ∧
        ∃ x, times v x ∧ TooLong x := by
  induction js generalizing s with
  | nil => exact iff_of_false nofun (by simp)
  | cons j js ih =>
    simp only [Decoder.items, bind_eq_error, h.overflow, ih, reduceCtorEq, and_false, exists_false,
      or_false]
    constructor
    · rintro (first | ⟨r, accepted, front, v, back, rfl, takes, there⟩)
      · exact ⟨[], j, js, rfl, List.forall_mem_nil _, first⟩
      · refine ⟨j :: front, v, back, rfl, ?_, there⟩
        exact List.forall_mem_cons.mpr ⟨h.steady.takes accepted, takes⟩
    · rintro ⟨front, v, back, split, takes, there⟩
      cases front with
      | nil =>
        cases split
        exact .inl there
      | cons u front =>
        cases split
        obtain ⟨r, accepted⟩ := takes j List.mem_cons_self s
        have takes := (List.forall_mem_cons.mp takes).2
        exact .inr ⟨r, accepted, front, v, back, rfl, takes, there⟩

theorem ComesTo.list (h : d.ComesTo times) : (list d).ComesTo (itemTimes d times) where
  steady j s s' r accepted := by
    cases j with
    | arr js => exact steady_items h.steady js s s' r accepted
    | _ => cases accepted
  overflow j s := by
    cases j with
    | arr js =>
      show Decoder.items d js s = _ ↔ _
      rw [h.items]
      constructor
      · rintro ⟨front, v, back, rfl, takes, x, there, long⟩
        exact ⟨x, ⟨front, v, back, rfl, takes, there⟩, long⟩
      · rintro ⟨x, ⟨front, v, back, same, takes, there⟩, long⟩
        cases same
        exact ⟨front, v, back, rfl, takes, x, there, long⟩
    | _ =>
      refine iff_of_false nofun ?_
      rintro ⟨x, ⟨front, v, back, ⟨⟩, -⟩, -⟩

theorem Timeless.list (h : d.Timeless) : (list d).Timeless :=
  timeless_of (ComesTo.list h).steady fun j s failed => by
    obtain ⟨x, ⟨_, _, _, _, _, none⟩, _⟩ := ((ComesTo.list h).overflow j s).mp failed
    exact none

theorem steady_values (steady : d.Steady) (es : List (String × Json)) (s s' : Fresh)
    (r : List (String × α) × Fresh) (accepted : values d es s = .ok r) :
    ∃ r', values d es s' = .ok r' := by
  induction es generalizing s s' r with
  | nil => exact ⟨_, rfl⟩
  | cons e es ih =>
    obtain ⟨k, j⟩ := e
    obtain ⟨a, as, t, first, others, -⟩ := values_eq_ok accepted
    obtain ⟨⟨b, t'⟩, first'⟩ := steady j s s' _ first
    obtain ⟨⟨bs, t₁'⟩, others'⟩ := ih t t' _ others
    exact ⟨_, values_cons first' others'⟩

theorem Timeless.values (h : d.Timeless) (es : List (String × Json)) (s : Fresh) :
    values d es s ≠ .error .overflow := by
  induction es generalizing s with
  | nil => exact nofun
  | cons e es ih =>
    intro failed
    rw [Decoder.values] at failed
    rcases bind_eq_error.mp failed with first | ⟨r, -, later⟩
    · exact h.never _ _ first
    · rcases bind_eq_error.mp later with others | ⟨_, -, ⟨⟩⟩
      exact ih _ others

theorem Timeless.map (h : d.Timeless) : (map d).Timeless := by
  refine timeless_of (fun j s s' r accepted => ?_) fun j s failed => ?_
  · cases j with
    | obj es =>
      obtain ⟨r, accepted, -⟩ := map_eq_ok accepted
      exact exists_map_ok.mpr (steady_values h.steady es s s' r accepted)
    | _ => cases accepted
  · cases j with
    | obj es => exact h.values es s (map_eq_error.mp failed)
    | _ => cases failed

/-- The result is turned into another. -/
theorem Timeless.mapped (h : d.Timeless) (g : α × Fresh → β × Fresh) :
    Timeless fun j s => (d j s).map g := by
  refine timeless_of (fun j s s' r accepted => ?_) fun j s failed => ?_
  · obtain ⟨r, accepted, -⟩ := map_eq_ok accepted
    exact exists_map_ok.mpr (h.steady j s s' r accepted)
  · exact h.never j s (map_eq_error.mp failed)

end Decoder

/-! ### Fields -/

theorem Field.find?_go_eq_some {name : String} {es : List (String × Json)} {i k : Nat} {v : Json}
    (found : find?.go name i es = some (k, v)) : i ≤ k ∧ es[k - i]? = some (name, v) := by
  induction es generalizing i with
  | nil => cases found
  | cons e es ih =>
    obtain ⟨n, j⟩ := e
    rw [find?.go] at found
    split at found
    · next same =>
      cases found
      rw [Nat.sub_self, same]
      exact ⟨Nat.le_refl _, rfl⟩
    · obtain ⟨behind, found⟩ := ih found
      refine ⟨by omega, ?_⟩
      rw [show k - i = k - (i + 1) + 1 by omega]
      exact found

/-- A field stands where it is found. -/
theorem Field.find?_eq_some {fs : Fields} {name : String} {i : Nat} {v : Json}
    (found : find? fs name = some (i, v)) : fs.entries[i]? = some (name, v) :=
  (find?_go_eq_some found).2

namespace Fields

variable {fs : Fields} {xs ys : List Slot} {i k : Nat}

theorem Accepted.mono (h : fs.Accepted xs i) (le : k ≤ i) : fs.Accepted xs k :=
  fun a ha k' v found front => h a ha k' v found (Nat.lt_of_lt_of_le front le)

theorem Accepted.append (hx : fs.Accepted xs i) (hy : fs.Accepted ys i) :
    fs.Accepted (ys ++ xs) i := by
  intro a ha
  rcases List.mem_append.mp ha with ha | ha
  · exact hy a ha
  · exact hx a ha

/-- What is known if the slots have been visited: if a value was refused, it is the first, and it was
fatal just if it came to a time that is too long. -/
def Told (fs : Fields) (slots : List Slot) : Option Fault → Prop
  | none => ∀ i, fs.Accepted slots i
  | some (.absent e) => e ≠ .overflow ∧ ∀ i, fs.Accepted slots i
  | some (.value i e) => fs.Accepted slots i ∧ ∃ a ∈ slots, ∃ v,
    Field.find? fs a.name = some (i, v) ∧ ¬ a.decode.Takes v ∧
      (e = .overflow ↔ ∃ x, a.times v x ∧ TooLong x)

theorem Told.right {f : Option Fault} (hx : fs.Told xs none) (hy : fs.Told ys f) :
    fs.Told (ys ++ xs) f := by
  match f with
  | none => exact fun i => (hx i).append (hy i)
  | some (.absent e) => exact ⟨hy.1, fun i => (hx i).append (hy.2 i)⟩
  | some (.value i e) =>
    obtain ⟨front, a, ha, refused⟩ := hy
    exact ⟨(hx i).append front, a, List.mem_append_left _ ha, refused⟩

theorem Told.left {f : Option Fault} (hx : fs.Told xs f) (hy : fs.Told ys none) :
    fs.Told (ys ++ xs) f := by
  match f with
  | none => exact fun i => (hx i).append (hy i)
  | some (.absent e) => exact ⟨hx.1, fun i => (hx.2 i).append (hy i)⟩
  | some (.value i e) =>
    obtain ⟨front, a, ha, refused⟩ := hx
    exact ⟨front.append (hy i), a, List.mem_append_right _ ha, refused⟩

/-- The worse of two faults is the earlier one. -/
theorem Told.worse {f g : Fault} (hx : fs.Told xs (some f)) (hy : fs.Told ys (some g)) :
    fs.Told (ys ++ xs) (some (f.worse g)) := by
  match f, g with
  | .absent e, .absent e' => exact hx.left (f := some (.absent e)) hy.2
  | .value i e, .absent e' => exact hx.left (f := some (.value i e)) hy.2
  | .absent e, .value k e' => exact Told.right (f := some (.value k e')) hx.2 hy
  | .value i e, .value k e' =>
    obtain ⟨frontx, a, ha, atx⟩ := hx
    obtain ⟨fronty, b, hb, aty⟩ := hy
    rw [Fault.worse]
    split
    · next earlier =>
      exact ⟨(frontx.mono (Nat.le_of_lt earlier)).append fronty, b, List.mem_append_left _ hb, aty⟩
    · next later =>
      exact ⟨frontx.append (fronty.mono (Nat.le_of_not_lt later)), a,
        List.mem_append_right _ ha, atx⟩

end Fields

/-- The fault of a result. -/
def fault? : Except Fault α → Option Fault
  | .ok _ => none
  | .error f => some f

/-- A field reads the values of these slots. -/
structure Field.Visits (f : Field α) (slots : List Slot) : Prop where
  steady : f.Steady
  told : ∀ (fs : Fields) s, fs.Told slots (fault? (f fs s))

namespace Field

variable {f : Field (β → α)} {x : Field β} {xs ys : List Slot}

theorem Visits.seq (hf : f.Visits xs) (hx : x.Visits ys) : (f <*> x).Visits (ys ++ xs) where
  steady := hf.steady.seq hx.steady
  told fs s := by
    have toldf := hf.told fs s
    show fs.Told _ (fault? (Field.seq f x fs s))
    unfold Field.seq
    generalize f fs s = first at toldf
    cases first with
    | error e =>
      have toldx := hx.told fs s
      dsimp only
      generalize x fs s = second at toldx
      cases second with
      | error e' => exact Fields.Told.worse toldf toldx
      | ok r => exact Fields.Told.left toldf toldx
    | ok r =>
      have toldx := hx.told fs r.2
      dsimp only
      generalize x fs r.2 = second at toldx
      cases second with
      | error e' => exact Fields.Told.right toldf toldx
      | ok r' => exact Fields.Told.right toldf toldx

theorem visits_pure (a : α) : (pure a : Field α).Visits [] where
  steady := steady_pure a
  told _ _ _ := nofun

/-- A field that is found is told of by its decoder, and one that is absent never fails for good. -/
theorem told_orElse {name : String} {d : Decoder β} (hd : d.ComesTo times) (fs : Fields) (s : Fresh)
    {absent : Fields → Fresh → Except Fault (β × Fresh)}
    (left : ∀ e, absent fs s = .error e → ∃ c, e = .absent c ∧ c ≠ .overflow) :
    fs.Told [⟨name, hd⟩] (fault? (orElse name d absent fs s)) := by
  unfold orElse
  rcases found : find? fs name with _ | ⟨i, j⟩
  · have none (i : Nat) : fs.Accepted [⟨name, hd⟩] i := by
      intro a ha k v there
      rw [List.mem_singleton.mp ha] at there
      cases found.symm.trans there
    dsimp only
    rcases result : absent fs s with e | r
    · obtain ⟨c, rfl, mild⟩ := left e result
      exact ⟨mild, none⟩
    · exact none
  · have one {i' : Nat} (takes : i < i' → d.Takes j) : fs.Accepted [⟨name, hd⟩] i' := by
      intro a ha k v there front
      rw [List.mem_singleton.mp ha] at there ⊢
      cases found.symm.trans there
      exact takes front
    dsimp only
    rcases result : d j s with e | r
    · refine ⟨one fun back => absurd back (Nat.lt_irrefl i), _, List.mem_singleton_self _, j, found,
        fun takes => ?_, ?_⟩
      · obtain ⟨r, accepted⟩ := takes s
        cases result.symm.trans accepted
      · rw [← hd.overflow j s, result]
        exact ⟨congrArg _, Except.error.inj⟩
    · exact fun i' => one fun _ => hd.steady.takes result

theorem Visits.drawn (hf : f.Visits xs) {name : String} {d : Decoder β} (hd : d.ComesTo times)
    (draw : Fresh → β × Fresh) : (f <*> drawn name d draw).Visits (⟨name, hd⟩ :: xs) :=
  hf.seq ⟨steady_drawn name hd.steady draw, fun fs s => told_orElse hd fs s nofun⟩

theorem Visits.defaulted (hf : f.Visits xs) {name : String} {d : Decoder β} (hd : d.ComesTo times)
    (value : β) : (f <*> defaulted name d value).Visits (⟨name, hd⟩ :: xs) :=
  hf.drawn hd fun s => (value, s)

theorem steady_required (name : String) {d : Decoder α} (hd : d.Steady) :
    (Field.required name d).Steady := steady_orElse hd name nofun

theorem Visits.required (hf : f.Visits xs) {name : String} {d : Decoder β} (hd : d.ComesTo times) :
    (f <*> required name d).Visits (⟨name, hd⟩ :: xs) := by
  refine hf.seq ⟨steady_required name hd.steady, fun fs s => told_orElse hd fs s ?_⟩
  rintro e ⟨⟩
  refine ⟨_, rfl, ?_⟩
  split <;> nofun

theorem Visits.comes {f : Field α} (h : f.Visits xs) {fs : Fields} {s : Fresh} {e : Fault}
    (failed : f fs s = .error e) (fatal : e.cause = .overflow) :
    ∃ x, fs.ComeTo xs x ∧ TooLong x := by
  have told := h.told fs s
  rw [failed] at told
  cases e with
  | absent c => exact absurd fatal told.1
  | value i c =>
    obtain ⟨front, a, ha, v, found, -, why⟩ := told
    obtain ⟨x, there, long⟩ := why.mp fatal
    exact ⟨x, ⟨a, ha, i, v, found, front, there⟩, long⟩

/-- A field fails for good just if it comes to a time that is too long. -/
theorem Visits.overflow {f : Field α} (h : f.Visits xs) (distinct : (xs.map Slot.name).Nodup)
    (fs : Fields) (s : Fresh) :
    (∃ e, f fs s = .error e ∧ e.cause = .overflow) ↔ ∃ x, fs.ComeTo xs x ∧ TooLong x := by
  constructor
  · rintro ⟨e, failed, fatal⟩
    exact h.comes failed fatal
  · rintro ⟨x, ⟨a, ha, i, v, found, front, there⟩, long⟩
    have told := h.told fs s
    have refused : ¬ a.decode.Takes v := a.comesTo.refuses there long
    have stops (all : ∀ i, fs.Accepted xs i) : False :=
      refused (all (i + 1) a ha i v found (Nat.lt_succ_self i))
    generalize f fs s = result at told
    match result with
    | .ok r => exact (stops told).elim
    | .error (.absent c) => exact (stops told.2).elim
    | .error (.value k c) =>
      refine ⟨_, rfl, ?_⟩
      obtain ⟨frontk, b, hb, u, foundk, refusedk, why⟩ := told
      -- both are the first that is refused
      obtain rfl : i = k := by
        rcases Nat.lt_trichotomy i k with less | same | more
        · exact absurd (frontk a ha i v found less) refused
        · exact same
        · exact absurd (front b hb k u foundk more) refusedk
      have same := (find?_eq_some found).symm.trans (find?_eq_some foundk)
      obtain ⟨name, rfl⟩ := Prod.mk.inj (Option.some.inj same)
      obtain rfl := List.inj_on_of_nodup_map distinct ha hb name
      exact why.mpr ⟨x, there, long⟩

end Field

/-- A field that comes to no times. -/
def Field.Timeless (f : Field α) : Prop :=
  ∃ slots, f.Visits slots ∧ ∀ a ∈ slots, ∀ v x, ¬ a.times v x

namespace Field

variable {f : Field (β → α)} {name : String} {d : Decoder β}

theorem timeless_pure (a : α) : (pure a : Field α).Timeless := ⟨[], visits_pure a, nofun⟩

theorem Timeless.seq {x : Field β} (hf : Timeless f) (hx : Timeless x) : Timeless (f <*> x) := by
  obtain ⟨xs, visitsf, nonef⟩ := hf
  obtain ⟨ys, visitsx, nonex⟩ := hx
  exact ⟨_, visitsf.seq visitsx, List.forall_mem_append.mpr ⟨nonex, nonef⟩⟩

theorem Timeless.drawn (hf : Timeless f) (hd : d.Timeless) (draw : Fresh → β × Fresh) :
    Timeless (f <*> drawn name d draw) := by
  obtain ⟨slots, visits, none⟩ := hf
  exact ⟨_, visits.drawn hd draw, List.forall_mem_cons.mpr ⟨fun _ _ => id, none⟩⟩

theorem Timeless.defaulted (hf : Timeless f) (hd : d.Timeless) (value : β) :
    Timeless (f <*> defaulted name d value) := hf.drawn hd fun s => (value, s)

theorem Timeless.required (hf : Timeless f) (hd : d.Timeless) :
    Timeless (f <*> required name d) := by
  obtain ⟨slots, visits, none⟩ := hf
  exact ⟨_, visits.required hd, List.forall_mem_cons.mpr ⟨fun _ _ => id, none⟩⟩

end Field

/-! ### Records -/

namespace Decoder

theorem steady_fields {names : List String} {f : Field α} (hf : Field.Steady f) :
    (record names f).Steady := by
  intro j s s' r accepted
  cases j with
  | obj es => exact steady_record hf (fun _ => rfl) accepted
  | arr items =>
    unfold Decoder.record at accepted ⊢
    dsimp only at accepted ⊢
    split at accepted
    · cases accepted
    · next r read =>
      split at accepted
      · next fits =>
        obtain ⟨r', read'⟩ := hf _ _ s s' r (fun _ => rfl) read
        exact ⟨r', by rw [read']; exact if_pos fits⟩
      · cases accepted
  | _ => cases accepted

theorem record_overflow {names : List String} {f : Field α} {j : Json} {s : Fresh} :
    record names f j s = .error .overflow ↔
      ∃ fs, Fields.of? names j = some fs ∧ ∃ e, f fs s = .error e ∧ e.cause = .overflow := by
  cases j with
  | obj es =>
    show (f ⟨es, false⟩ s).mapError Fault.cause = _ ↔ _
    simp only [Fields.of?, Option.some.injEq, exists_eq_left']
    generalize f ⟨es, false⟩ s = read
    cases read <;> simp [Except.mapError]
  | arr items =>
    unfold record
    simp only [Fields.of?, Option.some.injEq, exists_eq_left']
    generalize f ⟨names.zip items, true⟩ s = read
    cases read with
    | error e => simp
    | ok r =>
      dsimp only
      split <;> simp
  | _ => simp [record, Fields.of?]

theorem timeless_record {names : List String} {f : Field α} (h : Field.Timeless f) :
    (record names f).Timeless := by
  obtain ⟨slots, visits, none⟩ := h
  refine timeless_of (steady_fields visits.steady) fun j s failed => ?_
  obtain ⟨fs, -, e, refused, fatal⟩ := record_overflow.mp failed
  obtain ⟨x, ⟨a, ha, _, v, _, _, there⟩, _⟩ := visits.comes refused fatal
  exact none a ha v x there

/-- A record comes to the times of its slots. -/
theorem comesTo_record {slots : List Slot} {f : Field α} (visits : f.Visits slots.reverse)
    {names : List String} (inOrder : names = slots.map Slot.name) (distinct : names.Nodup) :
    (record names f).ComesTo (recordTimes slots) where
  steady := steady_fields visits.steady
  overflow j s := by
    subst inOrder
    have distinct : (slots.reverse.map Slot.name).Nodup := by
      rw [List.map_reverse, List.nodup_reverse]
      exact distinct
    have order (fs : Fields) (x : Float) : fs.ComeTo slots.reverse x ↔ fs.ComeTo slots x := by
      simp only [Fields.ComeTo, Fields.Accepted, List.mem_reverse]
    simp only [record_overflow, visits.overflow distinct, order, recordTimes]
    constructor
    · rintro ⟨fs, view, x, there, long⟩
      exact ⟨x, ⟨fs, view, there⟩, long⟩
    · rintro ⟨x, ⟨fs, view, there⟩, long⟩
      exact ⟨fs, view, x, there, long⟩

end Decoder

end Telemetry
