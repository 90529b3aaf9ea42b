import Telemetry.Payload.Decode
import Telemetry.Proofs.StringMap
import Telemetry.Proofs.Text.Hex

/-! Decoders that read back what was written. A record is read field by field: each finds its own
entry among those written, or gives the value for which none is written. Nothing is drawn. -/

namespace Telemetry

variable {α β : Type}

/-- A decoder reads a value from its payload form and draws nothing. -/
def Decoder.Reads (d : Decoder α) (j : Json) (a : α) : Prop := ∀ s, d j s = .ok (a, s)

/-- A field reads a value from a record and draws nothing. -/
def Field.Reads (f : Field α) (fs : Fields) (a : α) : Prop := ∀ s, f fs s = .ok (a, s)

/-- A decoder reads back whatever was written, which is never null. -/
def Decoder.Inverts (d : Decoder α) (f : α → Json) : Prop := ∀ a, f a ≠ .null ∧ d.Reads (f a) a

theorem ok_bind (a : α) (f : α → Except DecodeError β) : (Except.ok a >>= f) = f a := rfl

/-! ### Single values -/

namespace Decoder

theorem inverts_string : string.Inverts .str := fun _ => ⟨nofun, fun _ => rfl⟩

theorem inverts_bool : bool.Inverts .bool := fun _ => ⟨nofun, fun _ => rfl⟩

theorem inverts_float : float.Inverts .float := fun _ => ⟨nofun, fun _ => rfl⟩

theorem reads_natBelow {bound n : Nat} (h : n < bound) : (natBelow bound).Reads (.int n) n := by
  intro s
  have below : (0 : Int) ≤ n ∧ (n : Int) < bound := by omega
  simp only [natBelow, plain, if_pos below, Except.map, Int.toNat_natCast]

theorem inverts_uint64 : uint64.Inverts fun n => .int n.toNat := by
  refine fun n => ⟨nofun, fun s => ?_⟩
  rw [uint64, reads_natBelow n.toNat_lt_size s]
  simp only [Except.map, UInt64.ofNat_toNat]

theorem inverts_hexId {n : Nat} (even : n % 2 = 0) : (hexId n).Inverts fun i => .str i.text := by
  refine fun i => ⟨nofun, fun s => ?_⟩
  simp only [hexId, plain, HexId.parse_text i even]
  rfl

theorem inverts_uuid : uuid.Inverts fun u => .str u.text := by
  refine fun u => ⟨nofun, fun s => ?_⟩
  simp only [uuid, plain, Uuid.parse?_text, Except.map]

/-- A name is read back if parsing knows it. -/
theorem inverts_named {parse? : String → Option α} {isUnit : Json → Bool} {f : α → String}
    (h : ∀ a, parse? (f a) = some a) : (named parse? isUnit).Inverts fun a => .str (f a) := by
  refine fun a => ⟨nofun, fun s => ?_⟩
  simp only [named, plain, h, named.get, Except.map]

theorem reads_value (j : Json) : value.Reads j j := fun _ => rfl

theorem option_of_ne_null (d : Decoder α) {j : Json} (hj : j ≠ .null) (s : Fresh) :
    option d j s = (d j s).map fun r => (some r.1, r.2) := by
  cases j with
  | null => exact absurd rfl hj
  | _ => rfl

theorem reads_option_some {d : Decoder α} {j : Json} {a : α} (hj : j ≠ .null) (h : d.Reads j a) :
    (option d).Reads j (some a) := by
  intro s
  rw [option_of_ne_null d hj, h s]
  rfl

/-! ### Lists and maps -/

theorem items_cons {d : Decoder α} {j : Json} {js : List Json} {a : α} {as : List α}
    {s s' s'' : Fresh} (h : d j s = .ok (a, s')) (hs : items d js s' = .ok (as, s'')) :
    items d (j :: js) s = .ok (a :: as, s'') := by
  simp only [items, h, hs, bind, Except.bind]

theorem values_cons {d : Decoder α} {k : String} {j : Json} {es : List (String × Json)} {a : α}
    {as : List (String × α)} {s s' s'' : Fresh} (h : d j s = .ok (a, s'))
    (hs : values d es s' = .ok (as, s'')) :
    values d ((k, j) :: es) s = .ok ((k, a) :: as, s'') := by
  simp only [values, h, hs, bind, Except.bind]

theorem items_map {d : Decoder α} {f : α → Json} {xs : List α}
    (h : ∀ a ∈ xs, d.Reads (f a) a) (s : Fresh) : items d (xs.map f) s = .ok (xs, s) := by
  induction xs with
  | nil => rfl
  | cons a xs ih =>
    exact items_cons (h a (List.mem_cons_self ..) s)
      (ih fun b hb => h b (List.mem_cons_of_mem _ hb))

theorem reads_list {d : Decoder α} {f : α → Json} {xs : List α}
    (h : ∀ a ∈ xs, d.Reads (f a) a) : (list d).Reads (Json.array f xs) xs := items_map h

/-- Items that may fail to have a payload form: if all have one, they are read back. -/
theorem reads_list_of_mapM {d : Decoder α} {f : α → Option Json} {xs : List α}
    (h : ∀ a ∈ xs, ∃ j, f a = some j ∧ d.Reads j a) :
    ∃ js, xs.mapM f = some js ∧ js.isEmpty = xs.isEmpty ∧ (list d).Reads (.arr js) xs := by
  induction xs with
  | nil => exact ⟨[], rfl, rfl, fun _ => rfl⟩
  | cons a xs ih =>
    obtain ⟨j, hj, hd⟩ := h a (List.mem_cons_self ..)
    obtain ⟨js, hjs, -, hds⟩ := ih fun b hb => h b (List.mem_cons_of_mem _ hb)
    exact ⟨j :: js, by simp [hj, hjs], rfl, fun s => items_cons (hd s) (hds s)⟩

theorem values_entries {d : Decoder α} {f : α → Json} {es : List (String × α)}
    (h : ∀ e ∈ es, d.Reads (f e.2) e.2) (s : Fresh) :
    values d (es.map fun e => (e.1, f e.2)) s = .ok (es, s) := by
  induction es with
  | nil => rfl
  | cons e es ih =>
    exact values_cons (h e (List.mem_cons_self ..) s)
      (ih fun b hb => h b (List.mem_cons_of_mem _ hb))

theorem reads_map {d : Decoder α} {f : α → Json} {m : StringMap α}
    (h : ∀ e ∈ m.entries, d.Reads (f e.2) e.2) : (map d).Reads (m.json f) m := by
  intro s
  show (values d (m.entries.map fun e => (e.1, f e.2)) s).map _ = _
  rw [values_entries h]
  simp only [Except.map, StringMap.ofList_entries]

end Decoder

/-! ### Fields -/

namespace Field

theorem Reads.map {f : Field α} {fs : Fields} {a : α} (h : f.Reads fs a) (g : α → β) :
    (g <$> f).Reads fs (g a) := by
  intro s
  show Field.seq (Field.pure g) f fs s = _
  simp only [Field.seq, Field.pure, h s]

theorem Reads.seq {f : Field (α → β)} {x : Field α} {fs : Fields} {g : α → β} {a : α}
    (hf : f.Reads fs g) (hx : x.Reads fs a) : (f <*> x).Reads fs (g a) := by
  intro s
  show Field.seq f x fs s = _
  simp only [Field.seq, hf s, hx s]

theorem reads_pure (fs : Fields) (a : α) : (pure a : Field α).Reads fs a := fun _ => rfl

theorem find?_go_snd (i : Nat) (es : List (String × Json)) (name : String) :
    (find?.go name i es).map Prod.snd = es.lookup name := by
  induction es generalizing i with
  | nil => rfl
  | cons e es ih =>
    obtain ⟨k, j⟩ := e
    rw [find?.go, lookup_entry]
    by_cases hk : k = name
    · rw [if_pos hk, if_pos hk.symm]
      rfl
    · rw [if_neg hk, if_neg (Ne.symm hk), ih]

/-- A field is found by its name. -/
theorem find?_snd (fs : Fields) (name : String) :
    (find? fs name).map Prod.snd = fs.entries.lookup name := find?_go_snd 0 fs.entries name

theorem orElse_present {fs : Fields} {name : String} {j : Json}
    (h : fs.entries.lookup name = some j) {d : Decoder α} {a : α} (hd : d.Reads j a)
    (absent : Fields → Fresh → Except Fault (α × Fresh)) : (orElse name d absent).Reads fs a := by
  intro s
  rw [← find?_snd, Option.map_eq_some_iff] at h
  obtain ⟨⟨i, j'⟩, hfind, rfl⟩ := h
  simp only [orElse, hfind]
  rw [hd s]
  rfl

theorem orElse_absent {fs : Fields} {name : String} (h : fs.entries.lookup name = none)
    (d : Decoder α) {absent : Fields → Fresh → Except Fault (α × Fresh)} {a : α}
    (ha : ∀ s, absent fs s = .ok (a, s)) : (orElse name d absent).Reads fs a := by
  intro s
  rw [← find?_snd, Option.map_eq_none_iff] at h
  simp only [orElse, h, ha s]

end Field

/-! ### Records -/

/-- An entry has a name, if it is written. -/
def IsNamed (name : String) (e : Option (String × Json)) : Prop := ∀ p, e = some p → p.1 = name

@[simp] theorem isNamed_some (name : String) (j : Json) : IsNamed name (some (name, j)) := by
  rintro p ⟨⟩
  rfl

@[simp] theorem isNamed_optional (name : String) (f : α → Json) (v : Option α) :
    IsNamed name (Json.optional name f v) := by
  intro p hp
  obtain ⟨a, -, rfl⟩ := Option.map_eq_some_iff.mp hp
  rfl

@[simp] theorem isNamed_nonEmpty (name : String) (f : List α → Json) (xs : List α) :
    IsNamed name (Json.nonEmpty name f xs) := by
  intro p hp
  unfold Json.nonEmpty at hp
  split at hp <;> cases hp
  rfl

@[simp] theorem isNamed_field (name : String) (f : α → Json) (m : StringMap α) :
    IsNamed name (m.field name f) := by
  intro p hp
  unfold StringMap.field at hp
  split at hp <;> cases hp
  rfl

@[simp] theorem isNamed_unless (name : String) (c : Prop) [Decidable c] (j : Json) :
    IsNamed name (if c then none else some (name, j)) := by
  intro p hp
  split at hp <;> cases hp
  rfl

/-- Each entry has the name in its place. -/
def Named : List String → List (Option (String × Json)) → Prop
  | [], [] => True
  | name :: names, e :: es => IsNamed name e ∧ Named names es
  | _, _ => False

/-- The entries that are written. -/
def present (es : List (Option (String × Json))) : List (String × Json) := es.filterMap id

@[simp] theorem present_some (p : String × Json) (es : List (Option (String × Json))) :
    present (some p :: es) = p :: present es := rfl

theorem present_append (es : List (Option (String × Json))) (rest : List (String × Json)) :
    present (es ++ rest.map some) = present es ++ rest := by
  simp [present, List.filterMap_map]

/-- The fields of a record show an entry for each name, in its place. -/
def Shows (fs : Fields) (names : List String) (es : List (Option (String × Json))) : Prop :=
  ∀ (i : Nat) (name : String) (e : Option (String × Json)), names[i]? = some name →
    es[i]? = some e → fs.entries.lookup name = e.map Prod.snd

theorem Named.mem {names : List String} {es : List (Option (String × Json))}
    (h : Named names es) {p : String × Json} (hp : some p ∈ es) : p.1 ∈ names := by
  induction names generalizing es with
  | nil =>
    cases es with
    | nil => cases hp
    | cons e es => exact h.elim
  | cons name names ih =>
    cases es with
    | nil => cases hp
    | cons e es =>
      rcases List.mem_cons.mp hp with rfl | hp
      · exact h.1 p rfl ▸ List.mem_cons_self ..
      · exact List.mem_cons_of_mem _ (ih h.2 hp)

theorem Named.lookup_none {names : List String} {es : List (Option (String × Json))}
    (h : Named names es) {name : String} (hn : name ∉ names) :
    (present es).lookup name = none := by
  refine lookup_eq_none fun hm => hn ?_
  obtain ⟨p, hp, rfl⟩ := List.mem_map.mp hm
  obtain ⟨e, he, rfl⟩ := List.mem_filterMap.mp hp
  exact h.mem he

/-- Entries written under distinct names are found under them. -/
theorem Named.lookup {names : List String} {es : List (Option (String × Json))}
    (h : Named names es) (distinct : names.Nodup) {i : Nat} {name : String}
    {e : Option (String × Json)} (hi : names[i]? = some name) (he : es[i]? = some e) :
    (present es).lookup name = e.map Prod.snd := by
  induction names generalizing es i with
  | nil => cases hi
  | cons m names ih =>
    cases es with
    | nil => cases he
    | cons e' es =>
      rw [List.nodup_cons] at distinct
      cases i with
      | zero =>
        obtain rfl : m = name := by simpa using hi
        obtain rfl : e' = e := by simpa using he
        cases e' with
        | none => exact h.2.lookup_none distinct.1
        | some p =>
          obtain ⟨k, j⟩ := p
          obtain rfl : k = m := h.1 _ rfl
          simp
      | succ i =>
        have hname : name ∈ names := List.mem_of_getElem? (by simpa using hi)
        have ih := ih h.2 distinct.2 (i := i) (by simpa using hi) (by simpa using he)
        cases e' with
        | none => exact ih
        | some p =>
          obtain ⟨k, j⟩ := p
          have hk : k = m := h.1 _ rfl
          have hne : name ≠ k := fun heq => distinct.1 (hk ▸ heq ▸ hname)
          rw [present_some, lookup_entry, if_neg hne, ih]

/-- What is written of a record is shown, along with anything of other names. -/
theorem shows_append {names : List String} {es : List (Option (String × Json))}
    (h : Named names es) (distinct : names.Nodup) {rest : List (String × Json)}
    (others : ∀ e ∈ rest, e.1 ∉ names) (positional : Bool) :
    Shows ⟨present es ++ rest, positional⟩ names es := by
  intro i name e hi he
  have absent : rest.lookup name = none := by
    refine lookup_eq_none fun hm => ?_
    obtain ⟨p, hp, rfl⟩ := List.mem_map.mp hm
    exact others p hp (List.mem_of_getElem? hi)
  rw [List.lookup_append, absent, h.lookup distinct hi he, Option.or_none]

/-- A record is read back if its fields are. -/
theorem reads_record {names : List String} {es : List (Option (String × Json))} {f : Field α}
    {a : α} (h : Named names es) (distinct : names.Nodup)
    (hf : ∀ fs, Shows fs names es → f.Reads fs a) :
    (Decoder.record names f).Reads (Json.object es) a := by
  intro s
  have shown := shows_append h distinct (fun e (he : e ∈ []) => by cases he) false
  rw [List.append_nil] at shown
  show (f ⟨present es, false⟩ s).mapError _ = _
  rw [hf _ shown s]
  rfl

namespace Shows

variable {fs : Fields} {names : List String} {es : List (Option (String × Json))} {name : String}

/-- A field is read from its entry, or stands for its value if that is not written. -/
theorem orElse (w : Shows fs names es) (i : Nat) (hi : names[i]? = some name)
    {e : Option (String × Json)} (he : es[i]? = some e) {d : Decoder α} {a : α}
    {absent : Fields → Fresh → Except Fault (α × Fresh)}
    (present : ∀ p, e = some p → d.Reads p.2 a)
    (left : e = none → ∀ s, absent fs s = .ok (a, s)) :
    (Field.orElse name d absent).Reads fs a := by
  have found := w i name e hi he
  cases e with
  | none => exact Field.orElse_absent found d (left rfl)
  | some p => exact Field.orElse_present found (present p rfl) absent

theorem written (w : Shows fs names es) (i : Nat) (hi : names[i]? = some name) {j : Json}
    (he : es[i]? = some (some (name, j))) {d : Decoder α} {a : α} (hd : d.Reads j a)
    (absent : Fields → Fresh → Except Fault (α × Fresh)) :
    (Field.orElse name d absent).Reads fs a :=
  w.orElse i hi he (by rintro p ⟨⟩; exact hd) nofun

theorem required (w : Shows fs names es) (i : Nat) (hi : names[i]? = some name) {f : α → Json}
    {a : α} (he : es[i]? = some (some (name, f a))) {d : Decoder α} (hd : d.Inverts f) :
    (Field.required name d).Reads fs a := w.written i hi he (hd a).2 _

theorem drawn (w : Shows fs names es) (i : Nat) (hi : names[i]? = some name) {f : α → Json}
    {a : α} (he : es[i]? = some (some (name, f a))) {d : Decoder α} (hd : d.Inverts f)
    (draw : Fresh → α × Fresh) : (Field.drawn name d draw).Reads fs a :=
  w.written i hi he (hd a).2 _

/-- An optional value of which one knows that it is read back. -/
theorem optionalOf (w : Shows fs names es) (i : Nat) (hi : names[i]? = some name) {f : α → Json}
    {v : Option α} (he : es[i]? = some (Json.optional name f v)) {d : Decoder α}
    (hd : ∀ a, v = some a → f a ≠ .null ∧ d.Reads (f a) a) :
    (Field.defaulted name (.option d) none).Reads fs v := by
  refine w.orElse i hi he ?_ ?_
  · intro p hp
    obtain ⟨a, rfl, rfl⟩ := Option.map_eq_some_iff.mp hp
    exact Decoder.reads_option_some (hd a rfl).1 (hd a rfl).2
  · intro hn s
    rw [Option.map_eq_none_iff.mp hn]

theorem optional (w : Shows fs names es) (i : Nat) (hi : names[i]? = some name) {f : α → Json}
    {v : Option α} (he : es[i]? = some (Json.optional name f v)) {d : Decoder α}
    (hd : d.Inverts f) : (Field.defaulted name (.option d) none).Reads fs v :=
  w.optionalOf i hi he fun a _ => hd a

/-- A list that is written if there is anything in it. -/
theorem list (w : Shows fs names es) (i : Nat) (hi : names[i]? = some name) {f : List β → Json}
    {ys : List β} (he : es[i]? = some (Json.nonEmpty name f ys)) {d : Decoder α} {xs : List α}
    (empty : ys.isEmpty = xs.isEmpty) (hd : (Decoder.list d).Reads (f ys) xs) :
    (Field.defaulted name (.list d) []).Reads fs xs := by
  refine w.orElse i hi he ?_ ?_
  · intro p hp
    unfold Json.nonEmpty at hp
    split at hp <;> cases hp
    exact hd
  · intro hn s
    unfold Json.nonEmpty at hn
    split at hn
    · next h =>
      obtain rfl := List.isEmpty_iff.mp (empty.symm.trans h)
      rfl
    · cases hn

theorem map (w : Shows fs names es) (i : Nat) (hi : names[i]? = some name) {f : α → Json}
    {m : StringMap α} (he : es[i]? = some (m.field name f)) {d : Decoder α}
    (hd : ∀ e ∈ m.entries, d.Reads (f e.2) e.2) :
    (Field.defaulted name (.map d) ∅).Reads fs m := by
  refine w.orElse i hi he ?_ ?_
  · intro p hp
    unfold StringMap.field at hp
    split at hp <;> cases hp
    exact Decoder.reads_map hd
  · intro hn s
    unfold StringMap.field at hn
    split at hn
    · next h => rw [StringMap.eq_empty_of_isEmpty h]
    · cases hn

end Shows

end Telemetry
