import Telemetry.Proofs.Json.Distinct
import Telemetry.Proofs.Payload.Records

/-! What decoding gives. Of most records it can give anything; a user's other fields have no name
of their own, no sampling decision and no kind of event is read, and a context that is not a trace
context holds an object which cannot be read as one. -/

namespace Telemetry

variable {α β : Type} {P : α → Prop} {Q : β → Prop}

/-- All that a decoder gives for values with distinct keys has a property. -/
def Decoder.Yields (d : Decoder α) (P : α → Prop) : Prop :=
  ∀ j s a s', j.Distinct → d j s = .ok (a, s') → P a

/-- The names of a record's fields are distinct, and so are the keys in their values. -/
structure Fields.Distinct (fs : Fields) : Prop where
  names : (fs.entries.map Prod.fst).Nodup
  values : ∀ e ∈ fs.entries, e.2.Distinct

/-- All that a field gives for records with distinct keys has a property. -/
def Field.Yields (f : Field α) (P : α → Prop) : Prop :=
  ∀ fs s a s', fs.Distinct → f fs s = .ok (a, s') → P a

/-! ### Successes -/

theorem bind_eq_ok {ε : Type} {x : Except ε α} {f : α → Except ε β} {b : β}
    (h : x >>= f = .ok b) : ∃ a, x = .ok a ∧ f a = .ok b := by
  cases x with
  | error e => cases h
  | ok a => exact ⟨a, rfl, h⟩

theorem map_eq_ok {ε : Type} {x : Except ε α} {f : α → β} {b : β} (h : x.map f = .ok b) :
    ∃ a, x = .ok a ∧ f a = b := by
  cases x with
  | error e => cases h
  | ok a =>
    cases h
    exact ⟨a, rfl, rfl⟩

theorem mapError_eq_ok {ε ε' : Type} {x : Except ε α} {f : ε → ε'} {a : α}
    (h : x.mapError f = .ok a) : x = .ok a := by
  cases x with
  | error e => cases h
  | ok a =>
    cases h
    rfl

/-! ### Fields -/

namespace Field

theorem seq_eq_ok {f : Field (β → α)} {x : Field β} {fs : Fields} {s s' : Fresh} {a : α}
    (h : (f <*> x) fs s = .ok (a, s')) :
    ∃ g b s'', f fs s = .ok (g, s'') ∧ x fs s'' = .ok (b, s') ∧ a = g b := by
  change Field.seq f x fs s = _ at h
  unfold Field.seq at h
  split at h
  · next g s'' hf =>
    split at h
    · next b s' hx =>
      cases h
      exact ⟨g, b, s'', hf, hx, rfl⟩
    · cases h
  · split at h <;> cases h

/-- A field that reads something reads it from its value, or is absent. -/
theorem orElse_eq_ok {name : String} {d : Decoder α}
    {absent : Fields → Fresh → Except Fault (α × Fresh)} {fs : Fields} {s : Fresh} {r : α × Fresh}
    (h : orElse name d absent fs s = .ok r) :
    (∃ j, fs.entries.lookup name = some j ∧ d j s = .ok r) ∨
      fs.entries.lookup name = none ∧ absent fs s = .ok r := by
  unfold orElse at h
  rw [← find?_snd]
  split at h
  · next i j hj => exact .inl ⟨j, by rw [hj]; rfl, mapError_eq_ok h⟩
  · next hn => exact .inr ⟨by rw [hn]; rfl, h⟩

theorem Yields.seq {f : Field (β → α)} {x : Field β} (hf : f.Yields fun g => ∀ b, Q b → P (g b))
    (hx : x.Yields Q) : (f <*> x).Yields P := by
  intro fs s a s' hd h
  obtain ⟨g, b, s'', hg, hb, rfl⟩ := seq_eq_ok h
  exact hf fs s g s'' hd hg b (hx fs s'' b s' hd hb)

theorem yields_pure {a : α} (h : P a) : (pure a : Field α).Yields P := by
  intro fs s b s' _ hb
  cases hb
  exact h

theorem Yields.map {g : β → α} {x : Field β} (hx : x.Yields Q) (hg : ∀ b, Q b → P (g b)) :
    (g <$> x).Yields P := Yields.seq (yields_pure hg) hx

theorem yields_any (f : Field α) : f.Yields fun _ => True := fun _ _ _ _ _ _ => trivial

theorem Yields.defaulted {d : Decoder α} (hd : d.Yields P) (name : String) {value : α}
    (hv : P value) : (Field.defaulted name d value).Yields P := by
  intro fs s a s' hfs h
  rcases orElse_eq_ok h with ⟨j, hj, hr⟩ | ⟨-, hn⟩
  · obtain ⟨before, after, hsplit, -⟩ := List.lookup_eq_some_iff.mp hj
    have hmem : (name, j) ∈ fs.entries := by
      rw [hsplit]
      exact List.mem_append_right _ (List.mem_cons_self ..)
    exact hd j s a s' (hfs.values _ hmem) hr
  · cases hn
    exact hv

end Field

/-! ### Decoders -/

namespace Decoder

theorem Yields.option {d : Decoder α} (hd : d.Yields P) :
    (Decoder.option d).Yields fun v => ∀ a, v = some a → P a := by
  rintro j s v s' hj h a rfl
  unfold Decoder.option at h
  split at h
  · cases h
  · obtain ⟨r, hr, hv⟩ := map_eq_ok h
    cases hv
    exact hd j s r.1 r.2 hj hr

theorem values_eq_ok {d : Decoder α} {k : String} {j : Json} {es : List (String × Json)}
    {s s' : Fresh} {as : List (String × α)} (h : values d ((k, j) :: es) s = .ok (as, s')) :
    ∃ a as' s'', d j s = .ok (a, s'') ∧ values d es s'' = .ok (as', s') ∧ as = (k, a) :: as' := by
  unfold values at h
  obtain ⟨⟨a, s''⟩, ha, h⟩ := bind_eq_ok h
  obtain ⟨⟨as', s₁⟩, has, h⟩ := bind_eq_ok h
  cases h
  exact ⟨a, as', s'', ha, has, rfl⟩

theorem Yields.values {d : Decoder α} (hd : d.Yields P) {es : List (String × Json)}
    (hes : ∀ e ∈ es, e.2.Distinct) {s s' : Fresh} {as : List (String × α)}
    (h : Decoder.values d es s = .ok (as, s')) : ∀ e ∈ as, P e.2 := by
  induction es generalizing s as with
  | nil =>
    cases h
    exact nofun
  | cons e es ih =>
    obtain ⟨k, j⟩ := e
    obtain ⟨a, as', s'', ha, has, rfl⟩ := values_eq_ok h
    rw [List.forall_mem_cons] at hes ⊢
    exact ⟨hd j s a s'' hes.1 ha, ih hes.2 has⟩

theorem Yields.map {d : Decoder α} (hd : d.Yields P) :
    (Decoder.map d).Yields fun m => ∀ e ∈ m.entries, P e.2 := by
  intro j s m s' hj h e he
  cases hj with
  | obj _ hes =>
    obtain ⟨r, hr, hm⟩ := map_eq_ok h
    cases hm
    exact Yields.values hd hes hr e (StringMap.mem_ofList he)
  | _ => cases h

theorem zip_names (names : List String) (items : List Json) :
    ((names.zip items).map Prod.fst).Sublist names := by
  induction names generalizing items with
  | nil => exact .slnil
  | cons name names ih =>
    cases items with
    | nil => exact List.nil_sublist _
    | cons j items => exact (ih items).cons_cons name

/-- The fields of a record that is an array have the names of their places. -/
theorem distinct_zip {names : List String} (h : names.Nodup) {items : List Json}
    (hi : ∀ j ∈ items, j.Distinct) (positional : Bool) :
    Fields.Distinct ⟨names.zip items, positional⟩ :=
  ⟨h.sublist (zip_names names items), fun e he => hi e.2 (List.of_mem_zip he).2⟩

theorem Yields.record {names : List String} (distinct : names.Nodup) {f : Field α}
    (hf : f.Yields P) : (Decoder.record names f).Yields P := by
  intro j s a s' hj h
  cases hj with
  | obj hn hes => exact hf _ s a s' ⟨hn, hes⟩ (mapError_eq_ok h)
  | arr hi =>
    unfold Decoder.record at h
    dsimp only at h
    split at h
    · cases h
    · next r hr =>
      split at h
      · cases h
        exact hf _ s a s' (distinct_zip distinct hi true) hr
      · cases h
  | _ => cases h

end Decoder

/-! ### Decoding twice -/

/-- Whether decoding succeeds does not depend on what is drawn. -/
def Decoder.Steady (d : Decoder α) : Prop :=
  ∀ j s s' r, d j s = .ok r → ∃ r', d j s' = .ok r'

/-- Whether a field is read does not depend on what is drawn, nor on the order of the entries. -/
def Field.Steady (f : Field α) : Prop :=
  ∀ fs fs' s s' r, (∀ n, fs.entries.lookup n = fs'.entries.lookup n) → f fs s = .ok r →
    ∃ r', f fs' s' = .ok r'

theorem Decoder.steady_plain (f : Json → Except DecodeError α) : (plain f).Steady := by
  intro j s s' r h
  obtain ⟨a, ha, -⟩ := map_eq_ok h
  exact ⟨(a, s'), by rw [plain, ha]; rfl⟩

theorem Decoder.Steady.option {d : Decoder α} (hd : d.Steady) : (Decoder.option d).Steady := by
  intro j s s' r h
  unfold Decoder.option at h ⊢
  split at h
  · exact ⟨_, rfl⟩
  · obtain ⟨r, hr, -⟩ := map_eq_ok h
    obtain ⟨r', hr'⟩ := hd j s s' r hr
    simp only [hr']
    exact ⟨_, rfl⟩

theorem Decoder.values_value (es : List (String × Json)) (s : Fresh) :
    values value es s = .ok (es, s) := by
  have back : values value (es.map fun e => (e.1, id e.2)) s = .ok (es, s) :=
    values_entries (fun e _ => reads_value e.2) s
  simpa using back

theorem Decoder.steady_map_value : (map value).Steady := by
  intro j s s' r h
  unfold map at h ⊢
  split at h
  · simp only [values_value]
    exact ⟨_, rfl⟩
  · cases h

namespace Field

theorem steady_pure (a : α) : (pure a : Field α).Steady := fun _ _ _ s' _ _ _ => ⟨(a, s'), rfl⟩

theorem Steady.seq {f : Field (β → α)} {x : Field β} (hf : f.Steady) (hx : x.Steady) :
    (f <*> x).Steady := by
  rintro fs fs' s s' ⟨a, s₁⟩ same h
  obtain ⟨g, b, s'', hg, hb, -⟩ := seq_eq_ok h
  obtain ⟨⟨g', t⟩, hg'⟩ := hf fs fs' s s' _ same hg
  obtain ⟨⟨b', t'⟩, hb'⟩ := hx fs fs' s'' t _ same hb
  refine ⟨(g' b', t'), ?_⟩
  show Field.seq f x fs' s' = _
  simp only [Field.seq, hg', hb']

theorem steady_orElse {d : Decoder α} (hd : d.Steady) (name : String)
    {absent : Fields → Fresh → Except Fault (α × Fresh)}
    (left : ∀ fs fs' s s' r, absent fs s = .ok r → ∃ r', absent fs' s' = .ok r') :
    (Field.orElse name d absent).Steady := by
  intro fs fs' s s' r same h
  rcases orElse_eq_ok h with ⟨j, hj, hr⟩ | ⟨hn, hr⟩
  · obtain ⟨r', hr'⟩ := hd j s s' r hr
    rw [same name, ← find?_snd, Option.map_eq_some_iff] at hj
    obtain ⟨⟨i, _⟩, hfind, rfl⟩ := hj
    refine ⟨r', ?_⟩
    simp only [Field.orElse, hfind]
    rw [hr']
    rfl
  · rw [same name, ← find?_snd, Option.map_eq_none_iff] at hn
    simp only [Field.orElse, hn]
    exact left fs fs' s s' r hr

theorem Steady.orElse {d : Decoder α} (hd : d.Steady) (name : String) (absent : Fresh → α × Fresh) :
    (Field.orElse name d fun _ s => .ok (absent s)).Steady :=
  steady_orElse hd name fun _ _ _ s' _ _ => ⟨absent s', rfl⟩

end Field

theorem Decoder.steady_record {names : List String} {f : Field α} (hf : f.Steady)
    {es es' : List (String × Json)} (same : ∀ n, es.lookup n = es'.lookup n) {s s' : Fresh}
    {r : α × Fresh} (h : Decoder.record names f (.obj es) s = .ok r) :
    ∃ r', Decoder.record names f (.obj es') s' = .ok r' := by
  obtain ⟨r', hr'⟩ := hf ⟨es, false⟩ ⟨es', false⟩ s s' r same (mapError_eq_ok h)
  exact ⟨r', congrArg (Except.mapError Fault.cause) hr'⟩

/-! ### Records -/

theorem TraceContext.yields : TraceContext.decode.Yields Sound := by
  refine Decoder.Yields.record (by decide) ?_
  iterate 6 refine Field.Yields.seq ?_ (Field.yields_any _)
  exact Field.Yields.map (Field.yields_any _) fun _ _ _ _ _ _ _ _ _ _ _ _ _ _ => rfl

/-- Whether an object can be read as a trace context depends on the entries it has alone. -/
theorem TraceContext.steady {es es' : List (String × Json)}
    (same : ∀ n, es.lookup n = es'.lookup n) {s s' : Fresh} {r : TraceContext × Fresh}
    (h : decode (.obj es) s = .ok r) : ∃ r', decode (.obj es') s' = .ok r' := by
  refine Decoder.steady_record ?_ same h
  refine .seq ?_ (.orElse Decoder.steady_map_value "data" fun s => (∅, s))
  iterate 4
    refine .seq ?_ (.orElse (Decoder.steady_plain _).option _ fun s => (none, s))
  refine .seq ?_ (.orElse (Decoder.steady_plain _) "trace_id" Fresh.traceId)
  exact .seq (Field.steady_pure _) (.orElse (Decoder.steady_plain _) "span_id" Fresh.spanId)

theorem Context.yields : Context.decode.Yields Sound := by
  intro j s c s' hj h
  unfold decode at h
  split at h
  · next t s' ht =>
    cases h
    exact TraceContext.yields j s t s' hj ht
  · next e he =>
    split at h
    · next m s' hm =>
      cases h
      cases hj with
      | obj hn hes =>
        next entries =>
        -- What the map holds is what the object said, so it is refused just the same.
        rintro s₁ r hr
        obtain ⟨r', hr', hm⟩ := map_eq_ok hm
        rw [Decoder.values_value] at hr'
        cases hr'
        cases hm
        have same : ∀ n, (StringMap.ofList entries).entries.lookup n = entries.lookup n :=
          StringMap.get?_ofList hn
        have whole : (StringMap.ofList entries).json id =
            .obj (StringMap.ofList entries).entries := by
          simp [StringMap.json, Json.entries]
        rw [whole] at hr
        obtain ⟨r', hr'⟩ : ∃ r', TraceContext.decode (.obj entries) s = .ok r' :=
          TraceContext.steady same hr
        rw [hr'] at he
        cases he
      | _ => cases hm
    · cases h

theorem User.yields : User.decode.Yields Sound := by
  have others : otherFields.Yields fun m => ∀ e ∈ m.entries, e.1 ∉ fieldNames := by
    intro fs s m s' _ h e he
    cases h
    simpa using (List.mem_filter.mp (StringMap.mem_ofList he)).2
  have record : (Decoder.record fieldNames (User.mk <$>
      Field.defaulted "id" (.option .string) none <*>
      Field.defaulted "email" (.option .string) none <*>
      Field.defaulted "ip_address" (.option .string) none <*>
      Field.defaulted "username" (.option .string) none <*>
      otherFields)).Yields Sound := by
    refine Decoder.Yields.record (by decide) (.seq ?_ others)
    iterate 3 refine .seq ?_ (Field.yields_any _)
    exact .map (Field.yields_any _) fun _ _ _ _ _ _ _ _ _ h => h
  intro j s u s' hj h
  unfold decode at h
  split at h
  · exact record _ s u s' hj h
  · cases h

theorem Event.yields : Event.decode.Yields Sound := by
  refine Decoder.Yields.record (by decide) ?_
  refine .seq (.seq ?_ (Field.yields_pure (P := fun k => k = .default) rfl))
    (Field.yields_pure (P := fun c => c = none) rfl)
  iterate 7 refine .seq ?_ (Field.yields_any _)
  refine .seq ?_ (.defaulted (.map Context.yields) "contexts" nofun)
  refine .seq ?_ (Field.yields_any _)
  refine .seq ?_ (.defaulted (.option User.yields) "user" nofun)
  iterate 12 refine .seq ?_ (Field.yields_any _)
  refine .map (Field.yields_any _) ?_
  intros
  constructor <;> assumption

/-- A project identifier that was read is one. -/
def ProjectId.Sound (p : ProjectId) : Prop := parse p.text = .ok p

theorem ProjectId.yields : Decoder.projectId.Yields Sound := by
  intro j s p s' hj h
  obtain ⟨p', hp, hs⟩ := map_eq_ok h
  cases hs
  dsimp only at hp
  split at hp
  · next text =>
    have hp := mapError_eq_ok hp
    rw [Sound, (of_parse hp).1, hp]
  · cases hp

end Telemetry
