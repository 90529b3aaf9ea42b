import Telemetry.Proofs.Client.Barrier
import Telemetry.Proofs.Client.Configuration
import Telemetry.Proofs.Number.Order

/-! What is checked in the options of a client: the sample rates and the patterns. A client is made
of options that are in order, and keeps to the patterns that it was given. What an integration makes
of the options as the client is made is not checked again. -/

namespace Telemetry

/-! ### Options in order -/

/-- A rate below 0, above 1, or none at all. -/
def OutOfRange (rate : Float32) : Prop := rate < 0 ∨ 1 < rate ∨ rate.isNaN = true

/-- Settings of which no client can be made. -/
inductive Settings.Invalid [PatternLanguage] (s : Settings) : Prop
  | sampleRate : OutOfRange s.sampleRate → Invalid s
  | tracesSampleRate : OutOfRange s.tracesSampleRate → Invalid s
  | pattern {text : String} : text ∈ s.ignoreErrors ++ s.ignoreTransactions →
      PatternLanguage.read? text = none → Invalid s

namespace Settings

theorem checkRate_cases (name : String) (rate : Float32) :
    (OutOfRange rate ∧ checkRate name rate = .error (.invalidSampleRate name rate)) ∨
      (¬ OutOfRange rate ∧ checkRate name rate = .ok ()) := by
  have outside : OutOfRange rate ↔ ¬ (0 ≤ rate ∧ rate ≤ 1) := Binary.outside_iff.symm
  by_cases inside : 0 ≤ rate ∧ rate ≤ 1
  · refine .inr ⟨fun out => outside.mp out inside, ?_⟩
    rw [checkRate, if_pos (by simpa using inside)]
  · refine .inl ⟨outside.mpr inside, ?_⟩
    rw [checkRate, if_neg (by simpa using inside)]

theorem compilePatterns_cases [PatternLanguage] (texts : List String) :
    (∃ text ∈ texts, PatternLanguage.read? text = none ∧
        ∃ e, texts.mapM compilePattern = .error e) ∨
      ((∀ text ∈ texts, PatternLanguage.read? text ≠ none) ∧
        ∃ ps, texts.mapM compilePattern = .ok ps) := by
  induction texts with
  | nil => exact .inr ⟨nofun, [], rfl⟩
  | cons text texts ih =>
    rw [List.mapM_cons]
    cases read : PatternLanguage.read? text with
    | none =>
      refine .inl ⟨text, List.mem_cons_self, read, .invalidPattern text, ?_⟩
      rw [compilePattern, read]
      rfl
    | some isFoundIn =>
      have first : compilePattern text = .ok ⟨text, isFoundIn⟩ := by rw [compilePattern, read]
      rw [first]
      rcases ih with ⟨bad, member, unread, e, failed⟩ | ⟨all, ps, done⟩
      · refine .inl ⟨bad, List.mem_cons_of_mem _ member, unread, e, ?_⟩
        rw [failed]
        rfl
      · refine .inr ⟨fun t ht => ?_, _, by rw [done]; rfl⟩
        rcases List.mem_cons.mp ht with rfl | ht
        · rw [read]
          exact Option.some_ne_none _
        · exact all t ht

/-- Settings are refused just if they are not in order. -/
theorem compile_cases [PatternLanguage] (s : Settings) :
    (s.Invalid ∧ ∃ e, s.compile = .error e) ∨ (¬ s.Invalid ∧ ∃ ps, s.compile = .ok ps) := by
  unfold compile
  -- one check after the other; the first that fails decides
  rcases checkRate_cases "sample_rate" s.sampleRate with ⟨out, failed⟩ | ⟨sample, passed⟩
  · rw [failed]
    exact .inl ⟨.sampleRate out, _, rfl⟩
  rw [passed]
  rcases checkRate_cases "traces_sample_rate" s.tracesSampleRate with
    ⟨out, failed⟩ | ⟨traces, passed'⟩
  · rw [failed]
    exact .inl ⟨.tracesSampleRate out, _, rfl⟩
  rw [passed']
  rcases compilePatterns_cases s.ignoreErrors with
    ⟨text, member, bad, e, failed⟩ | ⟨errors, ps, read⟩
  · rw [failed]
    exact .inl ⟨.pattern (List.mem_append_left _ member) bad, e, rfl⟩
  rw [read]
  rcases compilePatterns_cases s.ignoreTransactions with
    ⟨text, member, bad, e, failed⟩ | ⟨transactions, qs, read'⟩
  · rw [failed]
    exact .inl ⟨.pattern (List.mem_append_right _ member) bad, e, rfl⟩
  rw [read']
  refine .inr ⟨?_, _, rfl⟩
  rintro (out | out | ⟨member, bad⟩)
  · exact sample out
  · exact traces out
  · rcases List.mem_append.mp member with member | member
    · exact errors _ member bad
    · exact transactions _ member bad

/-- Settings that agree in everything that is checked. -/
structure SameChecks (s s' : Settings) : Prop where
  sampleRate : s.sampleRate = s'.sampleRate
  tracesSampleRate : s.tracesSampleRate = s'.tracesSampleRate
  ignoreErrors : s.ignoreErrors = s'.ignoreErrors
  ignoreTransactions : s.ignoreTransactions = s'.ignoreTransactions

theorem compile_same [PatternLanguage] {s s' : Settings} (same : s.SameChecks s') :
    s.compile = s'.compile := by
  unfold compile
  rw [same.sampleRate, same.tracesSampleRate, same.ignoreErrors, same.ignoreTransactions]

/-! ### Patterns -/

/-- A pattern of a list is found in one of some texts. -/
def Listed [PatternLanguage] (patterns texts : List String) : Prop :=
  ∃ text ∈ patterns, ∃ isFoundIn, PatternLanguage.read? text = some isFoundIn ∧
    ∃ t ∈ texts, isFoundIn t = true

/-- The patterns of the settings cover an event. -/
def Ignores [PatternLanguage] (s : Settings) (e : Event) : Prop :=
  match e.kind with
  | .default => Listed s.ignoreErrors (Client.candidates e)
  | .transaction => Listed s.ignoreTransactions e.transaction.toList
  | .checkIn => False

theorem mem_compiled [PatternLanguage] {texts : List String} {ps : List IgnorePattern}
    (compiled : texts.mapM compilePattern = .ok ps) (i : IgnorePattern) :
    i ∈ ps ↔ i.text ∈ texts ∧ PatternLanguage.read? i.text = some i.isFoundIn := by
  induction texts generalizing ps with
  | nil =>
    cases compiled
    simp
  | cons text texts ih =>
    rw [List.mapM_cons, compilePattern] at compiled
    cases read : PatternLanguage.read? text with
    | none =>
      rw [read] at compiled
      cases compiled
    | some isFoundIn =>
      rw [read] at compiled
      cases rest : texts.mapM compilePattern with
      | error e =>
        rw [rest] at compiled
        cases compiled
      | ok qs =>
        rw [rest] at compiled
        cases compiled
        rw [List.mem_cons, ih rest, List.mem_cons]
        constructor
        · rintro (rfl | ⟨member, parsed⟩)
          · exact ⟨.inl rfl, read⟩
          · exact ⟨.inr member, parsed⟩
        · rintro ⟨same | member, parsed⟩
          · refine .inl ?_
            obtain ⟨text', isFoundIn'⟩ := i
            cases same
            cases read.symm.trans parsed
            rfl
          · exact .inr ⟨member, parsed⟩

theorem listed_iff [PatternLanguage] {texts : List String} {ps : List IgnorePattern}
    (compiled : texts.mapM compilePattern = .ok ps) (found : List String) :
    Listed texts found ↔ ∃ i ∈ ps, ∃ t ∈ found, i.isFoundIn t = true := by
  constructor
  · rintro ⟨text, member, isFoundIn, read, hit⟩
    exact ⟨⟨text, isFoundIn⟩, (mem_compiled compiled _).mpr ⟨member, read⟩, hit⟩
  · rintro ⟨i, member, hit⟩
    obtain ⟨listed, read⟩ := (mem_compiled compiled i).mp member
    exact ⟨i.text, listed, i.isFoundIn, read, hit⟩

theorem compile_patterns [PatternLanguage] {s : Settings} {ps : IgnorePatterns}
    (compiled : s.compile = .ok ps) :
    s.ignoreErrors.mapM compilePattern = .ok ps.errors ∧
      s.ignoreTransactions.mapM compilePattern = .ok ps.transactions := by
  unfold compile at compiled
  cases sample : checkRate "sample_rate" s.sampleRate with
  | error e => rw [sample] at compiled; cases compiled
  | ok =>
  cases traces : checkRate "traces_sample_rate" s.tracesSampleRate with
  | error e => rw [sample, traces] at compiled; cases compiled
  | ok =>
  cases errors : s.ignoreErrors.mapM compilePattern with
  | error e => rw [sample, traces, errors] at compiled; cases compiled
  | ok qs =>
  cases transactions : s.ignoreTransactions.mapM compilePattern with
  | error e => rw [sample, traces, errors, transactions] at compiled; cases compiled
  | ok rs =>
    rw [sample, traces, errors, transactions] at compiled
    cases compiled
    exact ⟨rfl, rfl⟩

/-- An event is ignored just if the patterns that were read cover it. -/
theorem ignoredBy?_iff [PatternLanguage] {s : Settings} {ps : IgnorePatterns}
    (compiled : s.compile = .ok ps) (e : Event) :
    (Client.ignoredBy? ps e).isSome = true ↔ s.Ignores e := by
  obtain ⟨errors, transactions⟩ := compile_patterns compiled
  unfold Client.ignoredBy? Ignores
  cases e.kind with
  | default =>
    dsimp only
    rw [listed_iff errors, Option.isSome_map, List.find?_isSome]
    simp only [List.any_eq_true]
  | transaction =>
    dsimp only
    rw [listed_iff transactions]
    cases e.transaction with
    | none => simp
    | some name => simp [List.find?_isSome]
  | checkIn => simp

end Settings

namespace Client

variable {o : ClientOptions} {c : Client} {ds : List Diagnostic}

theorem compile_of_create [PatternLanguage] (made : create o = .ok (c, ds)) :
    o.compile = .ok c.patterns := by
  unfold create at made
  cases compiled : o.compile with
  | error e =>
    rw [compiled] at made
    cases made
  | ok ps =>
    rw [compiled] at made
    cases made
    rfl

/-- A client is made of options that are in order, and ignores just what their patterns cover. -/
theorem checked_of_create [PatternLanguage] (made : create o = .ok (c, ds)) :
    ¬ o.toSettings.Invalid ∧
      ∀ e, (ignoredBy? c.patterns e).isSome = true ↔ o.toSettings.Ignores e := by
  have compiled := compile_of_create made
  refine ⟨?_, Settings.ignoredBy?_iff compiled⟩
  rcases o.toSettings.compile_cases with ⟨-, e, failed⟩ | ⟨valid, -⟩
  · rw [failed] at compiled
    cases compiled
  · exact valid

theorem sameChecks_or_overwritten (is : List Integration) (s : Settings) :
    (setUp is s).SameChecks s ∨ Overwritten Settings.sampleRate is s ∨
      Overwritten Settings.tracesSampleRate is s ∨ Overwritten Settings.ignoreErrors is s ∨
      Overwritten Settings.ignoreTransactions is s := by
  rcases setUp_kept Settings.sampleRate is s with sample | changed
  · rcases setUp_kept Settings.tracesSampleRate is s with traces | changed
    · rcases setUp_kept Settings.ignoreErrors is s with errors | changed
      · rcases setUp_kept Settings.ignoreTransactions is s with transactions | changed
        · exact .inl ⟨sample, traces, errors, transactions⟩
        · exact .inr (.inr (.inr (.inr changed)))
      · exact .inr (.inr (.inr (.inl changed)))
    · exact .inr (.inr (.inl changed))
  · exact .inr (.inl changed)

/-- The options of a client are in order, and their patterns are those that events are ignored by,
unless an integration overwrote a rate or patterns as the client was made. -/
theorem keeps_to_options [PatternLanguage] (made : create o = .ok (c, ds)) :
    (c.options.validate = .ok () ∧
      ∀ e, (ignoredBy? c.patterns e).isSome = true ↔ c.options.toSettings.Ignores e) ∨
    Overwritten Settings.sampleRate c.integrations o.toSettings ∨
      Overwritten Settings.tracesSampleRate c.integrations o.toSettings ∨
      Overwritten Settings.ignoreErrors c.integrations o.toSettings ∨
      Overwritten Settings.ignoreTransactions c.integrations o.toSettings := by
  have settings := (madeOf_create made).settings
  rcases sameChecks_or_overwritten c.integrations o.toSettings with same | overwritten
  · rw [← settings] at same
    have compiled : c.options.compile = .ok c.patterns :=
      (Settings.compile_same same).trans (compile_of_create made)
    refine .inl ⟨?_, Settings.ignoredBy?_iff compiled⟩
    rw [Settings.validate, compiled]
    rfl
  · exact .inr overwritten

/-- An integration that asks for a rate of 2. -/
def doubling : Integration :=
  { kind := .custom "doubling", name := "doubling", setup := fun s => { s with sampleRate := 2 }
    process := fun _ e => some e }

/-- Nobody checks what an integration makes of the options. -/
theorem overwritten_unchecked [PatternLanguage] :
    ∃ c ds, create { ClientOptions.default with integrations := [doubling] } = .ok (c, ds) ∧
      c.options.toSettings.Invalid := by
  let o : ClientOptions := { ClientOptions.default with integrations := [doubling] }
  have above : (1 : Float32) < 2 := by decide +kernel
  have checked : o.validate = .ok () := validate_plain rfl rfl rfl rfl
  obtain ⟨c, ds, made⟩ := create_valid checked
  have parts := madeOf_create made
  have rate : c.options.sampleRate = 2 := by
    rw [parts.settings, parts.integrations]
    rfl
  exact ⟨c, ds, made, .sampleRate (.inr (.inl (by rw [rate]; exact above)))⟩

end Client

end Telemetry
