import Telemetry.Proofs.Hub.Calls
import Telemetry.Proofs.Client.Checks
import Telemetry.Proofs.Url.Host

/-! Options that are not in order. Initializing the library with them fails and changes nothing; and
a client that is made of them all the same does nothing, whatever is done with it. -/

namespace Telemetry

/-! ### What the library cannot be initialized with -/

/-- A text that is neither blank nor a DSN. -/
def DsnInput.Malformed [Host.Names] : DsnInput → Prop
  | .none => False
  | .text s => trimBlank s ≠ "" ∧ ∀ d, Dsn.parse (trimBlank s) ≠ .ok d
  | .dsn _ => False

theorem Dsn.parseOptional_blank [Host.Names] {s : String} (blank : trimBlank s = "") :
    Dsn.parseOptional s = .ok none := by
  unfold Dsn.parseOptional
  rw [blank]
  rfl

theorem Dsn.parseOptional_text [Host.Names] {s : String} (text : trimBlank s ≠ "") :
    Dsn.parseOptional s = (Dsn.parse (trimBlank s)).map some := by
  show (if (trimBlank s).isEmpty then .ok none else (Dsn.parse (trimBlank s)).map some) = _
  rw [if_neg (by simpa using text)]

theorem ClientOptions.withInput_cases [Host.Names] (o : ClientOptions) (d : DsnInput) :
    (d.Malformed ∧ ∃ e, ∀ o' : ClientOptions, o'.withInput d = .error e) ∨
      (¬ d.Malformed ∧ ∃ dsn, o.withInput d = .ok { o with dsn }) := by
  cases d with
  | none => exact .inr ⟨id, _, rfl⟩
  | dsn d => exact .inr ⟨id, _, rfl⟩
  | text s =>
    have read (o' : ClientOptions) : o'.withInput (.text s) = o'.withDsn s := rfl
    by_cases blank : trimBlank s = ""
    · refine .inr ⟨fun malformed => malformed.1 blank, none, ?_⟩
      rw [read, withDsn, Dsn.parseOptional_blank blank]
    have parsed := Dsn.parseOptional_text blank
    cases outcome : Dsn.parse (trimBlank s) with
    | ok d =>
      rw [outcome] at parsed
      refine .inr ⟨fun malformed => malformed.2 d outcome, some d, ?_⟩
      rw [read, withDsn, parsed]
      rfl
    | error e =>
      rw [outcome] at parsed
      refine .inl ⟨⟨blank, fun d ok => ?_⟩, .invalidDsn e, fun o' => ?_⟩
      · rw [outcome] at ok
        cases ok
      · rw [read, withDsn, parsed]
        rfl

namespace Configuration

/-- The DSN that a program gives besides its options. -/
def input : Configuration → DsnInput
  | .dsn d => d
  | .pair d _ => d
  | .options _ => .none

/-- The options that a program gives. -/
def given : Configuration → ClientOptions
  | .dsn _ => .default
  | .pair _ o => o
  | .options o => o

/-- What the library cannot be initialized with. -/
inductive Invalid [Host.Names] [PatternLanguage] (c : Configuration) : Prop
  | dsn : c.input.Malformed → Invalid c
  | settings : c.given.toSettings.Invalid → Invalid c

/-- Configurations that agree in everything that is checked. -/
structure SameChecks (c c' : Configuration) : Prop where
  input : c.input = c'.input
  given : c.given.toSettings.SameChecks c'.given.toSettings

theorem read_malformed [Host.Names] {c : Configuration} (malformed : c.input.Malformed) :
    c.read = c.given.withInput c.input := by
  cases c with
  | options o => exact malformed.elim
  | dsn d => rfl
  | pair d o => rfl

theorem read_cases [Host.Names] (c : Configuration) :
    (c.input.Malformed ∧ ∃ e, ∀ c' : Configuration, c'.input = c.input → c'.read = .error e) ∨
      (¬ c.input.Malformed ∧ ∃ dsn, c.read = .ok { c.given with dsn }) := by
  rcases c.given.withInput_cases c.input with ⟨malformed, e, failed⟩ | ⟨fine, dsn, read⟩
  · refine .inl ⟨malformed, e, fun c' same => ?_⟩
    rw [read_malformed (same ▸ malformed), same]
    exact failed c'.given
  · refine .inr ⟨fine, ?_⟩
    cases c with
    | options o => exact ⟨o.dsn, rfl⟩
    | dsn d => exact ⟨dsn, read⟩
    | pair d o => exact ⟨dsn, read⟩

end Configuration

/-! ### Starting with it -/

/-- A hub is being written to. -/
def World.Busy (w : World) : Prop := ∃ h, (w.hub h).locked = true

namespace Action

variable {α β : Type} {P : α → Prop}

/-- A computation has such a result, or it waits forever because a hub is being written to; and it
leaves no hub that is being written to, unless there was one. -/
def Yields (P : α → Prop) (x : Action α) : Prop :=
  ∀ w, (x w).1 = .blocked ∧ w.Busy ∨ ∃ a w', x w = (.done a, w') ∧ P a ∧ (w'.Busy → w.Busy)

theorem Yields.pure {a : α} (h : P a) : Yields P (Pure.pure a : Action α) :=
  fun w => .inr ⟨a, w, rfl, h, id⟩

theorem Yields.bind {Q : β → Prop} {x : Action β} {f : β → Action α} (hx : Yields Q x)
    (hf : ∀ b, Q b → Yields P (f b)) : Yields P (x >>= f) := by
  intro w
  rcases hx w with ⟨waits, busy⟩ | ⟨b, w₁, done, holds, left⟩
  · have ran : x w = (.blocked, (x w).2) := by rw [← waits]
    exact .inl ⟨congrArg Prod.fst (bind_blocked ran), busy⟩
  · rw [bind_done done]
    rcases hf b holds w₁ with ⟨waits, busy⟩ | ⟨a, w₂, done', holds', left'⟩
    · exact .inl ⟨waits, left busy⟩
    · exact .inr ⟨a, w₂, done', holds', fun busy => left (left' busy)⟩

/-- What does not touch the hubs. -/
theorem yields_aside {x : Action α}
    (ended : ∀ w, ∃ a w', x w = (.done a, w') ∧ w'.hubs = w.hubs) : Yields (fun _ => True) x := by
  intro w
  obtain ⟨a, w', done, same⟩ := ended w
  refine .inr ⟨a, w', done, trivial, fun ⟨h, locked⟩ => ⟨h, ?_⟩⟩
  rwa [World.hub, ← same]

theorem yields_layers (h : HubId) : Yields (fun _ => True) (layers h) := by
  intro w
  cases locked : (w.hub h).locked with
  | true => exact .inl ⟨congrArg Prod.fst (layers_locked locked), h, locked⟩
  | false => exact .inr ⟨_, w, layers_eq locked, trivial, id⟩

theorem yields_bindClient (h : HubId) (c : Option ClientId) :
    Yields (fun _ => True) (bindClient h c) := by
  refine .bind (yields_layers h) fun layers _ w => .inr ⟨(), _, rfl, trivial, ?_⟩
  rintro ⟨j, locked⟩
  exact ⟨j, (World.hub_editHub_same Hub.locked rfl j).symm.trans locked⟩

theorem yields_currentHub : Yields (fun _ => True) currentHub := by
  intro w
  cases used : w.inUse? with
  | some h => exact .inr ⟨h, w, currentHub_eq used, trivial, id⟩
  | none =>
    -- one is derived from the main hub, unless that is being written to
    rw [currentHub_none used]
    cases locked : (w.hub w.main).locked with
    | true =>
      have waits : forkHub w.main w = (.blocked, w) := bind_blocked (top_locked locked)
      exact .inl ⟨congrArg Prod.fst (bind_blocked waits), w.main, locked⟩
    | false =>
      refine .inr ⟨_, _, bind_done (forkHub_eq locked), trivial, ?_⟩
      rintro ⟨h, there⟩
      have new : (if h = w.hubs.length then Hub.new _ _ else w.hub h).locked = true :=
        World.hub_addHub (w := w) _ h ▸ there
      split at new
      · cases new
      · exact ⟨h, new⟩

theorem newClient_error [PatternLanguage] {o : ClientOptions} {e : ConfigError}
    (failed : o.compile = .error e) (w : World) : newClient o w = (.done (.error e), w) := by
  unfold newClient Client.create
  rw [failed]
  rfl

theorem yields_newClient [PatternLanguage] {o : ClientOptions} {made : Client × List Diagnostic}
    (created : Client.create o = .ok made) :
    Yields (fun r => ∃ k, r = .ok k) (newClient o) := by
  unfold newClient
  rw [created]
  refine .bind (.bind yields_currentHub fun _ _ => .pure (P := fun _ => True) trivial) fun _ _ => ?_
  refine .bind (yields_aside fun _ => ⟨_, _, rfl, rfl⟩) fun _ _ => ?_
  have added : Yields (fun r => ∃ k, r = .ok k) (do
      return .ok (← addClient made.1) : Action (Except ConfigError ClientId)) :=
    .bind (yields_aside fun _ => ⟨_, _, rfl, rfl⟩) fun k _ => .pure ⟨k, rfl⟩
  split
  · exact .bind (yields_aside fun _ => ⟨_, _, rfl, rfl⟩) fun _ _ => added
  · exact added

end Action

namespace Configuration

open Telemetry.Action

theorem yields_init [Host.Names] [PatternLanguage] {c : Configuration} {env : Environment}
    {o : ClientOptions} {made : Client × List Diagnostic} (read : c.read = .ok o)
    (created : Client.create (o.withDefaults env) = .ok made) :
    Yields (fun r => ∃ g, r = .ok g) (c.init env) := by
  unfold init
  rw [read]
  refine .bind (yields_newClient created) fun r ok => ?_
  obtain ⟨k, rfl⟩ := ok
  refine .bind yields_currentHub fun h _ => .bind (yields_bindClient h _) fun _ _ => ?_
  refine .bind (yields_aside fun _ => ⟨_, _, rfl, rfl⟩) fun client _ => ?_
  split <;> exact .bind (yields_aside fun _ => ⟨_, _, rfl, rfl⟩) fun _ _ => .pure ⟨_, rfl⟩

/-- Whether the library is initialized depends on what is checked, and on nothing else that is asked
for. -/
theorem init_cases [Host.Names] [PatternLanguage] (c : Configuration) (env : Environment) :
    (c.Invalid ∧ ∃ e, ∀ c' : Configuration, c'.SameChecks c → ∀ w,
      c'.init env w = (.done (.error e), w)) ∨
    (¬ c.Invalid ∧ Yields (fun r => ∃ g, r = .ok g) (c.init env)) := by
  rcases c.read_cases with ⟨malformed, e, failed⟩ | ⟨fine, dsn, read⟩
  · refine .inl ⟨.dsn malformed, e, fun c' same w => ?_⟩
    rw [init, failed c' same.input]
    rfl
  rcases c.given.toSettings.compile_cases with ⟨invalid, e, failed⟩ | ⟨valid, patterns, compiled⟩
  · refine .inl ⟨.settings invalid, e, fun c' same w => ?_⟩
    have fine' : ¬ c'.input.Malformed := same.input ▸ fine
    rcases c'.read_cases with ⟨malformed, -⟩ | ⟨-, dsn', read'⟩
    · exact absurd malformed fine'
    -- neither a DSN nor the defaults touch what is checked
    have failed' :
        (ClientOptions.withDefaults env { c'.given with dsn := dsn' }).compile = .error e :=
      (Settings.compile_same same.given).trans failed
    rw [init, read']
    exact bind_done (newClient_error failed' w)
  · refine .inr ⟨?_, ?_⟩
    · rintro (malformed | invalid)
      · exact fine malformed
      · exact valid invalid
    · have filled : (ClientOptions.withDefaults env { c.given with dsn }).validate = .ok () := by
        show c.given.toSettings.compile.map (fun _ => ()) = _
        rw [compiled]
        rfl
      obtain ⟨client, ds, created⟩ := Client.create_valid filled
      exact yields_init read created

end Configuration

/-! ### Going on with it -/

namespace Client

theorem shut_disabled (o : ClientOptions) : (disabled o).Shut where
  gone := rfl
  logs _ some := by cases some
  metrics _ some := by cases some

/-- A client that does nothing stays as it is. -/
theorem permanent_disabled (o : ClientOptions) : Action.Permanent fun c => c = disabled o where
  lasting := by
    -- without emitters and a transport there is nothing that an operation could change
    rintro _ x rfl
    cases x <;> rfl
  close := by
    rintro now pace _ rfl
    rfl

end Client

namespace Action

variable {k : ClientId} {o : ClientOptions} {w w' : World}

theorem newClientOrDisabled_error [PatternLanguage] {e : ConfigError}
    (failed : o.compile = .error e) (w : World) :
    newClientOrDisabled o w = (.done w.clients.length,
      { w with
        clients := w.clients ++ [.disabled o]
        thread := { w.thread with log := w.thread.log ++ [Client.disabledDiagnostic e] } }) :=
  bind_done (newClient_error failed w)

theorem captureIn_locked {h : HubId} (locked : (w.hub h).locked = true) (hint : EventHint)
    (e : Event) : captureIn h hint e w = (.blocked, w) := bind_blocked (top_locked locked)

/-- Who captures in a hub while writing to it waits forever. -/
theorem captureOn_locked {h : HubId} (locked : (w.hub h).locked = true) (x : Occasion) :
    (captureOn (.hub h) x w).1 = .blocked := by
  let drawn := { w with fresh := (Event.fresh w.fresh).2 }
  cases x with
  | event hint e => exact congrArg Prod.fst (captureIn_locked locked hint e)
  | message text level => exact congrArg Prod.fst (captureIn_locked (w := drawn) locked _ _)
  | error chain => exact congrArg Prod.fst (bind_blocked (top_locked locked))
  | checkIn checkIn monitor =>
    exact congrArg Prod.fst (bind_blocked (captureIn_locked (w := drawn) locked _ _))

/-- A client without a transport that never hands anything over. What is captured in its hubs has no
identifier, or waits forever if the hub is being written to. -/
structure Inert (k : ClientId) (w : World) : Prop where
  transport : w.clients[k]?.map Client.transport = some none
  handed : handedBy k w = []
  captures : ∀ (t : Target) (x : Occasion) (h : HubId) (w' : World),
    t.resolve w = (.done h, w') → (w'.hub h).layers.top.client = some k →
      (captureOn t x w).1 = .done Uuid.nil ∨
        t = .hub h ∧ (w'.hub h).locked = true ∧ (captureOn t x w).1 = .blocked

theorem inert_disabled (there : w.clients[k]? = some (.disabled o)) : Inert k w where
  transport := by
    rw [there]
    rfl
  handed := by
    rw [handedBy, there]
    rfl
  captures t x h w' resolved client := by
    have shut := Client.shut_disabled o
    cases locked : (w'.hub h).locked with
    | false => exact .inl (captureOn_shut shut there ⟨h, w', resolved, client, locked⟩ x)
    | true =>
      cases t with
      | hub h =>
        cases resolved
        exact .inr ⟨rfl, rfl, captureOn_locked locked x⟩
      | active =>
        -- a hub that is being written to is left alone
        have inactive (f : HubId → Action Uuid) :
            (Target.active.visit Uuid.nil f w).1 = .done Uuid.nil :=
          congrArg Prod.fst (visit_inactive resolved (by rw [locked]; rfl) Uuid.nil f)
        cases x <;> exact .inl (inactive _)

end Action

namespace Configuration

open Telemetry.Action

/-- Initializing the library fails just if a DSN that is given is neither blank nor well-formed, a
rate is not from 0 to 1 or a pattern cannot be read. Then nothing has changed, whatever else was
asked for; and else it succeeds, unless it has to wait for a hub forever. And a client that is made
of such options all the same never hands anything over, whatever a program calls. -/
theorem invalid_is_inert [Host.Names] [PatternLanguage] (env : Environment) :
    (∀ (c : Configuration) (w : World),
      ((∃ e w', c.init env w = (.done (.error e), w')) ↔ c.Invalid) ∧
      (c.Invalid → ∃ e, ∀ c' : Configuration, c'.SameChecks c →
        c'.init env w = (.done (.error e), w)) ∧
      (¬ c.Invalid → (c.init env w).1 = .blocked ∧ w.Busy ∨
        ∃ g w', c.init env w = (.done (.ok g), w'))) ∧
    ∀ (o : ClientOptions) (w : World), o.toSettings.Invalid →
      ∃ w₁, newClientOrDisabled o w = (.done w.clients.length, w₁) ∧
        ∀ w₂, Calls w₁ w₂ → Inert w.clients.length w₂ := by
  refine ⟨fun c w => ?_, fun o w invalid => ?_⟩
  · rcases c.init_cases env with ⟨invalid, e, fails⟩ | ⟨valid, ends⟩
    · have failed := fails c ⟨rfl, rfl, rfl, rfl, rfl⟩ w
      exact ⟨⟨fun _ => invalid, fun _ => ⟨e, w, failed⟩⟩,
        fun _ => ⟨e, fun c' same => fails c' same w⟩, fun valid => absurd invalid valid⟩
    · refine ⟨⟨?_, fun invalid => absurd invalid valid⟩, fun invalid => absurd invalid valid,
        fun _ => ?_⟩
      · rintro ⟨e, w', failed⟩
        rcases ends w with ⟨waits, -⟩ | ⟨_, w₁, done, ⟨g, rfl⟩, -⟩
        · rw [failed] at waits
          cases waits
        · cases failed.symm.trans done
      · rcases ends w with waits | ⟨_, w₁, done, ⟨g, rfl⟩, -⟩
        · exact .inl waits
        · exact .inr ⟨g, w₁, done⟩
  · rcases o.toSettings.compile_cases with ⟨-, e, failed⟩ | ⟨valid, -⟩
    · refine ⟨_, newClientOrDisabled_error failed w, fun w₂ calls => ?_⟩
      obtain ⟨c, there, rfl⟩ := calls.keeps (Client.permanent_disabled o)
        ⟨.disabled o, List.getElem?_concat_length, rfl⟩
      exact inert_disabled there
    · exact absurd invalid valid

/-- A pattern that can be read; a text that is no DSN; and a pattern that cannot be read, with a hub
that gets the client all the same. -/
theorem invalid_is_inert_parenthesis :
    letI : Host.Names := .ascii
    letI : PatternLanguage := .words
    let fine : ClientOptions := { ClientOptions.default with ignoreErrors := ["time out"] }
    let broken : ClientOptions := { ClientOptions.default with ignoreErrors := ["time out", "("] }
    let w := World.initial ⟨.epoch, fun _ => 1, 0⟩ none Client.asleep false
    (¬ (options fine).Invalid ∧
      ∃ g w', (options fine).init (fun _ => none) w = (.done (.ok g), w')) ∧
    (∃ e, (pair (.text " here ") fine).init (fun _ => none) w = (.done (.error e), w)) ∧
    broken.toSettings.Invalid ∧
    (∃ e, (options broken).init (fun _ => none) w = (.done (.error e), w)) ∧
    ∃ w₁, newClientOrDisabled broken w = (.done 0, w₁) ∧
      let w₂ := (bindClient 0 (some 0) w₁).2
      Inert 0 w₂ ∧ (captureOn (.hub 0) (.message "late" .error) w₂).1 = .done Uuid.nil := by
  let := Host.Names.ascii
  let := PatternLanguage.words
  intro fine broken w
  have listed : "(" ∈ broken.ignoreErrors ++ broken.ignoreTransactions := by decide
  have invalid : broken.toSettings.Invalid := .pattern listed (by decide)
  have valid : ¬ (options fine).Invalid := by
    rintro (⟨⟨⟩⟩ | bad)
    have checked : fine.compile.toBool = true := by decide +kernel
    rcases fine.toSettings.compile_cases with ⟨-, e, failed⟩ | ⟨good, -⟩
    · rw [failed] at checked
      cases checked
    · exact good bad
  have idle : ¬ w.Busy := by
    rintro ⟨_ | h, locked⟩
    · cases locked
    · cases locked
  obtain ⟨starting, going⟩ := invalid_is_inert fun _ => none
  obtain ⟨-, -, starts⟩ := starting (.options fine) w
  obtain ⟨-, fails, -⟩ := starting (.pair (.text " here ") fine) w
  obtain ⟨e, failed⟩ := fails (.dsn ⟨by decide, nofun⟩)
  obtain ⟨-, fails', -⟩ := starting (.options broken) w
  obtain ⟨e', failed'⟩ := fails' (.settings invalid)
  obtain ⟨w₁, made, inert⟩ := going broken w invalid
  have inert₂ := inert _ (.call (.bindClient 0 (some 0)) (.rest _))
  refine ⟨⟨valid, ?_⟩, ⟨e, failed _ ⟨rfl, rfl, rfl, rfl, rfl⟩⟩, invalid,
    ⟨e', failed' _ ⟨rfl, rfl, rfl, rfl, rfl⟩⟩, w₁, made, inert₂, ?_⟩
  · rcases starts valid with ⟨-, busy⟩ | ok
    · exact absurd busy idle
    · exact ok
  · rcases broken.toSettings.compile_cases with ⟨-, e, refused⟩ | ⟨valid, -⟩
    · cases (newClientOrDisabled_error refused w).symm.trans made
      rcases inert₂.captures (.hub 0) (.message "late" .error) 0 _ rfl rfl with nil | ⟨-, locked, -⟩
      · exact nil
      · cases locked
    · exact absurd invalid valid

end Configuration

end Telemetry
