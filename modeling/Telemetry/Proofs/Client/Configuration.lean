import Mathlib.Data.List.Nodup
import Telemetry.Defaults
import Telemetry.Proofs.Client.Order

/-! What a program sets and what a client makes of it. A setting of the program is in force unless an
integration changes it. Of the integrations of the program the first of each name takes part, with
one exception: what has the name of the integration that is there by default makes way for it. -/

namespace Telemetry

namespace Client

/-! ### Settings -/

section

variable {α : Type}

/-- An integration changes a setting as a client is made. -/
def Overwritten (get : Settings → α) (is : List Integration) (s : Settings) : Prop :=
  ∃ before i after, is = before ++ i :: after ∧
    get (i.setup (setUp before s)) ≠ get (setUp before s)

theorem setUp_kept (get : Settings → α) (is : List Integration) (s : Settings) :
    get (setUp is s) = get s ∨ Overwritten get is s := by
  induction is generalizing s with
  | nil => exact .inl rfl
  | cons i is ih =>
    by_cases kept : get (i.setup s) = get s
    · rcases ih (i.setup s) with same | ⟨before, j, after, rfl, changed⟩
      · exact .inl (same.trans kept)
      · exact .inr ⟨i :: before, j, after, rfl, changed⟩
    · exact .inr ⟨[], i, is, rfl, kept⟩

/-- What the program set is in force, unless an integration changed it. -/
def Honours [Host.Names] (get : Settings → Option α) (o : ClientOptions) (env : Environment)
    (c : Client) : Prop :=
  ∀ a, get o.toSettings = some a →
    get c.options.toSettings = some a ∨
      Overwritten get c.integrations (o.withDefaults env).toSettings

end

/-- Everything that a program may set or leave to the defaults. -/
structure Explicit [Host.Names] (o : ClientOptions) (env : Environment) (c : Client) : Prop where
  dsn : Honours Settings.dsn o env c
  release : Honours Settings.release o env c
  environment : Honours Settings.environment o env c
  serverName : Honours Settings.serverName o env c
  httpProxy : Honours Settings.httpProxy o env c
  httpsProxy : Honours Settings.httpsProxy o env c
  transport : Honours Settings.transport o env c
  /-- The transport in use is the one of the settings. -/
  attached : c.transport = c.options.dsn.bind fun _ =>
    c.options.transport.map (Transport.new c.options.toSettings)

/-! ### Clients of options -/

/-- A client of options that are in order. -/
structure MadeOf (o : ClientOptions) (c : Client) : Prop where
  integrations : c.integrations = distinct o.integrations
  settings : c.options.toSettings = setUp c.integrations o.toSettings
  transport : c.transport = c.options.dsn.bind fun _ =>
    c.options.transport.map (Transport.new c.options.toSettings)

theorem madeOf_create [PatternLanguage] {o : ClientOptions} {c : Client} {ds : List Diagnostic}
    (made : create o = .ok (c, ds)) : c.MadeOf o := by
  unfold create at made
  cases compiled : o.compile with
  | error e =>
    rw [compiled] at made
    cases made
  | ok patterns =>
    rw [compiled] at made
    cases made
    exact ⟨rfl, rfl, rfl⟩

theorem create_valid [PatternLanguage] {o : ClientOptions} (valid : o.validate = .ok ()) :
    ∃ c ds, create o = .ok (c, ds) := by
  unfold Settings.validate at valid
  cases compiled : o.compile with
  | error e =>
    rw [compiled] at valid
    cases valid
  | ok patterns =>
    unfold create
    rw [compiled]
    exact ⟨_, _, rfl⟩

theorem explicit_of_madeOf [Host.Names] {o : ClientOptions} {env : Environment} {c : Client}
    (made : c.MadeOf (o.withDefaults env)) : c.Explicit o env := by
  have honours {α : Type} (get : Settings → Option α)
      (filled : ∀ a, get o.toSettings = some a → get (o.withDefaults env).toSettings = some a) :
      Honours get o env c := by
    intro a set
    rw [← filled a set, made.settings]
    exact setUp_kept get c.integrations _
  have first {α : Type} {x : Option α} (y : Option α) {a : α} (set : x = some a) :
      x.or y = some a := by
    rw [set, Option.some_or]
  exact {
    dsn := honours _ fun _ set => first _ set
    release := honours _ fun _ set => first _ set
    environment := honours _ fun _ set => first _ (first _ set)
    serverName := honours _ fun _ set => first _ set
    httpProxy := honours _ fun _ set => first _ (first _ set)
    httpsProxy := honours _ fun _ set => first _ (first _ (first _ set))
    transport := honours _ fun _ set => first _ set
    attached := made.transport }

/-! ### Integrations -/

theorem mem_of_mem_distinct {i : Integration} {is : List Integration} (h : i ∈ distinct is) :
    i ∈ is := by
  induction is with
  | nil => exact h
  | cons j is ih =>
    rcases List.mem_cons.mp h with rfl | rest
    · exact List.mem_cons_self
    · exact List.mem_cons_of_mem j (ih (List.mem_filter.mp rest).1)

theorem mem_distinct {before after : List Integration} {i : Integration}
    (first : ∀ j ∈ before, j.name ≠ i.name) : i ∈ distinct (before ++ i :: after) := by
  induction before with
  | nil => exact List.mem_cons_self
  | cons j before ih =>
    have kept := ih fun j' hj' => first j' (List.mem_cons_of_mem j hj')
    have other : i.name ≠ j.name := (first j List.mem_cons_self).symm
    refine List.mem_cons_of_mem j (List.mem_filter.mpr ⟨kept, ?_⟩)
    exact decide_eq_true other

/-- What integrations make of an event, one after the other. -/
def integrate (s : Settings) : List Integration → Event → Except EventDrop Event
  | [], e => .ok e
  | i :: is, e =>
    match i.process s e with
    | some e' => integrate s is e'
    | none => .error (.integration i.name e.id)

theorem integrate_append (s : Settings) (is js : List Integration) (e : Event) :
    integrate s (is ++ js) e = integrate s is e >>= integrate s js := by
  induction is generalizing e with
  | nil => rfl
  | cons i is ih =>
    rw [List.cons_append, integrate, integrate]
    split
    · exact ih _
    · rfl

theorem askAll_stages {σ : Type} (c : Client) (e : Event) (w : σ) :
    (Stage.askAll (m := Run σ) c.stages e).run w =
      (.done (integrate c.options.toSettings c.integrations e), w) := by
  unfold stages
  induction c.integrations generalizing e with
  | nil => rfl
  | cons i is ih =>
    rw [List.map_cons, integrate]
    show (match i.process c.options.toSettings e with
      | some e' => Stage.askAll (m := Run σ) _ e'
      | none => throw (EventDrop.integration i.name e.id)).run w = _
    split
    · exact ih _
    · rfl

/-- An integration is part of a client: as the client is made it sets up the options, and it is asked
about every event that the integrations before it let through. -/
def HasPart (i : Integration) (s : Settings) (c : Client) : Prop :=
  ∃ before after, c.integrations = before ++ i :: after ∧
    c.options.toSettings = setUp after (i.setup (setUp before s)) ∧
    ∀ (σ : Type) (e : Event) (w : σ),
      (Stage.askAll (m := Run σ) c.stages e).run w =
        (.done (integrate c.options.toSettings before e >>= fun e' =>
          match i.process c.options.toSettings e' with
          | some e'' => integrate c.options.toSettings after e''
          | none => .error (.integration i.name e'.id)), w)

theorem MadeOf.hasPart {o : ClientOptions} {c : Client} (made : c.MadeOf o) {i : Integration}
    (member : i ∈ distinct o.integrations) : HasPart i o.toSettings c := by
  rw [← made.integrations] at member
  obtain ⟨before, after, split⟩ := List.append_of_mem member
  refine ⟨before, after, split, ?_, fun σ e w => ?_⟩
  · rw [made.settings, split]
    exact List.foldl_append
  · rw [askAll_stages, split, integrate_append]
    rfl

/-- An integration of the program has the name of the one that is there by default. -/
def Displaced (o : ClientOptions) (i : Integration) : Prop :=
  o.defaultIntegrations = true ∧ i.name = (panicIntegration []).name ∧ i ≠ panicIntegration []

theorem mem_withDefaults [Host.Names] {o : ClientOptions} {env : Environment} {i : Integration}
    (h : i ∈ (o.withDefaults env).integrations) : i = panicIntegration [] ∨ i ∈ o.integrations := by
  have all : (o.withDefaults env).integrations =
    if o.defaultIntegrations then panicIntegration [] :: o.integrations else o.integrations := rfl
  rw [all] at h
  split at h
  · exact List.mem_cons.mp h
  · exact .inr h

theorem hasPart_iff [Host.Names] {o : ClientOptions} {env : Environment} {c : Client}
    (made : c.MadeOf (o.withDefaults env)) {before after : List Integration} {i : Integration}
    (split : o.integrations = before ++ i :: after) (first : ∀ j ∈ before, j.name ≠ i.name) :
    HasPart i (o.withDefaults env).toSettings c ↔ ¬ Displaced o i := by
  have all : (o.withDefaults env).integrations =
    if o.defaultIntegrations then panicIntegration [] :: o.integrations else o.integrations := rfl
  constructor
  · rintro ⟨front, back, there, -, -⟩ ⟨default, name, other⟩
    have member : i ∈ c.integrations := by
      rw [there]
      exact List.mem_append_right _ List.mem_cons_self
    rw [made.integrations, all, if_pos default] at member
    rcases List.mem_cons.mp member with same | rest
    · exact other same
    · exact of_decide_eq_true (List.mem_filter.mp rest).2 name
  · intro stays
    apply made.hasPart
    rw [all]
    cases default : o.defaultIntegrations with
    | false =>
      rw [if_neg Bool.false_ne_true, split]
      exact mem_distinct first
    | true =>
      rw [if_pos rfl, split]
      by_cases name : i.name = (panicIntegration []).name
      · have same : i = panicIntegration [] :=
          Classical.byContradiction fun other => stays ⟨default, name, other⟩
        rw [same]
        exact List.mem_cons_self
      · show i ∈ distinct ((panicIntegration [] :: before) ++ i :: after)
        refine mem_distinct fun j member => ?_
        rcases List.mem_cons.mp member with rfl | earlier
        · exact Ne.symm name
        · exact first j earlier

/-! ### Extractors -/

/-- Only the integration for panics is of the kind of that integration. -/
def Genuine (i : Integration) : Prop :=
  ∀ extractors, i.kind = .panic extractors → i = panicIntegration extractors

theorem panicExtractors?_of_mem {c : Client} (names : (c.integrations.map Integration.name).Nodup)
    (genuine : ∀ i ∈ c.integrations, Genuine i) {extractors : List (String → Event → Option Event)}
    (member : panicIntegration extractors ∈ c.integrations) :
    c.panicExtractors? = some extractors := by
  cases found : c.panicExtractors? with
  | none =>
    have nothing := List.findSome?_eq_none_iff.mp found _ member
    cases nothing
  | some others =>
    obtain ⟨i, there, kind⟩ := List.exists_of_findSome?_eq_some found
    have same : i = panicIntegration others := by
      apply genuine i there
      split at kind
      · next known =>
        rw [known, Option.some.inj kind]
      · cases kind
    subst same
    have one := List.inj_on_of_nodup_map names there member rfl
    have kinds := congrArg Integration.kind one
    cases kinds
    rfl

end Client

end Telemetry
