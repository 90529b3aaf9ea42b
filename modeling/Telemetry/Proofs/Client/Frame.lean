import Telemetry.Proofs.Client.Barrier
import Telemetry.Proofs.Transport.Unlimited

/-! What a client keeps while it is used. Its workers and its transport go on; everything else that it
is made of stays. A transport that meets no rate limits never does. -/

namespace Telemetry

namespace Client

variable {now : Instant} {P : Client → Prop}

/-! ### What operations keep -/

/-- A property that the parts of a client which change may have, but no more than that. -/
structure Kept (P : Client → Prop) : Prop where
  logs : ∀ c e, P c → P { c with logs := e }
  metrics : ∀ c e, P c → P { c with metrics := e }
  send : ∀ c t now pace e, c.transport = some t → P c →
    P { c with transport := some (t.send now pace e).transport }
  turn : ∀ c t now pace, c.transport = some t → P c →
    P { c with transport := some (t.turn now pace) }
  flush : ∀ c t now pace, c.transport = some t → P c →
    P { c with transport := some (t.flush now pace).2 }

theorem transport_of_current {c : Client} {t : Transport} (h : c.current? = some t) :
    c.transport = some t := by
  unfold current? at h
  split at h
  · exact h
  · cases h

namespace Kept

variable (kept : Kept P) {c : Client}
include kept

theorem sendOne (h : P c) (now : Instant) (pace : Emitter.Pace) (e : Envelope) :
    P (c.send now pace e).client := by
  unfold Client.send
  split
  · exact h
  · next t there => exact kept.send c t now pace e (transport_of_current there) h

theorem handOn (h : P c) (pace : Emitter.Pace) (is : List Item) : P (c.handOn now pace is) := by
  induction is generalizing c pace with
  | nil => exact h
  | cons i is ih => exact ih (kept.sendOne h now _ _) _

theorem last (h : P c) (o : Operation) : P (o.last c) := by
  cases o with
  | work now pace =>
    show P { c with transport := c.transport.map (Transport.turn now (pace.sub 4).turn) }
    cases there : c.transport with
    | none =>
      have same : c = { c with transport := none } := by rw [← there]
      rwa [same] at h
    | some t => exact kept.turn c t now _ there h
  | event now pace e => exact kept.sendOne h now pace _
  | log | metric => exact h
  | flush now pace =>
    show P (c.flushTransport now (pace.sub 2)).2
    unfold flushTransport
    split
    · exact h
    · next t there => exact kept.flush c t now _ (transport_of_current there) h

/-- It is enough to look at each part alone. -/
theorem run (h : P c) (o : Operation) : P (o.run c) := by
  rw [Operation.run_eq]
  refine kept.last ?_ o
  exact kept.handOn (kept.metrics _ _ (kept.handOn (kept.logs _ _ h) _ _)) _ _

end Kept

/-! ### The frame -/

/-- A client without what its workers and its transport change. -/
def shell (c : Client) : Client := { c with transport := none, logs := none, metrics := none }

/-- Two clients with one frame, of which both have a transport or neither. -/
structure SameFrame (c c' : Client) : Prop where
  shell : c.shell = c'.shell
  attached : c.current?.isSome = c'.current?.isSome

/-- A client that meets no rate limits. -/
def Steady (c : Client) : Prop := ∀ t, c.transport = some t → t.Steady

theorem kept_steady : Kept Steady where
  logs _ _ h := h
  metrics _ _ h := h
  send c t now pace e there h t' some := by
    cases some
    exact ((h t there).send now pace e).1
  turn c t now pace there h t' some := by
    cases some
    exact (h t there).turn pace
  flush c t now pace there h t' some := by
    cases some
    exact (h t there).flush pace

theorem current?_replace {c : Client} {t : Transport} (there : c.transport = some t)
    (t' : Transport) :
    c.current?.isSome = (current? { c with transport := some t' }).isSome := by
  unfold current?
  rw [there]
  cases c.attached <;> rfl

theorem kept_sameFrame (c : Client) : Kept (SameFrame c) where
  logs _ _ h := ⟨h.shell, h.attached⟩
  metrics _ _ h := ⟨h.shell, h.attached⟩
  send _ _ _ _ _ there h := ⟨h.shell, h.attached.trans (current?_replace there _)⟩
  turn _ _ _ _ there h := ⟨h.shell, h.attached.trans (current?_replace there _)⟩
  flush _ _ _ _ there h := ⟨h.shell, h.attached.trans (current?_replace there _)⟩

theorem sameFrame_run (c : Client) (o : Operation) : SameFrame c (o.run c) :=
  (kept_sameFrame c).run ⟨rfl, rfl⟩ o

namespace SameFrame

variable {c c' c'' : Client}

theorem refl (c : Client) : SameFrame c c := ⟨rfl, rfl⟩

theorem symm (h : SameFrame c c') : SameFrame c' c := ⟨h.shell.symm, h.attached.symm⟩

theorem trans (h : SameFrame c c') (h' : SameFrame c' c'') : SameFrame c c'' :=
  ⟨h.shell.trans h'.shell, h.attached.trans h'.attached⟩

theorem options (h : SameFrame c c') : c.options = c'.options := by
  show c.shell.options = c'.shell.options
  rw [h.shell]

theorem integrations (h : SameFrame c c') : c.integrations = c'.integrations := by
  show c.shell.integrations = c'.shell.integrations
  rw [h.shell]

theorem patterns (h : SameFrame c c') : c.patterns = c'.patterns := by
  show c.shell.patterns = c'.shell.patterns
  rw [h.shell]

theorem sdk (h : SameFrame c c') : c.sdk = c'.sdk := by
  show c.shell.sdk = c'.shell.sdk
  rw [h.shell]

theorem isEnabled (h : SameFrame c c') : c.isEnabled = c'.isEnabled := by
  rw [Client.isEnabled, Client.isEnabled, h.options, h.attached]

end SameFrame

theorem Steady.isLimited {c : Client} (h : c.Steady) (now : Instant) (k : Category) :
    c.isLimited now k = false := by
  unfold Client.isLimited
  split
  · next t there => exact (h t (transport_of_current there)).isLimited now k
  · rfl

theorem Steady.send_panicked {c : Client} (h : c.Steady) (now : Instant) (pace : Emitter.Pace)
    (e : Envelope) : (c.send now pace e).panicked = false := by
  unfold Client.send
  split
  · rfl
  · next t there => exact ((h t (transport_of_current there)).send now pace e).2

end Client

end Telemetry
