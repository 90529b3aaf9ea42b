import Telemetry.Envelope

/-! Envelopes as they are built: items are added, and a test lets some of them through. The
identifier is noted as the items come, so it has to be found anew when some of them go; it is always
that of the first event that is there. -/

namespace Telemetry

namespace Item

/-- An item is an event or a transaction. -/
inductive Holds : Item → Event → Prop
  | event (e : Event) : Holds (.event e) e
  | transaction (e : Event) : Holds (.transaction e) e

/-- What a test with a memory lets through, one item after the other. -/
def sift {τ : Type} (test : τ → Item → Bool × τ) : τ → List Item → List Item
  | _, [] => []
  | memory, i :: is =>
    let r := test memory i
    if r.1 then i :: sift test r.2 is else sift test r.2 is

theorem sift_filter (p : Item → Bool) (is : List Item) :
    sift (fun _ i => (p i, ())) () is = is.filter p := by
  induction is with
  | nil => rfl
  | cons i is ih => simp only [sift, ih, List.filter_cons]

theorem Holds.eventId? {i : Item} {event : Event} (holds : i.Holds event) :
    i.eventId? = some event.id := by
  cases holds <;> rfl

theorem eventId?_none {i : Item} (nothing : ∀ event, ¬ i.Holds event) : i.eventId? = none := by
  cases i with
  | event e => exact absurd (.event e) (nothing e)
  | transaction e => exact absurd (.transaction e) (nothing e)
  | checkIn | logs | metrics => rfl

end Item

namespace Envelope

variable {e kept : Envelope} {p q : Item → Bool}

/-- The envelope of the items that a test with a memory lets through, if there are any. -/
def sift {τ : Type} (test : τ → Item → Bool × τ) (memory : τ) (e : Envelope) : Option Envelope :=
  let kept := ofItems (Item.sift test memory e.items)
  if kept.isEmpty then none else some kept

/-- A test without a memory. -/
theorem sift_filter (p : Item → Bool) (e : Envelope) :
    e.sift (fun _ i => (p i, ())) () = e.filter p := by
  rw [sift, Item.sift_filter]
  rfl

/-- An envelope as it may come to be: empty or made of one item, and then changed. -/
inductive Built : Envelope → Prop
  | empty : Built empty
  | ofItem (i : Item) : Built (ofItem i)
  | add {e : Envelope} (built : Built e) (i : Item) : Built (e.add i)
  | sift {e kept : Envelope} {τ : Type} {test : τ → Item → Bool × τ} {memory : τ}
    (built : Built e) (left : e.sift test memory = some kept) : Built kept

/-- The identifier is that of the first item that is an event or a transaction, and there is none
without such an item. -/
structure Named (e : Envelope) : Prop where
  first : ∀ front i back event, e.items = front ++ i :: back →
    (∀ j ∈ front, ∀ x, ¬ j.Holds x) → i.Holds event → e.id = some event.id
  without : (∀ i ∈ e.items, ∀ x, ¬ i.Holds x) → e.id = none

/-! ### Items one after the other -/

theorem items_ofItems (items : List Item) : (ofItems items).items = items := by
  have more : ∀ (xs : List Item) (e : Envelope), (xs.foldl add e).items = e.items ++ xs := by
    intro xs
    induction xs with
    | nil => exact fun e => (List.append_nil _).symm
    | cons x xs ih =>
      intro e
      rw [List.foldl_cons, ih, add, List.append_assoc]
      rfl
  exact more items empty

theorem id_ofItems (items : List Item) : (ofItems items).id = items.findSome? Item.eventId? := by
  have more : ∀ (xs : List Item) (e : Envelope),
      (xs.foldl add e).id = e.id.or (xs.findSome? Item.eventId?) := by
    intro xs
    induction xs with
    | nil => exact fun e => Option.or_none.symm
    | cons x xs ih =>
      intro e
      rw [List.foldl_cons, ih, add, Option.or_assoc, List.findSome?_cons]
      cases x.eventId? <;> rfl
  exact more items empty

theorem isEmpty_ofItems (items : List Item) : (ofItems items).isEmpty = items.isEmpty := by
  rw [isEmpty, items_ofItems]

theorem named_of_id (h : e.id = e.items.findSome? Item.eventId?) : e.Named := by
  have passed {front : List Item} (nothing : ∀ j ∈ front, ∀ x, ¬ j.Holds x) :
      front.findSome? Item.eventId? = none :=
    List.findSome?_eq_none_iff.mpr fun j hj => Item.eventId?_none (nothing j hj)
  constructor
  · intro front i back event items nothing holds
    rw [h, items, List.findSome?_append, passed nothing, Option.none_or, List.findSome?_cons,
      holds.eventId?]
  · intro nothing
    rw [h, passed nothing]

/-- The identifier is right whatever has happened to an envelope. -/
theorem Built.id_eq (built : Built e) : e.id = e.items.findSome? Item.eventId? := by
  induction built with
  | empty => rfl
  | ofItem i => exact id_ofItems [i]
  | @add e built i ih =>
    rw [Envelope.add, ih, List.findSome?_append, List.findSome?_singleton]
  | sift built left ih =>
    obtain ⟨-, made⟩ := Option.ite_none_left_eq_some.mp left
    rw [← Option.some.inj made, id_ofItems, items_ofItems]

/-! ### Filtering -/

theorem filter_eq (p : Item → Bool) (e : Envelope) : e.filter p =
    if (e.items.filter p).isEmpty then none else some (ofItems (e.items.filter p)) := by
  simp only [filter, isEmpty_ofItems]

theorem items_filter (h : e.filter p = some kept) :
    kept.items = e.items.filter p ∧ kept.items ≠ [] := by
  rw [filter_eq] at h
  obtain ⟨full, same⟩ := Option.ite_none_left_eq_some.mp h
  rw [← Option.some.inj same, items_ofItems]
  exact ⟨rfl, by simpa using full⟩

theorem filter_eq_none_iff : e.filter p = none ↔ ∀ i ∈ e.items, p i = false := by
  rw [filter_eq, ite_eq_left_iff]
  simp [List.filter_eq_nil_iff]

/-- Two tests one after the other are one test. -/
theorem filter_filter (p q : Item → Bool) (e : Envelope) :
    (e.filter p).bind (filter q) = e.filter fun i => p i && q i := by
  have both : e.items.filter (fun i => p i && q i) = (e.items.filter p).filter q := by
    rw [List.filter_filter]
    simp only [Bool.and_comm]
  rw [filter_eq p, filter_eq fun i => p i && q i, both]
  split
  · next none => simp [List.isEmpty_iff.mp none]
  · rw [Option.bind_some, filter_eq, items_ofItems]

theorem filter_kept (h : e.filter p = some kept) : kept.filter p = some kept := by
  have twice := filter_filter p p e
  simp only [h, Bool.and_self] at twice
  exact twice

/-- However an envelope was built, it has the identifier of its first event. A filter keeps the
items that pass in their order and gives nothing just if there are none, and two filters are one,
with the identifier. -/
theorem built_filter :
    (∀ e : Envelope, Built e → e.Named) ∧
    ∀ (e : Envelope) (p q : Item → Bool),
      (e.filter p = none ↔ ∀ i ∈ e.items, p i = false) ∧
      (∀ kept, e.filter p = some kept → kept.items = e.items.filter p) ∧
      (e.filter p).bind (filter q) = e.filter fun i => p i && q i := by
  refine ⟨fun e built => named_of_id built.id_eq, fun e p q => ?_⟩
  exact ⟨filter_eq_none_iff, fun kept h => (items_filter h).1, filter_filter p q e⟩

/-- Of two events the first one goes, and a log before both stays: the envelope gets the identifier
of the second one. -/
theorem built_filter_later :
    let early : Event := .empty .nil .epoch
    let late : Event := .empty (.random 1) .epoch
    let e := ((ofItem (.logs [.make .warn "x" .epoch])).add (.event early)).add (.transaction late)
    let test : Bool → Item → Bool × Bool := fun seen i =>
      match i with
      | .event _ => (seen, true)
      | _ => (true, seen)
    ∃ kept, Built e ∧ e.sift test false = some kept ∧ Built kept ∧
      e.id = some early.id ∧ kept.id = some late.id ∧
      (e.filter (fun i => i.category != .error)).bind (filter fun i => i.category != .logItem) =
        e.filter fun i => i.category != .error && i.category != .logItem := by
  intro early late e test
  have built : Built e := .add (.add (.ofItem _) _) _
  obtain ⟨kept, left⟩ : ∃ kept, e.sift test false = some kept := ⟨_, rfl⟩
  have after : Built kept := .sift built left
  have items : kept.items = [.logs [.make .warn "x" .epoch], .transaction late] := by
    rw [← Option.some.inj left]
    rfl
  have logs (ls : List Log) (x : Event) : ¬ (Item.logs ls).Holds x := nofun
  refine ⟨kept, built, left, after, ?_, ?_, (built_filter.2 e _ _).2.2⟩
  · refine (built_filter.1 e built).first [.logs _] _ [.transaction late] early rfl ?_
      (.event early)
    exact fun j hj => List.mem_singleton.mp hj ▸ logs _
  · refine (built_filter.1 kept after).first [.logs _] _ [] late items ?_ (.transaction late)
    exact fun j hj => List.mem_singleton.mp hj ▸ logs _

end Envelope

end Telemetry
