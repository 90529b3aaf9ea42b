import Telemetry.Json.Basic

/-! Maps from strings, kept as their entries in strictly increasing order of keys, so that two maps
with the same entries are equal. -/

namespace Telemetry

/-- The keys of the entries are strictly increasing. -/
def SortedKeys {α : Type} (entries : List (String × α)) : Prop :=
  entries.Pairwise fun a b => a.1 < b.1

theorem mem_insertSorted {α : Type} {k : String} {v : α} {entries : List (String × α)}
    {e : String × α} (h : e ∈ insertSorted k v entries) : e = (k, v) ∨ e ∈ entries := by
  induction entries with
  | nil => simpa [insertSorted] using h
  | cons head rest ih =>
    obtain ⟨k', v'⟩ := head
    unfold insertSorted at h
    split at h
    · simpa using h
    · split at h
      · simp only [List.mem_cons] at h ⊢
        exact h.imp_right .inr
      · simp only [List.mem_cons] at h ⊢
        rcases h with h | h
        · exact .inr (.inl h)
        · exact (ih h).imp_right .inr

theorem sortedKeys_insertSorted {α : Type} {entries : List (String × α)} (k : String) (v : α)
    (h : SortedKeys entries) : SortedKeys (insertSorted k v entries) := by
  induction entries with
  | nil => simp [insertSorted, SortedKeys]
  | cons head rest ih =>
    obtain ⟨k', v'⟩ := head
    have hc := List.pairwise_cons.mp h
    unfold insertSorted
    split
    · next hlt =>
      refine List.pairwise_cons.mpr ⟨fun e he => ?_, h⟩
      rcases List.mem_cons.mp he with rfl | he
      · exact hlt
      · exact String.lt_trans hlt (hc.1 e he)
    · next hlt =>
      split
      · next heq => subst heq; exact List.pairwise_cons.mpr ⟨hc.1, hc.2⟩
      · next hne =>
        have hgt : k' < k := Std.lt_of_le_of_ne (String.not_lt.mp hlt) (Ne.symm hne)
        refine List.pairwise_cons.mpr ⟨fun e he => ?_, ih hc.2⟩
        rcases mem_insertSorted he with rfl | he
        · exact hgt
        · exact hc.1 e he

/-- A map from strings. -/
structure StringMap (α : Type) where
  entries : List (String × α)
  sorted : SortedKeys entries

namespace StringMap

variable {α β : Type}

/-- No entries. -/
def empty : StringMap α := ⟨[], List.Pairwise.nil⟩

instance : Inhabited (StringMap α) := ⟨empty⟩

instance : EmptyCollection (StringMap α) := ⟨empty⟩

/-- Sets the value of a key. -/
def insert (m : StringMap α) (k : String) (v : α) : StringMap α :=
  ⟨insertSorted k v m.entries, sortedKeys_insertSorted k v m.sorted⟩

/-- Removes a key. -/
def erase (m : StringMap α) (k : String) : StringMap α :=
  ⟨m.entries.filter fun e => e.1 ≠ k, m.sorted.filter _⟩

/-- The value of a key. -/
def get? (m : StringMap α) (k : String) : Option α := m.entries.lookup k

/-- Whether a key has a value. -/
def contains (m : StringMap α) (k : String) : Bool := (m.get? k).isSome

/-- Sets the value of a key that has none. -/
def insertNew (m : StringMap α) (k : String) (v : α) : StringMap α :=
  if m.contains k then m else m.insert k v

/-- Sets the values of the listed keys, one after the other. -/
def insertAll (m : StringMap α) (entries : List (String × α)) : StringMap α :=
  entries.foldl (fun m e => m.insert e.1 e.2) m

/-- The map of a list; of several entries with one key the last counts. -/
def ofList (entries : List (String × α)) : StringMap α := empty.insertAll entries

/-- Both maps together; a key of both has its value in the second. -/
def union (m n : StringMap α) : StringMap α := m.insertAll n.entries

/-- Whether there are no entries. -/
def isEmpty (m : StringMap α) : Bool := m.entries.isEmpty

/-- The number of entries. -/
def size (m : StringMap α) : Nat := m.entries.length

/-- The object with these entries. -/
def json (f : α → Json) (m : StringMap α) : Json := Json.entries f m.entries

/-- The object with these entries, if there are any. -/
def field (name : String) (f : α → Json) (m : StringMap α) : Option (String × Json) :=
  if m.isEmpty then none else some (name, m.json f)

end StringMap

end Telemetry
