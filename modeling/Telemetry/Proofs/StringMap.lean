import Telemetry.StringMap

/-! What a map of a list of entries holds: of a list with distinct keys just these entries, and of
the entries of a map the map itself. -/

namespace Telemetry

variable {α : Type}

theorem lookup_entry (n k : String) (v : α) (rest : List (String × α)) :
    ((k, v) :: rest).lookup n = if n = k then some v else rest.lookup n := by
  rw [List.lookup_cons]
  by_cases hn : n = k
  · simp [hn]
  · rw [beq_false_of_ne hn, if_neg hn]

theorem lookup_eq_none {n : String} {entries : List (String × α)}
    (h : n ∉ entries.map Prod.fst) : entries.lookup n = none := by
  induction entries with
  | nil => rfl
  | cons e rest ih =>
    rw [List.map_cons, List.mem_cons, not_or] at h
    rw [lookup_entry, if_neg h.1, ih h.2]

theorem lookup_eq_some {n : String} {v : α} {entries : List (String × α)}
    (h : (entries.map Prod.fst).Nodup) : entries.lookup n = some v ↔ (n, v) ∈ entries := by
  induction entries with
  | nil => simp
  | cons e rest ih =>
    obtain ⟨k, v'⟩ := e
    rw [List.map_cons, List.nodup_cons] at h
    rw [lookup_entry, List.mem_cons, Prod.mk.injEq]
    by_cases hn : n = k
    · have absent : (n, v) ∉ rest := fun mem => h.1 (hn ▸ List.mem_map.mpr ⟨_, mem, rfl⟩)
      simp [hn, hn ▸ absent, eq_comm]
    · simp [hn, ih h.2]

theorem lookup_filter (p : String → Bool) (n : String) (entries : List (String × α)) :
    (entries.filter fun e => p e.1).lookup n = if p n then entries.lookup n else none := by
  induction entries with
  | nil => simp
  | cons e rest ih =>
    obtain ⟨k, v⟩ := e
    rw [List.filter_cons]
    by_cases hn : n = k
    · subst hn
      cases hp : p n <;> simp [hp, ih]
    · cases hp : p k <;> simp [lookup_entry, ih, hn]

/-- The keys of a map are distinct. -/
theorem SortedKeys.nodup {entries : List (String × α)} (h : SortedKeys entries) :
    (entries.map Prod.fst).Nodup := by
  refine List.pairwise_map.mpr (h.imp fun {a b} hlt he => ?_)
  exact String.lt_irrefl b.1 (he ▸ hlt)

theorem lookup_insertSorted (n k : String) (v : α) (entries : List (String × α)) :
    (insertSorted k v entries).lookup n = if n = k then some v else entries.lookup n := by
  induction entries with
  | nil => exact lookup_entry n k v []
  | cons head rest ih =>
    obtain ⟨k', v'⟩ := head
    unfold insertSorted
    by_cases hlt : k < k'
    · rw [if_pos hlt, lookup_entry]
    · by_cases hk : k = k'
      · rw [if_neg hlt, if_pos hk, lookup_entry, lookup_entry, hk]
        split <;> rfl
      · rw [if_neg hlt, if_neg hk, lookup_entry, ih, lookup_entry]
        by_cases hn : n = k
        · subst hn
          simp [hk]
        · simp [hn]

/-- An entry whose key is beyond all others goes to the end. -/
theorem insertSorted_last {k : String} {v : α} {entries : List (String × α)}
    (h : ∀ e ∈ entries, e.1 < k) : insertSorted k v entries = entries ++ [(k, v)] := by
  induction entries with
  | nil => rfl
  | cons head rest ih =>
    obtain ⟨k', v'⟩ := head
    have hlt : k' < k := h (k', v') (List.mem_cons_self ..)
    have hne : k ≠ k' := fun he => String.lt_irrefl k' (he ▸ hlt)
    rw [insertSorted, if_neg (String.lt_asymm hlt), if_neg hne,
      ih fun e he => h e (List.mem_cons_of_mem _ he), List.cons_append]

namespace StringMap

@[ext] theorem ext {m m' : StringMap α} (h : m.entries = m'.entries) : m = m' := by
  cases m
  cases m'
  cases h
  rfl

theorem get?_eq_some {m : StringMap α} {k : String} {v : α} :
    m.get? k = some v ↔ (k, v) ∈ m.entries :=
  lookup_eq_some m.sorted.nodup

/-- Two maps that give each key the same value are one map. -/
theorem eq_of_get? {m m' : StringMap α} (h : ∀ k, m.get? k = m'.get? k) : m = m' := by
  have same (e : String × α) : e ∈ m.entries ↔ e ∈ m'.entries := by
    rw [← get?_eq_some, ← get?_eq_some, h]
  have single {entries : List (String × α)} (sorted : SortedKeys entries) : entries.Nodup :=
    List.Pairwise.of_map Prod.fst (fun _ _ => mt (congrArg Prod.fst)) sorted.nodup
  have perm : m.entries.Perm m'.entries :=
    (List.perm_ext_iff_of_nodup (single m.sorted) (single m'.sorted)).mpr same
  refine ext (perm.eq_of_pairwise (fun a b _ _ hab hba => ?_) m.sorted m'.sorted)
  exact absurd hba (String.lt_asymm hab)

theorem insertAll_sorted (m : StringMap α) (entries : List (String × α))
    (h : SortedKeys (m.entries ++ entries)) :
    (m.insertAll entries).entries = m.entries ++ entries := by
  induction entries generalizing m with
  | nil => simp [insertAll]
  | cons e rest ih =>
    have last : (m.insert e.1 e.2).entries = m.entries ++ [e] :=
      insertSorted_last fun x hx => (List.pairwise_append.mp h).2.2 x hx e (List.mem_cons_self ..)
    have rest' := ih (m.insert e.1 e.2) (by rw [last, List.append_assoc]; exact h)
    rw [last, List.append_assoc] at rest'
    exact rest'

/-- The map of the entries of a map is that map. -/
theorem ofList_entries (m : StringMap α) : ofList m.entries = m :=
  ext (insertAll_sorted empty m.entries m.sorted)

theorem get?_insert (m : StringMap α) (k : String) (v : α) (n : String) :
    (m.insert k v).get? n = if n = k then some v else m.get? n :=
  lookup_insertSorted n k v m.entries

theorem contains_eq_false {m : StringMap α} {k : String} :
    m.contains k = false ↔ m.get? k = none := by
  simp [contains]

theorem get?_insertNew (m : StringMap α) (k : String) (v : α) (n : String) :
    (m.insertNew k v).get? n = (m.get? n).or (if n = k then some v else none) := by
  unfold insertNew contains
  by_cases hn : n = k
  · subst hn
    cases hm : m.get? n <;> simp [hm, get?_insert]
  · split <;> simp [get?_insert, hn]

theorem get?_insertAll (m : StringMap α) {entries : List (String × α)}
    (h : (entries.map Prod.fst).Nodup) (n : String) :
    (m.insertAll entries).get? n = (entries.lookup n).or (m.get? n) := by
  induction entries generalizing m with
  | nil => rfl
  | cons e rest ih =>
    obtain ⟨k, v⟩ := e
    rw [List.map_cons, List.nodup_cons] at h
    show ((m.insert k v).insertAll rest).get? n = _
    rw [ih _ h.2, get?_insert, lookup_entry]
    by_cases hn : n = k
    · have absent : rest.lookup n = none := lookup_eq_none (hn ▸ h.1)
      simp [hn ▸ absent, hn]
    · rw [if_neg hn, if_neg hn]

theorem get?_union (m n : StringMap α) (k : String) :
    (m.union n).get? k = (n.get? k).or (m.get? k) :=
  get?_insertAll m n.sorted.nodup k

/-- The map of entries with distinct keys holds what they say. -/
theorem get?_ofList {entries : List (String × α)} (h : (entries.map Prod.fst).Nodup)
    (n : String) : (ofList entries).get? n = entries.lookup n := by
  rw [ofList, get?_insertAll empty h]
  simp [empty, get?]

theorem mem_insertAll {m : StringMap α} {entries : List (String × α)} {e : String × α}
    (h : e ∈ (m.insertAll entries).entries) : e ∈ entries ∨ e ∈ m.entries := by
  induction entries generalizing m with
  | nil => exact .inr h
  | cons head rest ih =>
    rcases ih h with h | h
    · exact .inl (List.mem_cons_of_mem _ h)
    · rcases mem_insertSorted h with rfl | h
      · exact .inl (List.mem_cons_self ..)
      · exact .inr h

/-- Every entry of the map of a list is one of the list. -/
theorem mem_ofList {entries : List (String × α)} {e : String × α}
    (h : e ∈ (ofList entries).entries) : e ∈ entries :=
  (mem_insertAll h).resolve_right (by simp [empty])

theorem eq_empty_of_isEmpty {m : StringMap α} (h : m.isEmpty = true) : m = ∅ :=
  ext (List.isEmpty_iff.mp h)

end StringMap

end Telemetry
