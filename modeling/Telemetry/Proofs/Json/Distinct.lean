import Telemetry.Json.Reader
import Telemetry.Proofs.StringMap

/-! JSON values in which no object has two entries with one key. Whatever is read from a text is one
of them. -/

namespace Telemetry

/-- No object in a value has two entries with one key. -/
inductive Json.Distinct : Json → Prop where
  | null : Distinct .null
  | bool (b : Bool) : Distinct (.bool b)
  | int (n : Int) : Distinct (.int n)
  | float (x : Float) : Distinct (.float x)
  | str (s : String) : Distinct (.str s)
  | arr {items : List Json} : (∀ j ∈ items, Distinct j) → Distinct (.arr items)
  | obj {entries : List (String × Json)} : (entries.map Prod.fst).Nodup →
      (∀ e ∈ entries, Distinct e.2) → Distinct (.obj entries)

theorem sortedEntries_eq {α : Type} (entries : List (String × α)) :
    sortedEntries entries = (StringMap.ofList entries).entries := by
  have run : ∀ m : StringMap α, entries.foldl (fun acc e => insertSorted e.1 e.2 acc) m.entries =
      (m.insertAll entries).entries := by
    induction entries with
    | nil => exact fun _ => rfl
    | cons e rest ih => exact fun m => ih (m.insert e.1 e.2)
  exact run .empty

theorem distinct_sortedEntries {entries : List (String × Json)} (h : ∀ e ∈ entries, e.2.Distinct) :
    (Json.obj (sortedEntries entries)).Distinct := by
  rw [sortedEntries_eq]
  exact .obj (StringMap.ofList entries).sorted.nodup fun e he => h e (StringMap.mem_ofList he)

namespace Json.Reader

theorem distinct_number {cs : List Char} {j : Json} (h : number? cs = some j) : j.Distinct := by
  have float : ∀ (body : List Char) (f : Float → Float),
      (FloatText.decimal? body).map (fun x => Json.float (f x)) = some j → j.Distinct := by
    intro body f h
    obtain ⟨x, -, rfl⟩ := Option.map_eq_some_iff.mp h
    exact .float _
  unfold number? at h
  repeat' (first | split at h | simp only [] at h)
  all_goals first
    | cases h; exact .int _
    | cases h
    | exact float _ _ h

/-- What reading gives with any fuel. -/
theorem distinct_of_fuel (fuel : Nat) :
    (∀ cs j rest, value? fuel cs = some (j, rest) → j.Distinct) ∧
    (∀ cs js rest, items? fuel cs = some (js, rest) → ∀ j ∈ js, j.Distinct) ∧
    (∀ cs es rest, fields? fuel cs = some (es, rest) → ∀ e ∈ es, e.2.Distinct) := by
  induction fuel with
  | zero => exact ⟨nofun, nofun, nofun⟩
  | succ fuel ih =>
    obtain ⟨value, items, fields⟩ := ih
    refine ⟨fun cs j rest h => ?_, fun cs js rest h => ?_, fun cs es rest h => ?_⟩
    · unfold value? at h
      split at h
      · obtain ⟨_, -, ⟨⟩⟩ := Option.map_eq_some_iff.mp h
        exact .str _
      · split at h
        · cases h
          exact .arr nofun
        · obtain ⟨⟨js, r⟩, hjs, ⟨⟩⟩ := Option.map_eq_some_iff.mp h
          exact .arr (items _ js _ hjs)
      · split at h
        · cases h
          exact .obj List.nodup_nil nofun
        · obtain ⟨⟨es, r⟩, hes, ⟨⟩⟩ := Option.map_eq_some_iff.mp h
          exact distinct_sortedEntries (fields _ es _ hes)
      · cases h
        exact .null
      · cases h
        exact .bool true
      · cases h
        exact .bool false
      · obtain ⟨_, hn, ⟨⟩⟩ := Option.map_eq_some_iff.mp h
        exact distinct_number hn
    · simp only [items?, Option.bind_eq_bind, Option.bind_eq_some_iff] at h
      obtain ⟨⟨j, r⟩, hj, h⟩ := h
      have first := value cs j r hj
      dsimp only at h
      split at h
      · obtain ⟨⟨js', r'⟩, hjs, ⟨⟩⟩ := Option.bind_eq_some_iff.mp h
        exact List.forall_mem_cons.mpr ⟨first, items _ js' r' hjs⟩
      · cases h
        exact List.forall_mem_singleton.mpr first
      · cases h
    · unfold fields? at h
      split at h
      · obtain ⟨⟨k, r⟩, -, h⟩ := Option.bind_eq_some_iff.mp h
        dsimp only at h
        split at h
        · obtain ⟨⟨j, r⟩, hj, h⟩ := Option.bind_eq_some_iff.mp h
          have first := value _ j r hj
          dsimp only at h
          split at h
          · obtain ⟨⟨es', r'⟩, hes, ⟨⟩⟩ := Option.bind_eq_some_iff.mp h
            exact List.forall_mem_cons.mpr ⟨first, fields _ es' r' hes⟩
          · cases h
            exact List.forall_mem_singleton.mpr first
          · cases h
        · cases h
      · cases h

end Json.Reader

/-- Whatever is read from a text has distinct keys. -/
theorem Json.distinct_read {s : String} {j : Json} (h : read? s = some j) : j.Distinct := by
  unfold read? at h
  dsimp only at h
  split at h
  · next j' rest hv =>
    split at h
    · cases h
      exact (Reader.distinct_of_fuel _).1 _ _ _ hv
    · cases h
  · cases h

end Telemetry
