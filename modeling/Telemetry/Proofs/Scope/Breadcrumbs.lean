import Mathlib.Data.List.DropRight
import Telemetry.Scope

/-! The breadcrumbs of a scope. Each that is added comes with a limit of its own, and of those added
since the last clearing the newest are kept: as many as the tightest limit allows, which grows by
one with every breadcrumb after it. -/

namespace Telemetry.Scope

/-- Adds breadcrumbs, each with the limit that counts when it is added. -/
def addAll (crumbs : List (Breadcrumb × Nat)) (s : Scope) : Scope :=
  crumbs.foldl (fun s c => s.addBreadcrumb c.1 c.2) s

/-- The breadcrumbs that there is room for at all. -/
def roomy (crumbs : List (Breadcrumb × Nat)) : List (Breadcrumb × Nat) :=
  crumbs.filter fun c => 0 < c.2

/-- How many are kept: not more than were added, and for each limit not more than that and the
number of those added later. -/
def keptCount (crumbs : List (Breadcrumb × Nat)) : Nat :=
  (crumbs.mapIdx fun i c => c.2 + (crumbs.length - (i + 1))).foldl min crumbs.length

theorem addAll_append (crumbs more : List (Breadcrumb × Nat)) (s : Scope) :
    s.addAll (crumbs ++ more) = (s.addAll crumbs).addAll more := List.foldl_append

/-- Adding without room changes nothing. -/
theorem addAll_roomy (crumbs : List (Breadcrumb × Nat)) (s : Scope) :
    s.addAll crumbs = s.addAll (roomy crumbs) := by
  induction crumbs generalizing s with
  | nil => rfl
  | cons c crumbs ih =>
    by_cases none : c.2 = 0
    · have same : s.addBreadcrumb c.1 c.2 = s := if_pos none
      rw [addAll, List.foldl_cons, same, roomy, List.filter_cons_of_neg (by simp [none])]
      exact ih s
    · rw [addAll, List.foldl_cons, roomy, List.filter_cons_of_pos (by simp; omega)]
      exact ih _

theorem rtake_rtake {α : Type} (l : List α) (m n : Nat) :
    (l.rtake m).rtake n = l.rtake (min n m) := by
  rw [List.rtake, List.rtake, List.rtake, List.drop_drop, List.length_drop]
  congr 1
  omega

theorem breadcrumbs_addBreadcrumb (s : Scope) (b : Breadcrumb) {limit : Nat} (h : 0 < limit) :
    (s.addBreadcrumb b limit).breadcrumbs = (s.breadcrumbs ++ [b]).rtake limit := by
  rw [addBreadcrumb, if_neg (Nat.ne_of_gt h)]
  rfl

theorem foldl_min_succ (l : List Nat) (n : Nat) :
    (l.map (· + 1)).foldl min (n + 1) = l.foldl min n + 1 := by
  induction l generalizing n with
  | nil => rfl
  | cons m l ih =>
    rw [List.map_cons, List.foldl_cons, List.foldl_cons, ← ih]
    congr 1
    omega

theorem keptCount_concat (crumbs : List (Breadcrumb × Nat)) (c : Breadcrumb × Nat) :
    keptCount (crumbs ++ [c]) = min (keptCount crumbs + 1) c.2 := by
  have later : (crumbs.mapIdx fun i d => d.2 + (crumbs.length + 1 - (i + 1))) =
      (crumbs.mapIdx fun i d => d.2 + (crumbs.length - (i + 1))).map (· + 1) := by
    refine List.ext_getElem (by simp) fun i inside _ => ?_
    rw [List.length_mapIdx] at inside
    simp only [List.getElem_mapIdx, List.getElem_map]
    omega
  rw [keptCount, List.length_append, List.length_singleton, List.mapIdx_concat, later,
    List.foldl_append, foldl_min_succ, List.foldl_cons, List.foldl_nil, keptCount]
  simp

/-- What is kept of the breadcrumbs that were added since there were none. -/
theorem breadcrumbs_addAll {s : Scope} (cleared : s.breadcrumbs = [])
    (crumbs : List (Breadcrumb × Nat)) : (s.addAll crumbs).breadcrumbs =
      ((roomy crumbs).map Prod.fst).rtake (keptCount (roomy crumbs)) := by
  rw [addAll_roomy]
  have room : ∀ c ∈ roomy crumbs, 0 < c.2 := fun c hc => by simpa using List.of_mem_filter hc
  generalize roomy crumbs = kept at room ⊢
  -- from the newest on: what it leaves is a part of what those before it left
  induction kept using List.reverseRecOn with
  | nil => exact cleared
  | append_singleton kept c ih =>
    rw [addAll_append, List.map_append, List.map_singleton, keptCount_concat, Nat.min_comm,
      ← rtake_rtake, List.rtake_concat_succ, ← ih fun d hd => room d (List.mem_append_left _ hd)]
    exact breadcrumbs_addBreadcrumb _ _ (room c List.mem_concat_self)

theorem keptCount_const {crumbs : List (Breadcrumb × Nat)} {limit : Nat}
    (same : ∀ c ∈ crumbs, c.2 = limit) : keptCount crumbs = min crumbs.length limit := by
  induction crumbs using List.reverseRecOn with
  | nil => simp [keptCount]
  | append_singleton crumbs c ih =>
    rw [keptCount_concat, ih fun d hd => same d (List.mem_append_left _ hd),
      same c List.mem_concat_self, List.length_append, List.length_singleton]
    omega

/-- With one limit for all of them the newest are kept, as many as it allows. -/
theorem breadcrumbs_addAll_const {s : Scope} (cleared : s.breadcrumbs = []) (limit : Nat)
    (crumbs : List Breadcrumb) : (s.addAll (crumbs.map fun b => (b, limit))).breadcrumbs =
      crumbs.rtake (min crumbs.length limit) := by
  rw [breadcrumbs_addAll cleared]
  rcases Nat.eq_zero_or_pos limit with rfl | room
  · have none : roomy (crumbs.map fun b => (b, 0)) = [] := by simp [roomy]
    rw [none, Nat.min_zero, List.rtake_zero]
    rfl
  · have all : roomy (crumbs.map fun b => (b, limit)) = crumbs.map fun b => (b, limit) := by
      simpa [roomy] using fun b _ => room
    have firsts : (crumbs.map fun b => (b, limit)).map Prod.fst = crumbs := by
      simp [Function.comp_def]
    have same : ∀ c ∈ crumbs.map fun b => (b, limit), c.2 = limit := by simp
    rw [all, firsts, keptCount_const same, List.length_map]

end Telemetry.Scope
