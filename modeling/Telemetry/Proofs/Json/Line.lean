import Telemetry.Json.Printer
import Telemetry.Proofs.Text.Digits

/-! JSON text stands on one line, whatever the strings in it hold: the printer has no blanks, and
escapes what would end a line. -/

namespace Telemetry

/-- A text without a line break. -/
def OneLine (s : String) : Prop := '\n' ∉ s.toList

namespace OneLine

theorem append {s t : String} (hs : OneLine s) (ht : OneLine t) : OneLine (s ++ t) := by
  unfold OneLine at *
  rw [String.toList_append, List.mem_append]
  exact fun h => h.elim hs ht

theorem join {ts : List String} (h : ∀ t ∈ ts, OneLine t) : OneLine (String.join ts) := by
  induction ts with
  | nil => simp [OneLine]
  | cons t ts ih =>
    rw [String.join_cons]
    exact (h t (List.mem_cons_self ..)).append (ih fun u hu => h u (List.mem_cons_of_mem _ hu))

theorem ofList {cs : List Char} (h : '\n' ∉ cs) : OneLine (String.ofList cs) := by
  rw [OneLine, String.toList_ofList]
  exact h

theorem zeros (n : Nat) : OneLine (String.ofList (List.replicate n '0')) := by
  apply ofList
  intro hm
  have := List.eq_of_mem_replicate hm
  simp at this

theorem nat (n : Nat) : OneLine (toString n) := by
  intro hm
  have := isDigit_of_mem_toString hm
  simp at this

theorem int (n : Int) : OneLine (toString n) := by
  cases n with
  | ofNat n => exact nat n
  | negSucc n => exact append (s := "-") (by simp [OneLine]) (nat (n + 1))

end OneLine

/-! ### Numbers -/

namespace FloatLayout

theorem oneLine_positionalText (l : FloatLayout) {digits : String} (h : OneLine digits)
    (point : Int) : OneLine (l.positionalText digits point) := by
  unfold positionalText
  dsimp only
  split
  · exact (OneLine.append (by simp [OneLine]) (.zeros _)).append h
  · split
    · refine (h.append (.zeros _)).append ?_
      split <;> simp [OneLine]
    · refine (OneLine.append (.ofList fun hm => h ?_) (by simp [OneLine])).append
        (.ofList fun hm => h ?_)
      · exact List.mem_of_mem_take hm
      · exact List.mem_of_mem_drop hm

theorem oneLine_scientificText (l : FloatLayout) {digits : String} (h : OneLine digits)
    (exponent : Int) : OneLine (l.scientificText digits exponent) := by
  unfold scientificText
  unfold OneLine at h
  refine (OneLine.append (OneLine.append ?_ (by simp [OneLine])) ?_).append (.int _)
  · split
    · simp [OneLine]
    · next hd =>
      rw [hd] at h
      simpa [OneLine] using h
    · next hd =>
      rw [hd] at h
      simpa [OneLine] using h
  · split <;> simp [OneLine]

theorem oneLine_decimalText (l : FloatLayout) (d : Decimal) : OneLine (l.decimalText d) := by
  unfold decimalText
  dsimp only
  split
  · exact l.oneLine_positionalText (.nat _) _
  · split
    · exact l.oneLine_positionalText (.nat _) _
    · exact l.oneLine_scientificText (.nat _) _

theorem oneLine_text (l : FloatLayout) (f : FloatFormat) (b : Binary) : OneLine (l.text f b) := by
  cases b with
  | nan => simp [text, OneLine]
  | infinite negative => cases negative <;> simp [text, OneLine]
  | finite negative m q =>
    refine OneLine.append (by cases negative <;> simp [OneLine]) ?_
    split
    · split <;> simp [OneLine]
    · exact l.oneLine_decimalText _

end FloatLayout

namespace Json

theorem oneLine_floatText (x : Float) : OneLine (floatText x) := by
  unfold floatText
  split
  · exact FloatLayout.payload.oneLine_text .double _
  · simp [OneLine]

/-! ### Strings -/

theorem escapeDigit_ne {n : Nat} (h : n < 16) : escapeDigit n ≠ '\n' := by
  revert n
  decide

theorem oneLine_escape (c : Char) : OneLine (escape c) := by
  by_cases hc : c = '\n'
  · subst hc
    simp [escape, OneLine]
  unfold escape
  -- every branch but the last two writes a fixed text
  repeat' split
  all_goals try simp [OneLine]
  · exact ⟨(escapeDigit_ne (by omega)).symm, (escapeDigit_ne (by omega)).symm⟩
  · exact fun h => hc h.symm

theorem oneLine_quote (s : String) : OneLine (quote s) := by
  have body : OneLine (String.join (s.toList.map escape)) := by
    apply OneLine.join
    intro t ht
    obtain ⟨c, -, rfl⟩ := List.mem_map.mp ht
    exact oneLine_escape c
  exact (OneLine.append (by simp [OneLine]) body).append (by simp [OneLine])

/-! ### Values -/

theorem renderItems_cons (j k : Json) (js : List Json) :
    renderItems (j :: k :: js) = render j ++ "," ++ renderItems (k :: js) := by
  rw [renderItems]
  simp

theorem renderEntries_cons (k : String) (j : Json) (e : String × Json)
    (es : List (String × Json)) :
    renderEntries ((k, j) :: e :: es) =
      quote k ++ ":" ++ render j ++ "," ++ renderEntries (e :: es) := by
  rw [renderEntries]
  simp

mutual

/-- The text of a value stands on one line. -/
theorem oneLine_render : ∀ j : Json, OneLine j.render
  | .null => by simp [render, OneLine]
  | .bool b => by cases b <;> simp [render, OneLine]
  | .int n => by rw [render]; exact .int n
  | .float x => by rw [render]; exact oneLine_floatText x
  | .str s => by rw [render]; exact oneLine_quote s
  | .arr items => by
    rw [render]
    exact (OneLine.append (by simp [OneLine]) (oneLine_renderItems items)).append
      (by simp [OneLine])
  | .obj entries => by
    rw [render]
    exact (OneLine.append (by simp [OneLine]) (oneLine_renderEntries entries)).append
      (by simp [OneLine])

theorem oneLine_renderItems : ∀ js : List Json, OneLine (renderItems js)
  | [] => by simp [renderItems, OneLine]
  | [j] => by rw [renderItems]; exact oneLine_render j
  | j :: k :: js => by
    rw [renderItems_cons]
    exact ((oneLine_render j).append (by simp [OneLine])).append (oneLine_renderItems (k :: js))

theorem oneLine_renderEntries : ∀ es : List (String × Json), OneLine (renderEntries es)
  | [] => by simp [renderEntries, OneLine]
  | [(k, j)] => by
    rw [renderEntries]
    exact ((oneLine_quote k).append (by simp [OneLine])).append (oneLine_render j)
  | (k, j) :: e :: es => by
    rw [renderEntries_cons]
    have entry : OneLine (quote k ++ ":" ++ render j) :=
      ((oneLine_quote k).append (by simp [OneLine])).append (oneLine_render j)
    exact (entry.append (by simp [OneLine])).append (oneLine_renderEntries (e :: es))

end

end Json

end Telemetry
