import Telemetry.Proofs.Url.Percent
import Telemetry.Proofs.Url.Words
import Telemetry.Url.Basic
import Telemetry.Url.Domain

/-! Hosts as the parser leaves them: a name, an address of four numbers or one of eight words. Such a
host is parsed to itself, and none of its characters ends an authority. -/

namespace Telemetry.Host

/-- What the parser relies on in the function that gives domain names their ASCII form. -/
structure LawfulNames (domain? : List Char → Option (List Char)) : Prop where
  /-- An ASCII form is its own ASCII form. -/
  again : ∀ {cs name : List Char}, domain? cs = some name → domain? name = some name
  allowed : ∀ {cs name : List Char}, domain? cs = some name → ∀ c ∈ name, isForbidden c = false
  /-- In digits and full stops there is nothing to fold. -/
  numeric : ∀ {cs : List Char}, (∀ c ∈ cs, c.isDigit = true ∨ c = '.') → domain? cs = some cs

theorem forall_numeric {P : Char → Prop} (dot : P '.') (digits : ∀ k < 10, P (Nat.digitChar k))
    {c : Char} (h : c.isDigit = true ∨ c = '.') : P c := by
  rcases h with digit | rfl
  · have range : 48 ≤ c.toNat ∧ c.toNat ≤ 57 := by simpa [Char.isDigit, UInt32.le_iff_toNat_le] using digit
    have same : ∀ n, 48 ≤ n ∧ n ≤ 57 → Char.ofNat n = Nat.digitChar (n - 48) := by
      intro n hn
      obtain ⟨k, hk, rfl⟩ : ∃ k < 10, n = 48 + k := ⟨n - 48, by omega, by omega⟩
      clear hn
      revert k
      decide
    have := same _ range
    rw [Char.ofNat_toNat] at this
    rw [this]
    exact digits _ (by omega)
  · exact dot

/-- Names of ASCII characters only, with capitals folded. -/
def asciiName? (cs : List Char) : Option (List Char) :=
  let name := cs.map Char.toLower
  if name.any fun c => isForbidden c || 128 ≤ c.toNat then none else some name

@[reducible] def Names.ascii : Names := ⟨asciiName?⟩

theorem toLower_toLower (c : Char) : c.toLower.toLower = c.toLower := by
  unfold Char.toLower
  split
  · next capital =>
    have low : 65 ≤ c.val.toNat := UInt32.le_iff_toNat_le.mp capital.1
    have high : c.val.toNat ≤ 90 := UInt32.le_iff_toNat_le.mp capital.2
    rw [dif_neg]
    rintro ⟨-, again⟩
    have shifted : (c.val + ('a'.val - 'A'.val)).toNat ≤ 90 := UInt32.le_iff_toNat_le.mp again
    rw [UInt32.toNat_add, show ('a'.val - 'A'.val).toNat = 32 from rfl] at shifted
    omega
  · rfl

theorem asciiName?_self {cs : List Char}
    (h : ∀ c ∈ cs, c.toLower = c ∧ isForbidden c = false ∧ c.toNat < 128) :
    asciiName? cs = some cs := by
  have folded : cs.map Char.toLower = cs := by
    calc cs.map Char.toLower = cs.map id := List.map_congr_left fun c hc => (h c hc).1
      _ = cs := List.map_id _
  have plain : (cs.any fun c => isForbidden c || 128 ≤ c.toNat) = false := by
    rw [List.any_eq_false]
    intro c hc
    obtain ⟨-, allowed, ascii⟩ := h c hc
    simp [allowed, ascii]
  simp only [asciiName?, folded, plain, Bool.false_eq_true, if_false]

theorem of_asciiName? {cs name : List Char} (h : asciiName? cs = some name) :
    ∀ c ∈ name, c.toLower = c ∧ isForbidden c = false ∧ c.toNat < 128 := by
  obtain ⟨plain, same⟩ := Option.ite_none_left_eq_some.mp h
  cases same
  intro c hc
  have hplain := List.any_eq_false.mp (by simpa only [Bool.not_eq_true] using plain) c hc
  obtain ⟨d, -, rfl⟩ := List.mem_map.mp hc
  refine ⟨toLower_toLower d, ?_⟩
  simpa using hplain

theorem lawfulNames_asciiName? : LawfulNames asciiName? where
  again h := asciiName?_self (of_asciiName? h)
  allowed h c hc := (of_asciiName? h c hc).2.1
  numeric h := asciiName?_self fun c hc =>
    forall_numeric (P := fun c => c.toLower = c ∧ isForbidden c = false ∧ c.toNat < 128)
      (by decide) (by decide) (h c hc)

theorem mapM_self {f : α → Option α} {xs : List α} (h : ∀ x ∈ xs, f x = some x) :
    xs.mapM f = some xs := by
  induction xs with
  | nil => rfl
  | cons x xs ih =>
    rw [List.mapM_cons, h x (List.mem_cons_self ..), ih fun y hy => h y (List.mem_cons_of_mem _ hy)]
    rfl

theorem labelToAscii?_numeric {label : List Char} (h : ∀ c ∈ label, c.isDigit = true ∨ c = '.') :
    labelToAscii? label = some label := by
  have ascii : (label.all fun c => c.toNat < 128) = true := by
    rw [List.all_eq_true]
    exact fun c hc => by simpa using forall_numeric (P := (·.toNat < 128)) (by decide) (by decide) (h c hc)
  have unmarked : mark.isPrefixOf label = false := by
    cases label with
    | nil => rfl
    | cons c cs =>
      have other : c ≠ 'x' :=
        forall_numeric (P := (· ≠ 'x')) (by decide) (by decide) (h c (List.mem_cons_self ..))
      have : ('x' == c) = false := by simpa using other.symm
      rw [mark, List.isPrefixOf_cons_cons, this, Bool.false_and]
  rw [labelToAscii?, if_pos ascii, unmarked]
  rfl

/-- Of the function that programs run with, only idempotence is left to assume. -/
theorem lawfulNames_domainToAscii? (again : ∀ {cs name : List Char},
    domainToAscii? cs = some name → domainToAscii? name = some name) :
    LawfulNames domainToAscii? where
  again := again
  allowed h := by
    obtain ⟨labels, -, h⟩ := Option.bind_eq_some_iff.mp h
    obtain ⟨plain, same⟩ := Option.ite_none_left_eq_some.mp h
    cases same
    intro c hc
    simpa using List.any_eq_false.mp (by simpa only [Bool.not_eq_true] using plain) c hc
  numeric {cs} h := by
    have folded : cs.flatMap foldChar = cs := by
      have one : ∀ c ∈ cs, foldChar c = [c] := fun c hc =>
        forall_numeric (P := fun c => foldChar c = [c]) (by decide) (by decide) (h c hc)
      calc cs.flatMap foldChar = cs.flatMap List.singleton := List.flatMap_congr one
        _ = cs := List.flatMap_singleton' cs
    have joined : ['.'].intercalate (splitList '.' cs) = cs := by
      rw [splitList_eq_splitOn, List.intercalate_splitOn]
    have pieces : ∀ label ∈ splitList '.' cs, ∀ c ∈ label, c ∈ cs := by
      intro label hl c hc
      rw [← joined]
      exact mem_intercalate_of_mem hl hc
    have labels : (splitList '.' cs).mapM labelToAscii? = some (splitList '.' cs) :=
      mapM_self fun label hl => labelToAscii?_numeric fun c hc => h c (pieces label hl c hc)
    have plain : (cs.any isForbidden) = false := by
      rw [List.any_eq_false]
      intro c hc
      simpa using forall_numeric (P := (isForbidden · = false)) (by decide) (by decide) (h c hc)
    unfold domainToAscii?
    rw [folded, labels]
    simp only [Option.bind_eq_bind, Option.bind_some, joined, plain, Bool.false_eq_true, if_false]

/-- The hosts of URLs with a special scheme. -/
inductive Canonical (domain? : List Char → Option (List Char)) : List Char → Prop where
  | name {cs : List Char} (again : domain? cs = some cs) (allowed : ∀ c ∈ cs, isForbidden c = false)
      (full : cs ≠ []) (notNumber : endsInNumber cs = false) : Canonical domain? cs
  | four (n : Nat) : Canonical domain? (addressText n)
  | six {ws : List Nat} (eight : ws.length = 8) (small : ∀ n ∈ ws, n < 65536) :
      Canonical domain? ('[' :: (sixText ws ++ [']']))

variable {domain? : List Char → Option (List Char)}

theorem canonical_of_special? (lawful : LawfulNames domain?) {cs host : List Char}
    (h : special? domain? cs = some host) : Canonical domain? host := by
  unfold special? at h
  split at h
  · obtain ⟨-, h⟩ := Option.ite_none_right_eq_some.mp h
    obtain ⟨ws, words, rfl⟩ := Option.map_eq_some_iff.mp h
    obtain ⟨eight, small⟩ := sixWords?_spec words
    exact .six eight small
  · obtain ⟨decoded, -, h⟩ := Option.bind_eq_some_iff.mp h
    obtain ⟨name, ascii, h⟩ := Option.bind_eq_some_iff.mp h
    split at h
    · cases h
    · next full =>
      split at h
      · obtain ⟨n, -, rfl⟩ := Option.map_eq_some_iff.mp h
        exact .four n
      · next notNumber =>
        cases h
        exact .name (lawful.again ascii) (lawful.allowed ascii) (by simpa using full)
          (by simpa using notNumber)

/-- The reading of a host that is not in brackets and has no escapes. -/
theorem special?_plain {cs : List Char} (bracket : cs.head? ≠ some '[') (percent : '%' ∉ cs)
    (ascii : domain? cs = some cs) (full : cs ≠ []) :
    special? domain? cs =
      if endsInNumber cs then (address? cs).map addressText else some cs := by
  have nonempty : cs.isEmpty = false := List.isEmpty_eq_false_iff.mpr full
  rw [special?, if_neg bracket, Percent.decode?_eq_self percent]
  simp only [Option.bind_eq_bind, Option.bind_some, ascii, nonempty, Bool.false_eq_true, if_false]

theorem head?_ne_of_not_mem {c : Char} {cs : List Char} (h : c ∉ cs) : cs.head? ≠ some c :=
  fun head => h (List.mem_of_mem_head? head)

/-- A host is parsed to itself. -/
theorem Canonical.special?_self (lawful : LawfulNames domain?) {host : List Char}
    (h : Canonical domain? host) : special? domain? host = some host := by
  cases h with
  | name again allowed full notNumber =>
    have absent : ∀ c, isForbidden c = true → c ∉ host := by
      intro c forbidden hm
      rw [allowed c hm] at forbidden
      cases forbidden
    rw [special?_plain (head?_ne_of_not_mem (absent '[' (by decide))) (absent '%' (by decide)) again
      full, notNumber]
    rfl
  | four n =>
    have ascii : domain? (addressText n) = some (addressText n) :=
      lawful.numeric (forall_addressText (.inr rfl) (fun k hk => .inl (by revert k; decide)) n)
    have other : ∀ c ∈ addressText n, c ≠ '[' ∧ c ≠ '%' :=
      forall_addressText (by decide) (by decide) n
    rw [special?_plain (head?_ne_of_not_mem fun h => (other _ h).1 rfl) (fun h => (other _ h).2 rfl)
      ascii (addressText_ne_nil n), endsInNumber_addressText, if_pos rfl, address?_addressText,
      Option.map_some, addressText_mod]
  | six eight small =>
    rw [special?, List.head?_cons, if_pos rfl]
    exact bracketed?_sixText eight small

theorem Canonical.ne_nil {host : List Char} (h : Canonical domain? host) : host ≠ [] := by
  cases h with
  | name again allowed full notNumber => exact full
  | four n => exact addressText_ne_nil n
  | six eight small => exact List.cons_ne_nil _ _

/-! ### The characters of hosts -/

/-- Whether a character is neither white space nor the end of a host or of an authority. -/
def isInside (c : Char) : Bool := !(c.toNat ≤ 0x20 || ['#', '/', '?', '@', '\\'].contains c)

theorem isInside_of_not_forbidden {c : Char} (h : isForbidden c = false) : isInside c = true := by
  simp only [isForbidden, Bool.or_eq_false_iff, decide_eq_false_iff_not] at h
  obtain ⟨⟨blank, -⟩, listed⟩ := h
  rw [isInside, Bool.not_eq_true', Bool.or_eq_false_iff, decide_eq_false_iff_not]
  refine ⟨blank, ?_⟩
  simp at listed ⊢
  simp [listed]

theorem Canonical.isInside {host : List Char} (h : Canonical domain? host) :
    ∀ c ∈ host, isInside c = true := by
  cases h with
  | name again allowed full notNumber => exact fun c hc => isInside_of_not_forbidden (allowed c hc)
  | four n => exact forall_addressText (by decide) (by decide) n
  | @six ws eight small =>
    have inner := forall_sixText (P := (Host.isInside · = true)) (by decide) (by decide) ws
    intro c hc
    simp only [List.mem_cons, List.mem_append, List.not_mem_nil, or_false] at hc
    rcases hc with rfl | hc | rfl
    · decide
    · exact inner c hc
    · decide

/-! ### Where a host ends -/

theorem hostText_cons {inside after : Bool} {c : Char} {cs host rest : List Char}
    (plain : c ≠ ':' ∨ inside = true)
    (bracket : (if c = '[' then true else if c = ']' then false else inside) = after)
    (h : Url.hostText after cs = (host, rest)) :
    Url.hostText inside (c :: cs) = (c :: host, rest) := by
  have stays : ¬ (c = ':' ∧ inside = false) := by
    rintro ⟨colon, outside⟩
    rcases plain with other | within
    · exact other colon
    · rw [outside] at within
      cases within
  rw [Url.hostText, if_neg stays]
  simp only [bracket, h]

/-- The host in front of a port, or of nothing. -/
theorem hostText_end {rest : List Char} (h : rest.head? = none ∨ rest.head? = some ':') :
    Url.hostText false rest = ([], rest) := by
  cases rest with
  | nil => rfl
  | cons c cs =>
    have colon : c = ':' := by simpa using h
    rw [Url.hostText, if_pos ⟨colon, rfl⟩]

theorem hostText_append {cs rest : List Char}
    (plain : ∀ c ∈ cs, c ≠ ':' ∧ c ≠ '[' ∧ c ≠ ']')
    (h : rest.head? = none ∨ rest.head? = some ':') :
    Url.hostText false (cs ++ rest) = (cs, rest) := by
  induction cs with
  | nil => exact hostText_end h
  | cons c cs ih =>
    obtain ⟨colon, opening, closing⟩ := plain c (List.mem_cons_self ..)
    apply hostText_cons (.inl colon) _ (ih fun d hd => plain d (List.mem_cons_of_mem _ hd))
    rw [if_neg opening, if_neg closing]

theorem hostText_bracketed {cs rest : List Char} (plain : ∀ c ∈ cs, c ≠ '[' ∧ c ≠ ']')
    (h : rest.head? = none ∨ rest.head? = some ':') :
    Url.hostText false ('[' :: (cs ++ [']']) ++ rest) = ('[' :: (cs ++ [']']), rest) := by
  have inside : Url.hostText true (cs ++ [']'] ++ rest) = (cs ++ [']'], rest) := by
    induction cs with
    | nil => exact hostText_cons (.inr rfl) rfl (hostText_end h)
    | cons c cs ih =>
      obtain ⟨opening, closing⟩ := plain c (List.mem_cons_self ..)
      apply hostText_cons (.inr rfl) _ (ih fun d hd => plain d (List.mem_cons_of_mem _ hd))
      rw [if_neg opening, if_neg closing]
  exact hostText_cons (.inl (by decide)) rfl inside

/-- A host ends where the parser says it does. -/
theorem Canonical.hostText {host : List Char} (h : Canonical domain? host) {rest : List Char}
    (next : rest.head? = none ∨ rest.head? = some ':') :
    Url.hostText false (host ++ rest) = (host, rest) := by
  cases h with
  | name again allowed full notNumber =>
    apply hostText_append _ next
    intro c hc
    have := allowed c hc
    refine ⟨?_, ?_, ?_⟩ <;> rintro rfl <;> exact absurd this (by decide)
  | four n => exact hostText_append (forall_addressText (by decide) (by decide) n) next
  | six eight small => exact hostText_bracketed (forall_sixText (by decide) (by decide) _) next

end Telemetry.Host
