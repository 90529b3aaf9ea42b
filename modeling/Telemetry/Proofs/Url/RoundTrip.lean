import Telemetry.Proofs.Url.Host
import Telemetry.Proofs.Url.Path

/-! URLs of the web as the parser leaves them, and their text parsed again: each part of the text ends
where it did, and none of them changes. -/

namespace Telemetry.Url

/-- The parts of a URL of the web, but for its query and fragment. -/
structure Canonical (domain? : List Char → Option (List Char)) (u : Url) : Prop where
  scheme : u.scheme = "http".toList ∨ u.scheme = "https".toList
  username : ∀ c ∈ u.username, Percent.inUserinfo c = false
  password : ∀ p, u.password = some p → p ≠ [] ∧ ∀ c ∈ p, Percent.inUserinfo c = false
  host : ∃ h, u.host = some h ∧ Host.Canonical domain? h
  port : ∀ p, u.port = some p → p < 65536 ∧ (schemeKind u.scheme).defaultPort? ≠ some p
  path : SettledPath u.path

variable {domain? : List Char → Option (List Char)}

/-- User name and password of an authority, which may have neither. -/
def names (user : Option (List Char)) : List Char × Option (List Char) :=
  match user with
  | some u => credentials u
  | none => ([], none)

/-- A URL with a special scheme from the parts of its text. -/
theorem parseAuthority?_special {p : Nat} {cs authority rest path server hostPart portPart : List Char}
    {query fragment user : Option (List Char)}
    (front : (cs.takeWhile fun c => !endsAuthority true c) = authority)
    (back : (cs.dropWhile fun c => !endsAuthority true c) = rest)
    (tail : splitTail rest = (path, query, fragment))
    (split : splitAtSign authority = (user, server))
    (ends : hostText false server = (hostPart, portPart)) (scheme : List Char) :
    parseAuthority? domain? scheme (.special p) cs =
      if hostPart.isEmpty then none
      else (Host.special? domain? hostPart).bind fun host =>
        (port? (portPart.drop 1)).bind fun port =>
          some (withTail true
            { scheme, username := (names user).1, password := (names user).2,
              host := if host.isEmpty then none else some host,
              port := if port == some p then none else port,
              path := absolutePath (.special p) path, query := none, fragment := none }
            query fragment) := by
  unfold parseAuthority?
  simp only [show (SchemeKind.special p).isSpecial = true from rfl, front, back, tail, split, ends,
    Bool.or_true, Bool.true_or, Bool.and_true]
  split
  · rfl
  · rfl

/-! ### What a parse gives -/

theorem names_plain (user : Option (List Char)) :
    (∀ c ∈ (names user).1, Percent.inUserinfo c = false) ∧
      ∀ p, (names user).2 = some p → p ≠ [] ∧ ∀ c ∈ p, Percent.inUserinfo c = false := by
  cases user with
  | none => exact ⟨by simp [names], by simp [names]⟩
  | some u =>
    refine ⟨fun c hc => Percent.inUserinfo_encode hc, ?_⟩
    intro p hp
    obtain ⟨full, same⟩ := Option.ite_none_left_eq_some.mp hp
    cases same
    refine ⟨fun empty => ?_, fun c hc => Percent.inUserinfo_encode hc⟩
    rw [Percent.encode_eq_nil empty] at full
    exact full rfl

theorem port?_lt {cs : List Char} {n : Nat} (h : port? cs = some (some n)) : n < 65536 := by
  obtain ⟨-, h⟩ := Option.ite_none_right_eq_some.mp h
  split at h
  · cases h
  · obtain ⟨m, -, h⟩ := Option.bind_eq_some_iff.mp h
    obtain ⟨small, same⟩ := Option.ite_none_right_eq_some.mp h
    cases same
    exact small

theorem canonical_of_parseAuthority? (lawful : Host.LawfulNames domain?) {scheme cs : List Char}
    {p : Nat} {u : Url} (web : scheme = "http".toList ∨ scheme = "https".toList)
    (kind : schemeKind scheme = .special p)
    (h : parseAuthority? domain? scheme (.special p) cs = some u) : Canonical domain? u := by
  rcases tail : splitTail (cs.dropWhile fun c => !endsAuthority true c) with ⟨path, query, fragment⟩
  rcases split : splitAtSign (cs.takeWhile fun c => !endsAuthority true c) with ⟨user, server⟩
  rcases ends : hostText false server with ⟨hostPart, portPart⟩
  rw [parseAuthority?_special rfl rfl tail split ends] at h
  obtain ⟨-, h⟩ := Option.ite_none_left_eq_some.mp h
  obtain ⟨host, hhost, h⟩ := Option.bind_eq_some_iff.mp h
  obtain ⟨port, hport, h⟩ := Option.bind_eq_some_iff.mp h
  cases h
  have canonical := Host.canonical_of_special? lawful hhost
  have full : host.isEmpty = false := List.isEmpty_eq_false_iff.mpr canonical.ne_nil
  exact
    { scheme := web
      username := (names_plain user).1
      password := (names_plain user).2
      host := ⟨host, by simp [withTail, full], canonical⟩
      port := by
        intro n hn
        obtain ⟨other, hn⟩ := Option.ite_none_left_eq_some.mp hn
        rw [hn] at hport other
        refine ⟨port?_lt hport, ?_⟩
        show (schemeKind scheme).defaultPort? ≠ some n
        rw [kind]
        intro same
        exact other (by simpa [SchemeKind.defaultPort?] using same.symm)
      path := settledPath_absolutePath p path }

theorem schemeKind_web {scheme : List Char}
    (web : scheme = "http".toList ∨ scheme = "https".toList) :
    ∃ p, schemeKind scheme = .special p := by
  rcases web with rfl | rfl
  · exact ⟨80, by decide⟩
  · exact ⟨443, by decide⟩

theorem scheme_parseAuthority? {scheme cs : List Char} {kind : SchemeKind} {u : Url}
    (h : parseAuthority? domain? scheme kind cs = some u) : u.scheme = scheme := by
  unfold parseAuthority? at h
  simp only at h
  split at h
  · cases h
  · split at h <;>
    · obtain ⟨host, -, h⟩ := Option.bind_eq_some_iff.mp h
      obtain ⟨port, -, h⟩ := Option.bind_eq_some_iff.mp h
      cases h
      rfl

theorem scheme_parseFile? {scheme cs : List Char} {u : Url}
    (h : parseFile? domain? scheme cs = some u) : u.scheme = scheme := by
  have plain : ∀ cs, parseFile?.plain scheme cs = some u → u.scheme = scheme := by
    intro cs h
    cases h
    rfl
  unfold parseFile? at h
  simp only at h
  split at h
  · split at h
    · split at h
      · cases h
        rfl
      · split at h
        · cases h
          rfl
        · obtain ⟨host, -, h⟩ := Option.bind_eq_some_iff.mp h
          cases h
          rfl
    · exact plain _ h
  · exact plain _ h

theorem scheme_parseOther? {scheme cs : List Char} {u : Url}
    (h : parseOther? scheme cs = some u) : u.scheme = scheme := by
  cases h
  rfl

theorem canonical_of_parseWith? (lawful : Host.LawfulNames domain?) {cs : List Char} {u : Url}
    (h : parseWith? domain? cs = some u)
    (web : u.scheme = "http".toList ∨ u.scheme = "https".toList) : Canonical domain? u := by
  obtain ⟨p, kind⟩ := schemeKind_web web
  unfold parseWith? at h
  simp only at h
  split at h
  · split at h
    · split at h
      · next file =>
        rw [scheme_parseFile? h, file] at kind
        cases kind
      · next q special =>
        have same := scheme_parseAuthority? h
        rw [same] at web
        exact canonical_of_parseAuthority? lawful web special h
      · next other =>
        split at h
        · rw [scheme_parseAuthority? h, other] at kind
          cases kind
        · rw [scheme_parseOther? h, other] at kind
          cases kind
    · cases h
  · cases h

/-! ### The text of a URL -/

/-- User name and password as an authority has them. -/
def userText (u : Url) : Option (List Char) :=
  if u.username.isEmpty && u.password.isNone then none
  else some (u.username ++ (match u.password with | some p => ':' :: p | none => []))

/-- A port with its colon. -/
def portText (port : Option Nat) : List Char :=
  match port with
  | some p => ':' :: (toString p).toList
  | none => []

/-- The authority of a URL with the host `h`. -/
def authorityText (u : Url) (h : List Char) : List Char :=
  (match u.userText with | some t => t ++ ['@'] | none => []) ++ (h ++ portText u.port)

theorem chars_eq {u : Url} {h : List Char} (host : u.host = some h) (query : u.query = none)
    (fragment : u.fragment = none) :
    u.chars = u.scheme ++ ':' :: '/' :: '/' :: (u.authorityText h ++ u.path) := by
  unfold chars authorityText userText
  simp only [host, query, fragment]
  split
  · simp only [List.append_assoc, List.nil_append, List.append_nil, List.cons_append]
    rfl
  · simp only [List.append_assoc, List.nil_append, List.append_nil, List.cons_append]
    rfl

/-! ### Its authority -/

theorem splitAtSign_none {cs : List Char} (h : '@' ∉ cs) : splitAtSign cs = (none, cs) := by
  have all : (cs.reverse.takeWhile (· ≠ '@')) = cs.reverse := by
    rw [List.takeWhile_eq_self_iff]
    intro c hc
    simpa using fun same : c = '@' => h (same ▸ List.mem_reverse.mp hc)
  simp only [splitAtSign, all, List.reverse_reverse, if_true]

theorem splitAtSign_some (t : List Char) {cs : List Char} (h : '@' ∉ cs) :
    splitAtSign (t ++ '@' :: cs) = (some t, cs) := by
  have after : ((t ++ '@' :: cs).reverse.takeWhile (· ≠ '@')) = cs.reverse := by
    rw [List.reverse_append, List.reverse_cons, List.append_assoc,
      List.takeWhile_append_of_pos]
    · simp
    · intro c hc
      simpa using fun same : c = '@' => h (same ▸ List.mem_reverse.mp hc)
  have longer : ¬ cs.length = (t ++ '@' :: cs).length := by
    rw [List.length_append, List.length_cons]
    omega
  have before : (t ++ '@' :: cs).length - cs.length - 1 = t.length := by
    rw [List.length_append, List.length_cons]
    omega
  simp only [splitAtSign, after, List.reverse_reverse, if_neg longer, before, List.take_left']

theorem port?_portText {port : Option Nat} (h : ∀ p, port = some p → p < 65536) :
    port? ((portText port).drop 1) = some port := by
  cases port with
  | none => rfl
  | some p =>
    have digits : ((toString p).toList).all Char.isDigit = true :=
      List.all_eq_true.mpr fun _ => isDigit_of_mem_toString
    have full : (toString p).toList.isEmpty = false :=
      List.isEmpty_eq_false_iff.mpr (toString_ne_nil p)
    show port? (toString p).toList = _
    rw [port?, if_pos digits, full, Host.digits?_toString]
    simp [h p rfl]

theorem splitTail_plain {cs : List Char} (h : ∀ c ∈ cs, c ≠ '#' ∧ c ≠ '?') :
    splitTail cs = (cs, none, none) := by
  have hash : cs.takeWhile (· ≠ '#') = cs ∧ cs.dropWhile (· ≠ '#') = [] :=
    ⟨List.takeWhile_eq_self_iff.mpr (by simpa using fun c hc => (h c hc).1),
      List.dropWhile_eq_nil_iff.mpr (by simpa using fun c hc => (h c hc).1)⟩
  have mark : cs.takeWhile (· ≠ '?') = cs ∧ cs.dropWhile (· ≠ '?') = [] :=
    ⟨List.takeWhile_eq_self_iff.mpr (by simpa using fun c hc => (h c hc).2),
      List.dropWhile_eq_nil_iff.mpr (by simpa using fun c hc => (h c hc).2)⟩
  simp only [splitTail, hash, mark]

theorem credentials_name {name : List Char} (h : ∀ c ∈ name, Percent.inUserinfo c = false) :
    credentials name = (name, none) := by
  have other : ∀ c ∈ name, decide (c ≠ ':') = true := by
    intro c hc
    simpa using fun same : c = ':' => absurd (same ▸ h c hc) (by decide)
  have front : name.takeWhile (· ≠ ':') = name := List.takeWhile_eq_self_iff.mpr other
  have back : name.dropWhile (· ≠ ':') = [] := List.dropWhile_eq_nil_iff.mpr other
  simp only [credentials, front, back, List.drop_nil, List.isEmpty_nil, if_true,
    Percent.encode_eq_self h]

theorem credentials_secret {name secret : List Char}
    (h : ∀ c ∈ name, Percent.inUserinfo c = false) (full : secret ≠ [])
    (hs : ∀ c ∈ secret, Percent.inUserinfo c = false) :
    credentials (name ++ ':' :: secret) = (name, some secret) := by
  have other : ∀ c ∈ name, decide (c ≠ ':') = true := by
    intro c hc
    simpa using fun same : c = ':' => absurd (same ▸ h c hc) (by decide)
  have front : (name ++ ':' :: secret).takeWhile (· ≠ ':') = name := by
    rw [List.takeWhile_append_of_pos other, List.takeWhile_cons_of_neg (by simp), List.append_nil]
  have back : (name ++ ':' :: secret).dropWhile (· ≠ ':') = ':' :: secret := by
    rw [List.dropWhile_append_of_pos other, List.dropWhile_cons_of_neg (by simp)]
  have nonempty : secret.isEmpty = false := List.isEmpty_eq_false_iff.mpr full
  simp only [credentials, front, back, List.drop_succ_cons, List.drop_zero, nonempty,
    Bool.false_eq_true, if_false, Percent.encode_eq_self h, Percent.encode_eq_self hs]

theorem Canonical.names_userText {u : Url} (h : Canonical domain? u) :
    names u.userText = (u.username, u.password) := by
  unfold userText
  split
  · next bare =>
    obtain ⟨name, secret⟩ := Bool.and_eq_true_iff.mp bare
    rw [List.isEmpty_iff.mp name, Option.isNone_iff_eq_none.mp secret]
    rfl
  · cases secret : u.password with
    | none =>
      show credentials (u.username ++ []) = _
      rw [List.append_nil]
      exact credentials_name h.username
    | some p =>
      obtain ⟨full, plain⟩ := h.password p secret
      exact credentials_secret h.username full plain

/-! ### The characters of its text -/

theorem isInside_of_userinfo {c : Char} (h : Percent.inUserinfo c = false) :
    Host.isInside c = true := by
  have blank : ¬ c.toNat ≤ 0x20 := by
    intro low
    rw [Percent.inUserinfo, Percent.inPath_of_le_blank low] at h
    cases h
  have other : ∀ d, Percent.inUserinfo d = true → c ≠ d := by
    rintro d hd rfl
    rw [h] at hd
    cases hd
  rw [Host.isInside, Bool.not_eq_true', Bool.or_eq_false_iff, decide_eq_false_iff_not]
  refine ⟨blank, ?_⟩
  rw [List.contains_eq_mem, decide_eq_false_iff_not]
  simp only [List.mem_cons, List.not_mem_nil, or_false, not_or]
  exact ⟨other _ (by decide), other _ (by decide), other _ (by decide), other _ (by decide),
    other _ (by decide)⟩

theorem isInside_portText {port : Option Nat} : ∀ c ∈ portText port, Host.isInside c = true := by
  intro c hc
  cases port with
  | none => cases hc
  | some p =>
    rcases List.mem_cons.mp hc with rfl | hc
    · decide
    · exact Host.forall_toString (P := (Host.isInside · = true)) (by decide) p c hc

theorem Canonical.isInside_userText {u : Url} (h : Canonical domain? u) {t : List Char}
    (text : u.userText = some t) : ∀ c ∈ t, Host.isInside c = true := by
  obtain ⟨-, same⟩ := Option.ite_none_left_eq_some.mp text
  cases same
  intro c hc
  rcases List.mem_append.mp hc with hc | hc
  · exact isInside_of_userinfo (h.username c hc)
  · cases secret : u.password with
    | none =>
      rw [secret] at hc
      cases hc
    | some p =>
      rw [secret] at hc
      rcases List.mem_cons.mp hc with rfl | hc
      · decide
      · exact isInside_of_userinfo ((h.password p secret).2 c hc)

theorem Canonical.isInside_server {u : Url} {h : List Char} (hh : Host.Canonical domain? h) :
    ∀ c ∈ h ++ portText u.port, Host.isInside c = true := by
  intro c hc
  rcases List.mem_append.mp hc with hc | hc
  · exact hh.isInside c hc
  · exact isInside_portText c hc

/-- What stands in an authority neither ends it nor is white space. -/
theorem Canonical.mem_authorityText {u : Url} (canonical : Canonical domain? u) {h : List Char}
    (hh : Host.Canonical domain? h) {c : Char} (hc : c ∈ u.authorityText h) :
    endsAuthority true c = false ∧ 0x20 < c.toNat := by
  have inside : Host.isInside c = true ∨ c = '@' := by
    rcases List.mem_append.mp hc with hc | hc
    · cases text : u.userText with
      | none =>
        rw [text] at hc
        cases hc
      | some t =>
        rw [text] at hc
        rcases List.mem_append.mp hc with hc | hc
        · exact .inl (canonical.isInside_userText text c hc)
        · exact .inr (List.mem_singleton.mp hc)
    · exact .inl (isInside_server hh c hc)
  rcases inside with inside | rfl
  · rw [Host.isInside, Bool.not_eq_true', Bool.or_eq_false_iff, decide_eq_false_iff_not] at inside
    obtain ⟨blank, listed⟩ := inside
    simp only [List.contains_eq_mem, decide_eq_false_iff_not, List.mem_cons, List.not_mem_nil,
      or_false, not_or] at listed
    refine ⟨?_, by omega⟩
    simp [endsAuthority, isSlash, listed]
  · decide

theorem SettledPath.mem {path : List Char} (h : SettledPath path) {c : Char} (hc : c ∈ path) :
    c ≠ '#' ∧ c ≠ '?' ∧ 0x20 < c.toNat := by
  have plain := h.plain c hc
  refine ⟨?_, ?_, ?_⟩
  · rintro rfl
    cases plain
  · rintro rfl
    cases plain
  · rw [← Nat.not_le]
    intro low
    rw [Percent.inPath_of_le_blank low] at plain
    cases plain

/-! ### A second parse -/

theorem cleaned_eq_self {cs : List Char} (h : ∀ c ∈ cs, 0x20 < c.toNat) : cleaned cs = cs := by
  have trimmed : trimList (fun c => c.toNat ≤ 0x20) cs = cs := by
    apply trimList_eq_self
    intro c hc
    simpa using h c hc
  rw [cleaned, trimmed, List.filter_eq_self]
  intro c hc
  have := h c hc
  rw [Bool.not_eq_true', Bool.or_eq_false_iff, Bool.or_eq_false_iff]
  refine ⟨⟨?_, ?_⟩, ?_⟩ <;> rw [beq_eq_false_iff_ne] <;> rintro rfl <;> exact absurd this (by decide)

theorem scheme_chars {scheme : List Char} (web : scheme = "http".toList ∨ scheme = "https".toList) :
    (∀ c ∈ scheme, isSchemeChar c = true ∧ 0x20 < c.toNat) ∧ scheme.map Char.toLower = scheme ∧
      ∃ c cs, scheme = c :: cs ∧ c.isAlpha = true := by
  have chars : ∀ cs : List Char, (cs.all fun c => isSchemeChar c && 0x20 < c.toNat) = true →
      ∀ c ∈ cs, isSchemeChar c = true ∧ 0x20 < c.toNat := by
    intro cs all c hc
    simpa using List.all_eq_true.mp all c hc
  rcases web with rfl | rfl
  · exact ⟨chars _ (by decide), by decide, 'h', "ttp".toList, by decide⟩
  · exact ⟨chars _ (by decide), by decide, 'h', "ttps".toList, by decide⟩

/-- What comes after the two slashes of a URL of the web is its authority. -/
theorem parseWith?_web {scheme rest : List Char} {p : Nat}
    (web : scheme = "http".toList ∨ scheme = "https".toList)
    (kind : schemeKind scheme = .special p) (visible : ∀ c ∈ rest, 0x20 < c.toNat)
    (noSlash : rest.dropWhile (isSlash true) = rest) :
    parseWith? domain? (scheme ++ ':' :: '/' :: '/' :: rest) =
      parseAuthority? domain? scheme (.special p) rest := by
  obtain ⟨chars, lower, first, more, form, letter⟩ := scheme_chars web
  have clean : cleaned (scheme ++ ':' :: '/' :: '/' :: rest) = scheme ++ ':' :: '/' :: '/' :: rest := by
    apply cleaned_eq_self
    intro c hc
    simp only [List.mem_append, List.mem_cons] at hc
    rcases hc with hc | rfl | rfl | rfl | hc
    · exact (chars c hc).2
    · decide
    · decide
    · decide
    · exact visible c hc
  have name : (scheme ++ ':' :: '/' :: '/' :: rest).takeWhile isSchemeChar = scheme := by
    rw [List.takeWhile_append_of_pos fun c hc => (chars c hc).1,
      List.takeWhile_cons_of_neg (by decide), List.append_nil]
  have after : (scheme ++ ':' :: '/' :: '/' :: rest).dropWhile isSchemeChar =
      ':' :: '/' :: '/' :: rest := by
    rw [List.dropWhile_append_of_pos fun c hc => (chars c hc).1,
      List.dropWhile_cons_of_neg (by decide)]
  have slashes : ('/' :: '/' :: rest).dropWhile (isSlash true) = rest := by
    rw [List.dropWhile_cons_of_pos (by decide), List.dropWhile_cons_of_pos (by decide), noSlash]
  unfold parseWith?
  simp only [clean, name, after, lower]
  rw [form] at kind ⊢
  simp only [letter, if_true, kind, slashes]

/-- A URL of the web without query and fragment is read back from its text. -/
theorem Canonical.parseWith?_chars (lawful : Host.LawfulNames domain?) {u : Url}
    (canonical : Canonical domain? u) (query : u.query = none) (fragment : u.fragment = none) :
    parseWith? domain? u.chars = some u := by
  obtain ⟨h, host, hh⟩ := canonical.host
  obtain ⟨p, kind⟩ := schemeKind_web canonical.scheme
  have inside := fun c => canonical.mem_authorityText hh (c := c)
  obtain ⟨path, pathEq⟩ : ∃ path, u.path = '/' :: path := by
    obtain ⟨s, ss, text, -⟩ := canonical.path
    exact ⟨_, text⟩
  have front : ((u.authorityText h ++ u.path).takeWhile fun c => !endsAuthority true c) =
      u.authorityText h := by
    rw [List.takeWhile_append_of_pos (by simpa using fun c hc => (inside c hc).1), pathEq,
      List.takeWhile_cons_of_neg (by decide), List.append_nil]
  have back : ((u.authorityText h ++ u.path).dropWhile fun c => !endsAuthority true c) = u.path := by
    rw [List.dropWhile_append_of_pos (by simpa using fun c hc => (inside c hc).1), pathEq,
      List.dropWhile_cons_of_neg (by decide)]
  have tail : splitTail u.path = (u.path, none, none) :=
    splitTail_plain fun c hc => ⟨(canonical.path.mem hc).1, (canonical.path.mem hc).2.1⟩
  have noSlash : (u.authorityText h ++ u.path).dropWhile (isSlash true) =
      u.authorityText h ++ u.path := by
    cases text : u.authorityText h with
    | nil =>
      have : h = [] := (List.append_eq_nil_iff.mp (List.append_eq_nil_iff.mp text).2).1
      exact absurd this hh.ne_nil
    | cons c cs =>
      have ends := (inside c (text ▸ List.mem_cons_self ..)).1
      rw [endsAuthority, Bool.or_eq_false_iff, Bool.or_eq_false_iff] at ends
      exact List.dropWhile_cons_of_neg (by simp [ends.1.1])
  have split : splitAtSign (u.authorityText h) = (u.userText, h ++ portText u.port) := by
    have noAt : '@' ∉ h ++ portText u.port := fun hm =>
      absurd (isInside_server hh '@' hm) (by decide)
    unfold authorityText
    cases u.userText with
    | some t =>
      rw [List.append_assoc]
      exact splitAtSign_some t noAt
    | none => exact splitAtSign_none noAt
  have ends : hostText false (h ++ portText u.port) = (h, portText u.port) := by
    apply hh.hostText
    cases u.port with
    | none => exact .inl rfl
    | some p => exact .inr rfl
  have port := port?_portText fun n hn => (canonical.port n hn).1
  have full : h.isEmpty = false := List.isEmpty_eq_false_iff.mpr hh.ne_nil
  have other : (u.port == some p) = false := by
    rw [beq_eq_false_iff_ne]
    intro same
    apply (canonical.port p same).2
    rw [kind]
    rfl
  have visible : ∀ c ∈ u.authorityText h ++ u.path, 0x20 < c.toNat := by
    intro c hc
    rcases List.mem_append.mp hc with hc | hc
    · exact (inside c hc).2
    · exact (canonical.path.mem hc).2.2
  rw [chars_eq host query fragment, parseWith?_web canonical.scheme kind visible noSlash,
    parseAuthority?_special front back tail split ends]
  simp only [full, Bool.false_eq_true, if_false, hh.special?_self lawful, Option.bind_some, port,
    other, canonical.names_userText, absolutePath_settled p canonical.path]
  cases u
  cases host
  cases query
  cases fragment
  rfl

end Telemetry.Url
