import Mathlib
import Telemetry.Proofs.Dsn.RoundTrip

/-! The URL of the envelope endpoint. Its text is put together from the parts of a DSN and parsed once
more. The parts are as a parse left them, and what is added to the path has nothing to escape and no
dot segment, so the second parse gives these parts, and their text is the one that was parsed. -/

namespace Telemetry

namespace Url

/-- The segments of a path that are not empty. -/
def words (path : List Char) : List (List Char) :=
  (splitSlashes false path).filter fun s => !s.isEmpty

theorem words_append (cs rest : List Char) :
    words (cs ++ '/' :: rest) = words cs ++ words rest := by
  rw [words, splitSlashes_append, List.filter_append, ← words, ← words]

/-- Dot segments need a dot, or a percent sign for one that is escaped. -/
theorem no_dots {s : List Char} (dot : '.' ∉ s) (percent : '%' ∉ s) :
    isSingleDot s = false ∧ isDoubleDot s = false := by
  have other (t : String) (ht : '.' ∈ t.toList ∨ '%' ∈ t.toList) :
      ¬ decide (t.toList = s) = true := by
    rw [decide_eq_true_eq]
    rintro rfl
    exact ht.elim dot percent
  constructor
  · rw [isSingleDot, List.any_eq_false]
    exact fun t ht => other t (by revert t; decide)
  · rw [isDoubleDot, List.any_eq_false]
    exact fun t ht => other t (by revert t; decide)

end Url

namespace Dsn

open Url

variable {domain? : List Char → Option (List Char)}

/-! ### What is added to the path -/

theorem toNat_lt_of_isProjectIdChar {c : Char} (h : isProjectIdChar c = true) : c.toNat < 128 := by
  simp only [isProjectIdChar, Char.isAlphanum, Char.isAlpha, Char.isUpper, Char.isLower,
    Char.isDigit, Bool.or_eq_true, Bool.and_eq_true, decide_eq_true_eq, beq_iff_eq] at h
  rcases h with (((upper | lower) | digit) | rfl) | rfl
  · exact Nat.lt_of_le_of_lt (UInt32.le_iff_toNat_le.mp upper.2) (by decide)
  · exact Nat.lt_of_le_of_lt (UInt32.le_iff_toNat_le.mp lower.2) (by decide)
  · exact Nat.lt_of_le_of_lt (UInt32.le_iff_toNat_le.mp digit.2) (by decide)
  · decide
  · decide

/-- What may stand in a project identifier stands in a path as it is. -/
theorem plain_of_isProjectIdChar {c : Char} (h : isProjectIdChar c = true) :
    Percent.inPath c = false ∧ isSlash true c = false ∧ c ≠ '.' ∧ c ≠ '%' := by
  have ascii : ∀ n < 128, isProjectIdChar (Char.ofNat n) = true →
      Percent.inPath (Char.ofNat n) = false ∧ isSlash true (Char.ofNat n) = false ∧
        Char.ofNat n ≠ '.' ∧ Char.ofNat n ≠ '%' := by decide
  have plain := ascii c.toNat (toNat_lt_of_isProjectIdChar h)
  rw [Char.ofNat_toNat] at plain
  exact plain h

theorem settled_of_isProjectIdChar {s : List Char} (h : s.all isProjectIdChar = true) :
    Settled s := by
  have plain := fun c hc => plain_of_isProjectIdChar (List.all_eq_true.mp h c hc)
  have dots := no_dots (fun hm => (plain '.' hm).2.2.1 rfl) (fun hm => (plain '%' hm).2.2.2 rfl)
  exact
    { plain := fun c hc => (plain c hc).1
      noSlash := fun c hc => (plain c hc).2.1
      single := dots.1
      double := dots.2 }

/-- The end of the endpoint's path. -/
def endpointTail (p : ProjectId) : List Char :=
  "api".toList ++ '/' :: (p.text.toList ++ '/' :: ("envelope".toList ++ '/' :: []))

section

variable {p : ProjectId} (valid : p.text.toList.all isProjectIdChar = true)
include valid

theorem splitSlashes_endpointTail :
    splitSlashes false (endpointTail p) =
      ["api".toList, p.text.toList, "envelope".toList, []] := by
  have plain : ∀ c ∈ p.text.toList, isSlash false c = false := by
    intro c hc
    have special := (plain_of_isProjectIdChar (List.all_eq_true.mp valid c hc)).2.1
    rw [isSlash, Bool.or_eq_false_iff] at special
    rw [isSlash, special.1]
    rfl
  simp only [endpointTail, splitSlashes_append, splitSlashes_plain plain]
  rfl

theorem settled_endpointTail : ∀ s ∈ splitSlashes false (endpointTail p), Settled s := by
  rw [splitSlashes_endpointTail valid]
  simp only [List.forall_mem_cons]
  exact ⟨settled_of_isProjectIdChar (by decide), settled_of_isProjectIdChar valid,
    settled_of_isProjectIdChar (by decide), settled_nil, nofun⟩

theorem words_endpointTail (full : p.text.isEmpty = false) :
    words (endpointTail p) = ["api".toList, p.text.toList, "envelope".toList] := by
  have kept : p.text.toList.isEmpty = false := by
    rw [String.isEmpty_eq_false_iff] at full
    simpa using full
  rw [words, splitSlashes_endpointTail valid]
  simp [kept]

end

/-! ### The second parse -/

/-- The URL of the envelope endpoint, part by part. -/
def endpoint (d : Dsn) : Url where
  scheme := d.scheme.name.toList
  username := []
  password := none
  host := some d.host.toList
  port := d.port
  path := d.path.toList ++ endpointTail d.projectId
  query := none
  fragment := none

section

variable {u : Url} {d : Dsn}

/-- The path of a DSN ends with a slash. -/
theorem Made.exists_slash (made : Made u d) : ∃ cs, d.path.toList = cs ++ ['/'] := by
  rw [made.before, String.toList_ofList]
  unfold pathBefore
  split
  · exact ⟨[], rfl⟩
  · exact ⟨'/' :: (splitPath u.path).2, rfl⟩

/-- The port of a DSN is never the one that goes without saying. -/
theorem Made.port_ne (made : Made u d) (canonical : Url.Canonical domain? u) :
    d.port ≠ some d.scheme.defaultPort := by
  intro own
  have other := (canonical.port _ (made.port ▸ own)).2
  rw [made.scheme] at other
  apply other
  cases d.scheme <;> decide

theorem Made.canonical_endpoint (made : Made u d) (canonical : Url.Canonical domain? u) :
    Url.Canonical domain? d.endpoint where
  scheme := by
    have web := canonical.scheme
    rwa [made.scheme] at web
  username := by simp [endpoint]
  password := nofun
  host := by
    obtain ⟨h, host, hh⟩ := canonical.host
    rw [made.host] at host
    exact ⟨h, host, hh⟩
  port := by
    have port := canonical.port
    rwa [made.scheme, ← made.port] at port
  path := by
    obtain ⟨text, -, valid⟩ := ProjectId.of_parse made.project
    obtain ⟨cs, slash⟩ := made.exists_slash
    have trimmed : SettledPath (Dsn.textUrl u).path := canonical.path.trim
    rw [← made.path_eq, slash, List.append_assoc] at trimmed
    show SettledPath (d.path.toList ++ endpointTail d.projectId)
    rw [slash, List.append_assoc]
    exact trimmed.replace (settled_endpointTail (text ▸ valid))

theorem chars_endpoint (port : d.port ≠ some d.scheme.defaultPort) :
    d.endpoint.chars = d.envelopeText.toList := by
  have portText : (if d.effectivePort = d.scheme.defaultPort then ""
      else ":" ++ toString d.effectivePort).toList = portText d.port := by
    cases own : d.port with
    | none => simp [effectivePort, own, Url.portText]
    | some p =>
      have : p ≠ d.scheme.defaultPort := fun same => port (same ▸ own)
      simp [effectivePort, own, Url.portText, this]
  rw [chars_eq rfl rfl rfl, envelopeText]
  simp only [String.toList_append, portText]
  simp [endpoint, authorityText, userText, endpointTail]

end

/-- The endpoint of any DSN has a URL. It has neither user nor query nor fragment, and in its text the
path of the DSN is followed by `api`, the project and `envelope`. -/
theorem envelopeUrlWith?_text (lawful : Host.LawfulNames domain?) {s : String} {d : Dsn}
    (h : parseWith domain? s = .ok d) :
    ∃ u, d.envelopeUrlWith? domain? = some u ∧
      u.render = d.scheme.name ++ "://" ++ d.host ++
        (if d.effectivePort = d.scheme.defaultPort then "" else ":" ++ toString d.effectivePort) ++
        d.path ++ "api/" ++ d.projectId.text ++ "/envelope/" ∧
      u.username = [] ∧ u.password = none ∧ u.query = none ∧ u.fragment = none ∧
      words u.path = words d.path.toList ++
        ["api".toList, d.projectId.text.toList, "envelope".toList] := by
  unfold parseWith at h
  split at h
  · cases h
  next v parsed =>
  have made := made_of_ofUrl h
  have web : v.scheme = "http".toList ∨ v.scheme = "https".toList := by
    rw [made.scheme]
    cases d.scheme
    · exact .inl rfl
    · exact .inr rfl
  have canonical := Url.canonical_of_parseWith? lawful parsed web
  have text := chars_endpoint (made.port_ne canonical)
  have again := (made.canonical_endpoint canonical).parseWith?_chars lawful rfl rfl
  rw [text] at again
  refine ⟨d.endpoint, again, ?text, rfl, rfl, rfl, rfl, ?words⟩
  case text => rw [render, text, String.ofList_toList, envelopeText]
  case words =>
    obtain ⟨text, full, valid⟩ := ProjectId.of_parse made.project
    obtain ⟨cs, slash⟩ := made.exists_slash
    show words (d.path.toList ++ endpointTail d.projectId) = _
    rw [slash, List.append_assoc, List.singleton_append, words_append, words_append,
      words_endpointTail (text ▸ valid) (text ▸ full), show words [] = [] from rfl,
      List.append_nil]

/-- A server that is an address, on a port of its own, with escapes and an empty segment in front of a
project that has no letters. -/
def roundabout : Dsn where
  scheme := .https
  publicKey := "k%y"
  secretKey := some "s%20t"
  host := "[2001:db8::1]"
  port := some 8443
  path := "/a%20b//%7E%C3%A9/"
  projectId := ⟨"_-1"⟩

theorem envelopeUrlWith?_text_roundabout :
    Host.LawfulNames Host.asciiName? ∧
      parseWith Host.asciiName? " HTTPS:/\\k%y:s t@[2001:DB8:0::1]:8443//a b//./%7Eé/_-1/?q#f" =
        .ok roundabout ∧
      ∃ u, roundabout.envelopeUrlWith? Host.asciiName? = some u ∧
        u.render = "https://[2001:db8::1]:8443/a%20b//%7E%C3%A9/api/_-1/envelope/" ∧
        words u.path = ["a%20b", "%7E%C3%A9", "api", "_-1", "envelope"].map String.toList := by
  have lawful := Host.lawfulNames_asciiName?
  have read : parseWith Host.asciiName?
      " HTTPS:/\\k%y:s t@[2001:DB8:0::1]:8443//a b//./%7Eé/_-1/?q#f" = .ok roundabout := by
    decide +kernel
  obtain ⟨u, url, text, -, -, -, -, path⟩ := envelopeUrlWith?_text lawful read
  refine ⟨lawful, read, u, url, text.trans ?_, path.trans ?_⟩
  · decide +kernel
  · decide +kernel

end Dsn

end Telemetry
