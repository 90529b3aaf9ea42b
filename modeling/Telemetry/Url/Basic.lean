import Telemetry.Url.Host

/-! URLs taken apart and put together again by the rules of browsers: letters of schemes and hosts
are folded, default ports are left out, dot segments are resolved, and each part is escaped in its
own way. The ASCII form of domain names is a parameter. -/

namespace Telemetry

/-- The parts of a URL; what may be absent differs from what is empty. -/
structure Url where
  scheme : List Char
  username : List Char
  password : Option (List Char)
  host : Option (List Char)
  port : Option Nat
  path : List Char
  query : Option (List Char)
  fragment : Option (List Char)
deriving DecidableEq, Repr

namespace Url

/-- What kind of rules a scheme follows. -/
inductive SchemeKind where
  | file
  | special (defaultPort : Nat)
  | other
deriving DecidableEq, Repr

/-- The rules of a scheme. -/
def schemeKind (scheme : List Char) : SchemeKind :=
  if scheme = "http".toList ∨ scheme = "ws".toList then .special 80
  else if scheme = "https".toList ∨ scheme = "wss".toList then .special 443
  else if scheme = "ftp".toList then .special 21
  else if scheme = "file".toList then .file
  else .other

namespace SchemeKind

/-- Whether backslashes count as slashes, among other things. -/
def isSpecial : SchemeKind → Bool
  | .other => false
  | _ => true

/-- The port a scheme has without being told. -/
def defaultPort? : SchemeKind → Option Nat
  | .special p => some p
  | _ => none

end SchemeKind

/-- Whether a character separates segments of a path. -/
def isSlash (special : Bool) (c : Char) : Bool := c == '/' || (special && c == '\\')

/-- Whether a character ends the authority of a URL. -/
def endsAuthority (special : Bool) (c : Char) : Bool := isSlash special c || c == '?' || c == '#'

/-! ### The parts of an authority -/

/-- User name and password of a text before the last at sign. -/
def credentials (cs : List Char) : List Char × Option (List Char) :=
  let name := cs.takeWhile (· ≠ ':')
  let secret := (cs.dropWhile (· ≠ ':')).drop 1
  (Percent.encode Percent.inUserinfo name,
    if secret.isEmpty then none else some (Percent.encode Percent.inUserinfo secret))

/-- What comes before the last at sign, if there is one, and what comes after it. -/
def splitAtSign (cs : List Char) : Option (List Char) × List Char :=
  let after := (cs.reverse.takeWhile (· ≠ '@')).reverse
  if after.length = cs.length then (none, cs)
  else (some (cs.take (cs.length - after.length - 1)), after)

/-- The host at the front of a text, up to a colon outside of brackets. -/
def hostText : Bool → List Char → List Char × List Char
  | _, [] => ([], [])
  | inside, c :: cs =>
    if c = ':' ∧ inside = false then ([], c :: cs)
    else
      let inside := if c = '[' then true else if c = ']' then false else inside
      let (h, r) := hostText inside cs
      (c :: h, r)

/-- A port after its colon: none if there are no digits. -/
def port? (cs : List Char) : Option (Option Nat) :=
  if cs.all Char.isDigit then
    if cs.isEmpty then some none
    else
      (Host.digits? 10 cs).bind fun n => if n < 65536 then some (some n) else none
  else none

/-! ### Paths -/

/-- One dot, also escaped. -/
def isSingleDot (cs : List Char) : Bool :=
  [".", "%2e", "%2E"].any fun s => s.toList = cs

/-- Two dots, also escaped. -/
def isDoubleDot (cs : List Char) : Bool :=
  ["..", ".%2e", ".%2E", "%2e.", "%2E.", "%2e%2e", "%2e%2E", "%2E%2e", "%2E%2E"].any
    fun s => s.toList = cs

/-- The pieces of a text between slashes. -/
def splitSlashes (special : Bool) : List Char → List (List Char)
  | [] => [[]]
  | c :: cs =>
    let rest := splitSlashes special cs
    if isSlash special c then [] :: rest
    else match rest with
      | [] => [[c]]
      | p :: ps => (c :: p) :: ps

/-- A letter and a colon or bar, at the front of the path of a file. -/
def isDriveLetter : List Char → Bool
  | [a, b] => a.isAlpha && (b == ':' || b == '|')
  | _ => false

/-- Resolves dot segments; the segments so far are in reverse. -/
def resolve (file : Bool) : List (List Char) → List (List Char) → List (List Char)
  | acc, [] => acc.reverse
  | acc, s :: rest =>
    if isDoubleDot s then
      let acc := match acc with
        | [drive] => if file && isDriveLetter drive then [drive] else []
        | _ :: more => more
        | [] => []
      resolve file (if rest.isEmpty then [] :: acc else acc) rest
    else if isSingleDot s then resolve file (if rest.isEmpty then [] :: acc else acc) rest
    else
      let s := match s with
        | [a, _] => if file && acc.isEmpty && isDriveLetter s then [a, ':'] else s
        | _ => s
      resolve file (s :: acc) rest

/-- The segments of a path after its first slash. -/
def segments (kind : SchemeKind) (cs : List Char) : List (List Char) :=
  let escaped := (splitSlashes kind.isSpecial cs).map (Percent.encode Percent.inPath)
  let resolved := resolve (kind == .file) [] escaped
  if kind == .file then
    match resolved.dropWhile List.isEmpty with
    | [] => [[]]
    | ss => ss
  else resolved

/-- A path as text: a slash before every segment. -/
def pathText (segments : List (List Char)) : List Char := segments.flatMap fun s => '/' :: s

/-- The path of a URL with an authority. -/
def absolutePath (kind : SchemeKind) (cs : List Char) : List Char :=
  match cs with
  | [] => if kind.isSpecial then ['/'] else []
  | c :: rest =>
    pathText (segments kind (if isSlash kind.isSpecial c then rest else c :: rest))

/-! ### Parsing -/

/-- The path, query and fragment of a text, unescaped. -/
def splitTail (cs : List Char) : List Char × Option (List Char) × Option (List Char) :=
  let body := cs.takeWhile (· ≠ '#')
  let fragment := match cs.dropWhile (· ≠ '#') with
    | [] => none
    | _ :: f => some f
  let path := body.takeWhile (· ≠ '?')
  let query := match body.dropWhile (· ≠ '?') with
    | [] => none
    | _ :: q => some q
  (path, query, fragment)

/-- Escapes a query and a fragment. -/
def withTail (special : Bool) (u : Url) (query fragment : Option (List Char)) : Url :=
  { u with
    query := query.map (Percent.encode (Percent.inQuery special))
    fragment := fragment.map (Percent.encode Percent.inFragment) }

/-- A URL with only a scheme and a path. -/
def bare (scheme path : List Char) : Url :=
  { scheme, username := [], password := none, host := none, port := none, path, query := none,
    fragment := none }

/-- A URL after the two slashes in front of its authority. -/
def parseAuthority? (domain? : List Char → Option (List Char)) (scheme : List Char)
    (kind : SchemeKind) (cs : List Char) : Option Url := do
  let authority := cs.takeWhile fun c => !endsAuthority kind.isSpecial c
  let (path, query, fragment) := splitTail (cs.dropWhile fun c => !endsAuthority kind.isSpecial c)
  let (user, server) := splitAtSign authority
  let (username, password) := match user with
    | some u => credentials u
    | none => ([], none)
  let (hostPart, portPart) := hostText false server
  if hostPart.isEmpty && (user.isSome || kind.isSpecial || !portPart.isEmpty) then none
  else
    let host ← if kind.isSpecial then Host.special? domain? hostPart else Host.opaqueHost? hostPart
    let port ← port? (portPart.drop 1)
    return withTail kind.isSpecial
      { scheme, username, password, host := if host.isEmpty then none else some host,
        port := if port == kind.defaultPort? then none else port,
        path := absolutePath kind path, query := none, fragment := none } query fragment

/-- A file URL after its scheme. -/
def parseFile? (domain? : List Char → Option (List Char)) (scheme : List Char) (cs : List Char) :
    Option Url := do
  let slash := isSlash true
  match cs with
  | a :: b :: rest =>
    if slash a && slash b then
      let hostPart := rest.takeWhile fun c => !endsAuthority true c
      if isDriveLetter hostPart then
        let (path, query, fragment) := splitTail rest
        return withTail true (bare scheme (pathText (segments .file path))) query fragment
      else
        let host ← if hostPart.isEmpty then some [] else Host.special? domain? hostPart
        let (path, query, fragment) := splitTail (rest.dropWhile fun c => !endsAuthority true c)
        return withTail true
          { bare scheme (absolutePath .file path) with
            host := if host.isEmpty || host == "localhost".toList then none else some host }
          query fragment
    else plain cs
  | _ => plain cs
where
  /-- A path without a host. -/
  plain (cs : List Char) : Option Url :=
    let (path, query, fragment) := splitTail cs
    some (withTail true (bare scheme (absolutePath .file path)) query fragment)

/-- A URL of another scheme after its colon. -/
def parseOther? (scheme : List Char) (cs : List Char) : Option Url :=
  let (path, query, fragment) := splitTail cs
  let path := match path with
    | '/' :: rest => pathText (segments .other rest)
    | p => Percent.encode Percent.isControl p
  some (withTail false (bare scheme path) query fragment)

/-- The characters of a scheme after its first letter. -/
def isSchemeChar (c : Char) : Bool := c.isAlphanum || c == '+' || c == '-' || c == '.'

/-- A text without blanks and controls at either end, and without tabs and line ends. -/
def cleaned (cs : List Char) : List Char :=
  (trimList (fun c => c.toNat ≤ 0x20) cs).filter fun c => !(c == '\t' || c == '\n' || c == '\r')

/-- Parses a URL, `domain?` giving the ASCII form of domain names. -/
def parseWith? (domain? : List Char → Option (List Char)) (text : List Char) : Option Url :=
  let cs := cleaned text
  let name := cs.takeWhile isSchemeChar
  match name, cs.dropWhile isSchemeChar with
  | first :: _, ':' :: rest =>
    if first.isAlpha then
      let scheme := name.map Char.toLower
      match schemeKind scheme with
      | .file => parseFile? domain? scheme rest
      | .special p => parseAuthority? domain? scheme (.special p) (rest.dropWhile (isSlash true))
      | .other =>
        match rest with
        | '/' :: '/' :: rest => parseAuthority? domain? scheme .other rest
        | rest => parseOther? scheme rest
    else none
  | _, _ => none

/-- The text of a URL. -/
def chars (u : Url) : List Char :=
  let credentials :=
    if u.username.isEmpty && u.password.isNone then []
    else u.username ++ (match u.password with | some p => ':' :: p | none => []) ++ ['@']
  let authority := match u.host with
    | some h =>
      ['/', '/'] ++ credentials ++ h ++
        (match u.port with | some p => ':' :: (toString p).toList | none => [])
    | none => if u.scheme = "file".toList then ['/', '/'] else []
  u.scheme ++ [':'] ++ authority ++ u.path ++
    (match u.query with | some q => '?' :: q | none => []) ++
    (match u.fragment with | some f => '#' :: f | none => [])

/-- The text of a URL. -/
def render (u : Url) : String := String.ofList u.chars

end Url

end Telemetry
