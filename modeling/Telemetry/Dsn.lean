import Telemetry.ProjectId
import Telemetry.Text.Quoted
import Telemetry.Url.Basic

/-! Where telemetry goes: a DSN names the server, the key and the project, and from it come the URL
of the envelope endpoint and the authentication header. -/

namespace Telemetry

/-- How the server is reached. -/
inductive Scheme where
  | http
  | https
deriving DecidableEq, Repr, Inhabited

namespace Scheme

/-- The name of a scheme. -/
def name : Scheme → String
  | .http => "http"
  | .https => "https"

/-- The port of a scheme. -/
def defaultPort : Scheme → Nat
  | .http => 80
  | .https => 443

end Scheme

/-- Why a text is no DSN. -/
inductive DsnError where
  | invalidUrl
  | invalidScheme
  | noUsername
  | noProjectId
  | invalidProjectId (cause : ProjectIdError)
deriving DecidableEq, Repr

/-- The wording of a DSN error. -/
def DsnError.message : DsnError → String
  | .invalidUrl => "no valid url provided"
  | .invalidScheme => "no valid scheme"
  | .noUsername => "username is empty"
  | .noProjectId => "empty path"
  | .invalidProjectId _ => "invalid project id"

/-- Where telemetry goes. -/
structure Dsn where
  scheme : Scheme
  publicKey : String
  secretKey : Option String
  host : String
  /-- The port, unless it is the scheme's own. -/
  port : Option Nat
  /-- The path in front of the project, with a slash at either end. -/
  path : String
  projectId : ProjectId
deriving DecidableEq, Repr, Inhabited

namespace Dsn

/-- The last segment of a path without slashes at either end, and what is in front of it. -/
def splitPath (path : List Char) : List Char × List Char :=
  let trimmed := trimList (· == '/') path
  let last := (trimmed.reverse.takeWhile (· ≠ '/')).reverse
  (last, (trimmed.take (trimmed.length - last.length)).dropLast)

/-- The path in front of the project. -/
def pathBefore (front : List Char) : List Char :=
  if front.isEmpty || front == ['/'] then ['/'] else '/' :: (front ++ ['/'])

/-- The DSN a URL is: the path is looked at first, then the user name, then the scheme. -/
def ofUrl (u : Url) : Except DsnError Dsn :=
  if u.path = ['/'] then .error .noProjectId
  else
    let (last, front) := splitPath u.path
    match ProjectId.parse (String.ofList last) with
    | .error e => .error (.invalidProjectId e)
    | .ok projectId =>
      if u.username.isEmpty then .error .noUsername
      else
        let scheme? : Option Scheme :=
          if u.scheme = "http".toList then some .http
          else if u.scheme = "https".toList then some .https
          else none
        match scheme?, u.host with
        | none, _ => .error .invalidScheme
        | some _, none => .error .invalidUrl
        | some scheme, some host => .ok
            { scheme, publicKey := String.ofList u.username,
              secretKey := u.password.map String.ofList, host := String.ofList host,
              port := u.port, path := String.ofList (pathBefore front), projectId }

/-- Reads a DSN, `domain?` giving the ASCII form of domain names. -/
def parseWith (domain? : List Char → Option (List Char)) (s : String) : Except DsnError Dsn :=
  match Url.parseWith? domain? s.toList with
  | none => .error .invalidUrl
  | some u => ofUrl u

/-- Reads a DSN. -/
def parse [Host.Names] (s : String) : Except DsnError Dsn := parseWith Host.Names.ascii? s

/-- The text of a DSN. -/
def text (d : Dsn) : String :=
  d.scheme.name ++ "://" ++ d.publicKey ++
    (match d.secretKey with | some s => ":" ++ s | none => "") ++ "@" ++ d.host ++
    (match d.port with | some p => ":" ++ toString p | none => "") ++ d.path ++ d.projectId.text

/-- The port the server listens on. -/
def effectivePort (d : Dsn) : Nat := d.port.getD d.scheme.defaultPort

/-- The text of the envelope endpoint's URL. -/
def envelopeText (d : Dsn) : String :=
  d.scheme.name ++ "://" ++ d.host ++
    (if d.effectivePort = d.scheme.defaultPort then "" else ":" ++ toString d.effectivePort) ++
    d.path ++ "api/" ++ d.projectId.text ++ "/envelope/"

/-- The URL of the envelope endpoint, `domain?` giving the ASCII form of domain names. -/
def envelopeUrlWith? (domain? : List Char → Option (List Char)) (d : Dsn) : Option Url :=
  Url.parseWith? domain? d.envelopeText.toList

/-- The URL of the envelope endpoint. -/
def envelopeUrl? [Host.Names] (d : Dsn) : Option Url := envelopeUrlWith? Host.Names.ascii? d

/-- A DSN as debugging output shows it. -/
def debug (d : Dsn) : String :=
  Quoted.record "Dsn" [
    ("scheme", match d.scheme with | .http => "Http" | .https => "Https"),
    ("public_key", Quoted.text d.publicKey),
    ("secret_key", Quoted.option Quoted.text d.secretKey),
    ("host", Quoted.text d.host),
    ("port", Quoted.option (fun (p : Nat) => toString p) d.port),
    ("path", Quoted.text d.path),
    ("project_id", "ProjectId(" ++ Quoted.text d.projectId.text ++ ")")]

/-- Reads a DSN that may be left blank. -/
def parseOptional [Host.Names] (s : String) : Except DsnError (Option Dsn) :=
  let s := trimBlank s
  if s.isEmpty then .ok none else (parse s).map some

end Dsn

/-- What a client says about itself with every request. -/
structure Auth where
  client : Option String
  version : Nat
  key : String
  secret : Option String
deriving DecidableEq, Repr

namespace Auth

/-- The version of the protocol. -/
def protocolVersion : Nat := 7

/-- The authentication of a client. -/
def ofDsn (d : Dsn) (client : Option String) : Auth :=
  { client, version := protocolVersion, key := d.publicKey, secret := d.secretKey }

/-- Whether there is no secret. -/
def isPublic (a : Auth) : Bool := a.secret.isNone

/-- The value of the authentication header. -/
def header (a : Auth) : String :=
  "Sentry sentry_key=" ++ a.key ++ ", sentry_version=" ++ toString a.version ++
    (match a.client with | some c => ", sentry_client=" ++ c | none => "") ++
    (match a.secret with | some s => ", sentry_secret=" ++ s | none => "")

end Auth

end Telemetry
