import Telemetry.Options

/-! Defaults: what a program does not set is taken from its environment, or is the usual. Nothing
that is set is changed. -/

namespace Telemetry

/-- The variables of the environment. -/
abbrev Environment := String → Option String

namespace ClientOptions

/-- The environment of a build for development. -/
def usualEnvironment : String := "debug"

/-- The name of the machine, if it is not empty. -/
def machineName? (env : Environment) : Option String :=
  ((env "HOSTNAME").or (env "COMPUTERNAME")).filter fun name => !name.isEmpty

/-- The DSN of the environment; one that cannot be read counts as none. -/
def environmentDsn? [Host.Names] (env : Environment) : Option Dsn :=
  (env "OUTPOST_DSN").bind fun s => (Dsn.parse s).toOption

/-- Options with everything that is not set filled in. -/
def withDefaults [Host.Names] (env : Environment) (o : ClientOptions) : ClientOptions :=
  let httpProxy := (o.httpProxy.or (env "HTTP_PROXY")).or (env "http_proxy")
  { o with
    transport := o.transport.or (some .discarding)
    integrations :=
      if o.defaultIntegrations then panicIntegration [] :: o.integrations else o.integrations
    dsn := o.dsn.or (environmentDsn? env)
    release := o.release.or (env "OUTPOST_RELEASE")
    environment := (o.environment.or (env "OUTPOST_ENVIRONMENT")).or (some usualEnvironment)
    serverName := o.serverName.or (machineName? env)
    httpProxy
    httpsProxy := ((o.httpsProxy.or (env "HTTPS_PROXY")).or (env "https_proxy")).or httpProxy }

end ClientOptions

end Telemetry
