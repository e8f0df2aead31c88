import Entitlement.Command.Line
import Entitlement.Config.Build
import Entitlement.Config.Reader
import Entitlement.Http.Reply

/-!
# Starting

* `CommandLine.address` : where a command line and a configuration say to listen;
* `Config.summary` : what is reported of a configuration at the start;
* `Startup` : a configuration that a service can be built from; `Startup.prepare` : from a command
  line and the bytes of its file;
* `Usage.text`, `Usage.code` : what is said about a command line that cannot be run.
-/

namespace Entitlement

def CommandLine.address (line : CommandLine) (c : Config) : String :=
  line.host.getD c.server.host ++ ":" ++ Text.decimal (line.port.getD c.server.port)

/-- The time limit of requests, if there is one. -/
def Config.limitText (c : Config) : String :=
  match c.requestTimeout with
  | some limit => "Some(" ++ limit.text ++ ")"
  | none => "None"

def Config.summary (c : Config) : List String :=
  ["Starting Permissions Server v" ++ Reply.version,
   "Configuration:",
   "  Database: " ++ c.database.host ++ ":" ++ Text.decimal c.database.port,
   "  Auth: " ++ c.database.auth.display,
   "  Request timeout: " ++ c.limitText]

structure Startup where
  config : Config
  service : Service Backend
  backend : Backend

namespace Startup

def prepare (file : Option (List UInt8)) (env : Environment) (now : Moment) (db : Database)
    (defaults : ConnectOptions := .unset) : Except ConfigError Startup := do
  let config ← Config.load file
  config.validate env
  let (service, backend) ← config.service env now db defaults
  return ⟨config, service, backend⟩

end Startup

namespace Usage

def text : Usage → String
  | help => "Tenant-aware user permission resolution service\n\n" ++
      "Usage: permissions-server [OPTIONS]\n\n" ++
      "Options:\n" ++
      "  -c, --config <CONFIG>  Path to configuration file\n" ++
      "      --host <HOST>      Override listen host\n" ++
      "      --port <PORT>      Override listen port\n" ++
      "  -v, --verbose          Enable verbose logging\n" ++
      "  -h, --help             Print help\n" ++
      "  -V, --version          Print version"
  | version => "permissions-server " ++ Reply.version
  | repeated => "error: an option is given more than once"
  | unknown => "error: unexpected argument"
  | noValue => "error: a value is required"
  | badValue => "error: invalid value"
  | tooManyValues => "error: unexpected value"

/-- Asking for help is no error. -/
def code : Usage → UInt32
  | help | version => 0
  | _ => 2

end Usage

end Entitlement
