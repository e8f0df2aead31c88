import Entitlement.Config.Error
import Entitlement.Config.Settings
import Entitlement.Text.Utf8
import Entitlement.Toml.Document

/-!
# Reading a configuration

* `Section` : the settings of a section, by name in a table or by place in an array;
* `Auth.ofValue?`, `ServerSettings.ofValue?`, `DatabaseSettings.ofValue?`, `Config.ofSection?` :
  settings from values. A setting that is missing has its standard value, if there is one;
* `Config.parse` : the configuration that a text holds; `Config.load` : that a file holds.
-/

namespace Entitlement
open Toml

inductive Section where
  | named (entries : Entries)
  | placed (items : List Value)

namespace Section

def ofValue? : Value → Option Section
  | .table _ entries => some (named entries)
  | .array items => some (placed items)
  | .tables items => some (placed (items.map (.table .header)))
  | _ => none

/-- A setting, by its name or its place. -/
def find? (s : Section) (place : Nat) (name : String) : Option Value :=
  match s with
  | named entries => entries.lookup name
  | placed items => items[place]?

/-- A setting that has to be there. -/
def required (s : Section) (read : Value → Option α) (place : Nat) (name : String) : Option α :=
  s.find? place name >>= read

/-- A setting that may be missing, but not wrong. -/
def optional (s : Section) (read : Value → Option α) (place : Nat) (name : String)
    (standard : α) : Option α :=
  match s.find? place name with
  | some v => read v
  | none => some standard

end Section

namespace Toml.Value

def text? : Value → Option String
  | text s => some s
  | _ => none

/-- An integer that is not negative and not above a limit. -/
def natural? (limit : Nat) : Value → Option Nat
  | word (.integer n) => if 0 ≤ n ∧ n ≤ limit then some n.toNat else none
  | _ => none

end Toml.Value

/-- The largest numbers of 16, 32 and 63 bits. -/
def maxPort : Nat := 65535

def maxCount : Nat := 4294967295

def maxTime : Nat := 9223372036854775807

/-- In an array, the mode comes first and nothing may follow its settings. -/
def Auth.ofValue? (v : Value) : Option Auth := do
  let s ← Section.ofValue? v
  let fits : Bool := match s with
    | .placed items => items.length ≤ 2
    | .named _ => true
  match ← s.required Value.text? 0 "mode" with
  | "iam" =>
    let region ← s.optional (fun v => v.text?.map some) 1 "region" none
    if fits then some (.iam region) else none
  | "password" =>
    let password ← s.required Value.text? 1 "password"
    if fits then some (.password password) else none
  | _ => none

def ServerSettings.ofValue? (v : Value) : Option ServerSettings := do
  let s ← Section.ofValue? v
  return {
    host := ← s.optional Value.text? 0 "host" standard.host
    port := ← s.optional (Value.natural? maxPort) 1 "port" standard.port
    logLevel := ← s.optional Value.text? 2 "log_level" standard.logLevel }

def DatabaseSettings.ofValue? (v : Value) : Option DatabaseSettings := do
  let s ← Section.ofValue? v
  return {
    host := ← s.required Value.text? 0 "host"
    port := ← s.optional (Value.natural? maxPort) 1 "port" 5432
    user := ← s.required Value.text? 2 "user"
    sslMode := ← s.optional Value.text? 3 "ssl_mode" "require"
    applicationName := ← s.optional Value.text? 4 "application_name" "tenant-permissions"
    maxConnections := ← s.optional (Value.natural? maxCount) 5 "max_connections" 10
    acquireTimeoutMillis := ← s.optional (Value.natural? maxTime) 6 "acquire_timeout_ms" 3000
    idleTimeout := ← s.optional (Value.natural? maxTime) 7 "idle_timeout_secs" 600
    maxLifetime := ← s.optional (Value.natural? maxTime) 8 "max_lifetime_secs" 1800
    auth := ← s.required Auth.ofValue? 9 "auth" }

/-- The time limit in the section for requests. -/
def timeoutOfValue? (v : Value) : Option Nat := do
  let s ← Section.ofValue? v
  s.optional (Value.natural? maxTime) 0 "timeout_ms" Config.standardTimeout

namespace Config

def ofSection? (s : Section) : Option Config := do
  return {
    server := ← s.optional ServerSettings.ofValue? 0 "server" .standard
    database := ← s.required DatabaseSettings.ofValue? 1 "database"
    timeoutMillis := ← s.optional timeoutOfValue? 2 "requests" standardTimeout }

def parse (text : String) : Except ConfigError Config :=
  match (Document.parse? text).bind fun entries => ofSection? (.named entries) with
  | some c => .ok c
  | none => .error .malformed

/-- The bytes of a file, if there is one, have to be a text. -/
def load (file : Option (List UInt8)) : Except ConfigError Config :=
  match file.bind Text.Utf8.decodeText? with
  | some text => parse text
  | none => .error .unreadable

end Config

end Entitlement
