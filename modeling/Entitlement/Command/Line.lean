import Entitlement.Environment
import Entitlement.Text.Digits

/-!
# The command line

* `CommandLine` : what a command line says; `Usage` : why it says nothing that can be run;
* `Choice` : the options that take a value; `Parsing` : what was read so far. A value that follows
  its option is looked at only when the next option comes, or at the end;
* `Parsing.addWord`, `Parsing.addLetters` : one more argument;
* `CommandLine.parse` : a whole command line, with the environment for options that are absent.
-/

namespace Entitlement

structure CommandLine where
  config : String
  host : Option String
  port : Option Nat
  verbose : Bool
  deriving DecidableEq, Repr

inductive Usage where
  | help
  | version
  /-- An option that is given twice. -/
  | repeated
  | unknown
  /-- An option without its value, or with an empty one. -/
  | noValue
  /-- A port that is no number of 16 bits. -/
  | badValue
  /-- A value for an option that takes none. -/
  | tooManyValues
  deriving DecidableEq, Repr

/-- The options that take a value. -/
inductive Choice where
  | config
  | host
  | port
  deriving DecidableEq, Repr

namespace Choice

def all : List Choice := [config, host, port]

def name : Choice → String
  | config => "config"
  | host => "host"
  | port => "port"

/-- The setting of the environment that stands in for it. -/
def setting : Choice → String
  | config => "PERMISSIONS_CONFIG"
  | host => "HOST"
  | port => "PORT"

def named? (name : String) : Option Choice := all.find? fun c => c.name = name

end Choice

/-- Options after their double dash that take no value. -/
inductive Switch where
  | verbose
  | help
  | version
  deriving DecidableEq, Repr

namespace Switch

def named? : String → Option Switch
  | "verbose" => some verbose
  | "help" => some help
  | "version" => some version
  | _ => none

def lettered? : Char → Option Switch
  | 'v' => some verbose
  | 'h' => some help
  | 'V' => some version
  | _ => none

end Switch

/-- An option that takes a value and is not looked at yet. -/
structure Pending where
  choice : Choice
  value : Option String
  deriving DecidableEq, Repr

structure Parsing where
  config : Option String
  host : Option String
  port : Option Nat
  verbose : Bool
  pending : Option Pending
  /-- After two dashes nothing is an option. -/
  closed : Bool
  deriving DecidableEq, Repr

namespace Parsing

def start : Parsing := ⟨none, none, none, false, none, false⟩

def isSet (p : Parsing) : Choice → Bool
  | .config => p.config.isSome
  | .host => p.host.isSome
  | .port => p.port.isSome

def portOf? (s : String) : Option Nat :=
  (Text.integer? s.toList).bind fun n => if 0 ≤ n ∧ n ≤ 65535 then some n.toNat else none

/-- Gives an option its value, whichever it was before. -/
def put (p : Parsing) (c : Choice) (value : String) : Except Usage Parsing :=
  match c with
  | .config => if value = "" then .error .noValue else .ok { p with config := some value }
  | .host => .ok { p with host := some value }
  | .port =>
    match portOf? value with
    | some n => .ok { p with port := some n }
    | none => .error .badValue

/-- An option with its value, or without one. -/
def set (p : Parsing) (c : Choice) : Option String → Except Usage Parsing
  | none => .error .noValue
  | some value => if p.isSet c then .error .repeated else p.put c value

/-- Looks at the option that was left. -/
def settle (p : Parsing) : Except Usage Parsing :=
  match p.pending with
  | none => .ok p
  | some o => { p with pending := none }.set o.choice o.value

/-- An option with a value attached to it, or one whose value comes next. -/
def choose (p : Parsing) (c : Choice) (attached : Option String) : Except Usage Parsing := do
  let p ← p.settle
  match attached with
  | some value => p.set c (some value)
  | none => return { p with pending := some ⟨c, none⟩ }

def switch (p : Parsing) (s : Switch) : Except Usage Parsing := do
  let p ← p.settle
  match s with
  | .help => throw .help
  | .version => throw .version
  | .verbose => if p.verbose then throw .repeated else return { p with verbose := true }

/-- A value after a letter, of which an equals sign before it is no part. -/
def attached? : List Char → Option String
  | [] => none
  | '=' :: value => some (String.ofList value)
  | value => some (String.ofList value)

/-- Letters after one dash. -/
def addLetters (p : Parsing) : List Char → Except Usage Parsing
  | [] => .ok p
  | 'c' :: rest => p.choose .config (attached? rest)
  | letter :: rest =>
    match Switch.lettered? letter with
    | some s => p.switch s >>= fun p => p.addLetters rest
    | none => .error .unknown

/-- A name after two dashes, with or without a value attached to it. -/
def addName (p : Parsing) (name : String) (attached : Option String) : Except Usage Parsing :=
  match Choice.named? name, Switch.named? name with
  | some c, _ => p.choose c attached
  | none, some s => if attached.isSome then .error .tooManyValues else p.switch s
  | none, none => .error .unknown

/-- An argument that is no option has to be the value of the one before. -/
def addValue (p : Parsing) (value : String) : Except Usage Parsing :=
  match p.pending with
  | some ⟨c, none⟩ => .ok { p with pending := some ⟨c, some value⟩ }
  | _ => .error .unknown

def addWord (p : Parsing) (word : String) : Except Usage Parsing :=
  if p.closed then .error .unknown
  else match word.toList with
    | ['-', '-'] => .ok { p with closed := true }
    | '-' :: '-' :: rest =>
      let name := rest.takeWhile (· ≠ '=')
      p.addName (String.ofList name) (attached? (rest.drop name.length))
    | '-' :: c :: rest => p.addLetters (c :: rest)
    | _ => p.addValue word

/-- Options that are absent may be set in the environment. -/
def fill (p : Parsing) (env : Environment) (c : Choice) : Except Usage Parsing :=
  if p.isSet c then .ok p
  else match env.find? c.setting with
    | some value => p.put c value
    | none => .ok p

end Parsing

namespace CommandLine

def standardConfig : String := "/etc/permissions/server.toml"

/-- The arguments after the name of the program. -/
def parse (args : List String) (env : Environment) : Except Usage CommandLine := do
  let p ← (← args.foldlM Parsing.addWord .start).settle
  let p ← Choice.all.foldlM (fun p c => p.fill env c) p
  return ⟨p.config.getD standardConfig, p.host, p.port, p.verbose⟩

end CommandLine

end Entitlement
