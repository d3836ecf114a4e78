import StubHttp.Settings.File

/-!
# Options

The command line and the environment override settings. An option has a long name, and some a short
one; its value is the rest of the argument or the next argument. The environment counts for the
options that the command line does not name.
-/
namespace StubHttp

inductive UsageStop
  | unknownArgument
  /-- A value is missing, or empty where it must not be. -/
  | invalidValue
  /-- A value is not of the right kind. -/
  | valueValidation
  /-- An option is given twice. -/
  | argumentConflict
  /-- A value is given to an option that takes none. -/
  | tooManyValues
  | displayHelp
  | displayVersion
  deriving DecidableEq, Repr

def UsageStop.exitCode : UsageStop → Nat
  | displayHelp | displayVersion => 0
  | _ => 2

def UsageStop.message : UsageStop → String
  | unknownArgument => "an argument is not known"
  | invalidValue => "a value is missing or empty"
  | valueValidation => "a value is not of the right kind"
  | argumentConflict => "an option is given twice"
  | tooManyValues => "an option takes no value"
  | displayHelp =>
    "options: --config --host --port --metrics-port --presets-dir --history-capacity " ++
      "--help --version"
  | displayVersion => "stub-http 0.1.0"

inductive Flag
  | config
  | host
  | port
  | metricsPort
  | presets
  | capacity
  deriving DecidableEq, Repr

namespace Flag

def all : List Flag := [config, host, port, metricsPort, presets, capacity]

def long : Flag → String
  | config => "config"
  | host => "host"
  | port => "port"
  | metricsPort => "metrics-port"
  | presets => "presets-dir"
  | capacity => "history-capacity"

def short? : Flag → Option Char
  | config => some 'c'
  | port => some 'p'
  | _ => none

def envName : Flag → String
  | config => "MIRAGE_CONFIG"
  | host => "MIRAGE_HOST"
  | port => "MIRAGE_PORT"
  | metricsPort => "MIRAGE_METRICS_PORT"
  | presets => "MIRAGE_PRESETS_DIR"
  | capacity => "MIRAGE_HISTORY_CAPACITY"

end Flag

structure Options where
  config : Option String
  host : Option String
  port : Option UInt16
  metricsPort : Option UInt16
  presets : Option String
  capacity : Option Nat
  deriving DecidableEq

namespace Options

def none : Options := ⟨.none, .none, .none, .none, .none, .none⟩

def digits? (cs : List Char) : Option Nat :=
  if cs.isEmpty ∨ cs.any (fun c => !c.isDigit) then Option.none
  else some (cs.foldl (fun n c => n * 10 + (c.toNat - 48)) 0)

def unsigned? (s : String) : Option Nat :=
  match s.toList with
  | '+' :: cs => digits? cs
  | cs => digits? cs

def port? (s : String) : Option UInt16 :=
  let n := match s.toList with
    | '-' :: cs => (digits? cs).filter (· = 0)
    | _ => unsigned? s
  (n.filter (· < 0x10000)).map Nat.toUInt16

def capacity? (s : String) : Option Nat := (unsigned? s).filter (· < 0x10000000000000000)

def path (s : String) : Except UsageStop String := if s = "" then .error .invalidValue else .ok s

def orInvalid {α : Type} : Option α → Except UsageStop α
  | some a => .ok a
  | .none => .error .valueValidation

def has (o : Options) : Flag → Bool
  | .config => o.config.isSome
  | .host => o.host.isSome
  | .port => o.port.isSome
  | .metricsPort => o.metricsPort.isSome
  | .presets => o.presets.isSome
  | .capacity => o.capacity.isSome

def set (o : Options) (f : Flag) (s : String) : Except UsageStop Options :=
  match f with
  | .config => (path s).map fun v => { o with config := some v }
  | .host => .ok { o with host := some s }
  | .port => (orInvalid (port? s)).map fun v => { o with port := some v }
  | .metricsPort => (orInvalid (port? s)).map fun v => { o with metricsPort := some v }
  | .presets => (path s).map fun v => { o with presets := some v }
  | .capacity => (orInvalid (capacity? s)).map fun v => { o with capacity := some v }

def setOnce (o : Options) (f : Flag) (s : String) : Except UsageStop Options :=
  if o.has f then .error .argumentConflict else o.set f s

/-- An option whose value is still to come, or came as an argument of its own. The value is looked
at when the next option comes. -/
inductive Open
  | none
  | wanted (f : Flag)
  | given (f : Flag) (value : String)

def settle (o : Options) : Open → Except UsageStop Options
  | .none => .ok o
  | .wanted _ => .error .invalidValue
  | .given f s => o.setOnce f s

def enter (o : Options) (p : Open) (f : Flag) (value : Option String) :
    Except UsageStop (Options × Open) := do
  let o ← o.settle p
  match value with
  | some s => return (← o.setOnce f s, .none)
  | .none => return (o, .wanted f)

def long (o : Options) (p : Open) (cs : List Char) : Except UsageStop (Options × Open) :=
  let (name, value) := Text.cut '=' cs
  let name := String.ofList name
  match Flag.all.find? fun f => f.long = name with
  | some f => o.enter p f (value.map String.ofList)
  | Option.none =>
    let display (stop : UsageStop) : Except UsageStop (Options × Open) := do
      if value.isSome then .error .tooManyValues
      let _ ← o.settle p
      .error stop
    if name = "help" then display .displayHelp
    else if name = "version" then display .displayVersion
    else .error .unknownArgument

def short (o : Options) (p : Open) (c : Char) (cs : List Char) :
    Except UsageStop (Options × Open) :=
  match Flag.all.find? fun f => f.short? = some c with
  | some f =>
    match cs with
    | [] => o.enter p f Option.none
    | '=' :: cs => o.enter p f (some (String.ofList cs))
    | cs => o.enter p f (some (String.ofList cs))
  | Option.none =>
    let display (stop : UsageStop) : Except UsageStop (Options × Open) := do
      let _ ← o.settle p
      .error stop
    if c = 'h' then display .displayHelp
    else if c = 'V' then display .displayVersion
    else .error .unknownArgument

def plain (o : Options) (p : Open) (s : String) : Except UsageStop (Options × Open) :=
  match p with
  | .wanted f => .ok (o, .given f s)
  | _ => .error .unknownArgument

def argument (o : Options) (p : Open) (s : String) : Except UsageStop (Options × Open) :=
  match s.toList with
  | '-' :: '-' :: cs => o.long p cs
  | '-' :: c :: cs => o.short p c cs
  | _ => o.plain p s

def arguments (o : Options) (p : Open) : List String → Except UsageStop Options
  | [] => o.settle p
  | "--" :: rest => if rest.isEmpty then o.settle p else .error .unknownArgument
  | s :: rest => do
    let (o, p) ← o.argument p s
    o.arguments p rest

def environment (env : List (String × String)) (o : Options) :
    List Flag → Except UsageStop Options
  | [] => .ok o
  | f :: fs =>
    match env.lookup f.envName with
    | some s => if o.has f then o.environment env fs else do (← o.set f s).environment env fs
    | Option.none => o.environment env fs

def parse (args : List String) (env : List (String × String)) : Except UsageStop Options := do
  (← arguments .none .none args).environment env Flag.all

def override (o : Options) (s : Settings) : Settings :=
  { s with
    listen := ⟨o.host.getD s.listen.host, o.port.getD s.listen.port⟩
    metricsPort := o.metricsPort.getD s.metricsPort
    presets := o.presets.or s.presets
    capacity := o.capacity.getD s.capacity }

/-- The settings from the file and the overrides. Those in the file are checked first, then all
together. -/
def settings (root : Node) (o : Options) : Except SettingsError Settings := do
  let base ← match o.config with
    | some path => Settings.load root path
    | .none => pure .default
  let s := o.override base
  s.check root
  return s

end Options

end StubHttp
