import CodeSearch.Text.Digits

/-!
# The command line

What the arguments ask for. They are read from left to right: options, then a command, then the options and
operands of the command. Options that all commands share may stand before and after its name; what stands
after it wins.
-/

namespace CodeSearch.Cli

inductive Format where
  | human | json
  deriving DecidableEq, Repr

inductive Command where
  /-- Serves requests at an address, or at the configured one. -/
  | serve (address : Option String) (logJson : Bool)
  | checkConfig (noDiscovery : Bool)
  /-- Synchronizes some repositories; all of them if none is named. -/
  | sync (repos : List String)
  deriving DecidableEq, Repr

structure Arguments where
  config : Option String
  format : Format
  command : Command
  deriving DecidableEq, Repr

/-- Why there is no command to run. -/
inductive Stop where
  | help
  /-- The version is asked for, of the whole or of a command. -/
  | version (command : Option String)
  | usage
  deriving DecidableEq, Repr

def Arguments.logJson (a : Arguments) : Bool :=
  match a.command with
  | .serve _ logJson => logJson
  | _ => false

/-- What is known of the arguments at some point of the line. -/
structure Given where
  config : Option String
  format : Option Format
  address : Option String
  logJson : Bool
  noDiscovery : Bool
  operands : List String
  deriving DecidableEq, Repr

def Given.none : Given := ⟨.none, .none, .none, false, false, []⟩

inductive Opt where
  | config | format | address | logJson | noDiscovery | help | version
  deriving DecidableEq, Repr

def Opt.takesValue : Opt → Bool
  | .config | .format | .address => true
  | _ => false

inductive Place where
  | top | serve | checkConfig | sync
  deriving DecidableEq, Repr

namespace Place

def command? : Place → Option String
  | .top => none
  | .serve => some "serve"
  | .checkConfig => some "check-config"
  | .sync => some "sync"

def ofCommand? (name : String) : Option Place :=
  [serve, checkConfig, sync].find? fun p => p.command? == some name

def long? (p : Place) (name : String) : Option Opt :=
  match name, p with
  | "config", _ => some .config
  | "format", _ => some .format
  | "help", _ => some .help
  | "version", _ => some .version
  | "addr", .serve => some .address
  | "log-json", .serve => some .logJson
  | "no-discovery", .checkConfig => some .noDiscovery
  | _, _ => none

end Place

def short? (c : Char) : Option Opt :=
  match c with
  | 'c' => some .config
  | 'h' => some .help
  | 'V' => some .version
  | _ => none

structure Reading where
  place : Place
  given : Given
  /-- An option whose value, if it is there already, has not been looked at. -/
  pending : Option (Opt × Option String)
  deriving DecidableEq, Repr

namespace Reading

def start (place : Place) : Reading := ⟨place, .none, .none⟩

/-- Gives an option its value. An option may be given once, and its value has to fit. -/
def give (g : Given) (opt : Opt) (value : String) : Except Stop Given :=
  match opt with
  | .config =>
    if g.config.isSome || value.isEmpty then .error .usage else .ok { g with config := some value }
  | .format =>
    if g.format.isSome then .error .usage
    else if value == "human" then .ok { g with format := some .human }
    else if value == "json" then .ok { g with format := some .json }
    else .error .usage
  | .address => if g.address.isSome then .error .usage else .ok { g with address := some value }
  | _ => .error .usage

def resolve (r : Reading) : Except Stop Reading :=
  match r.pending with
  | none => .ok r
  | some (_, none) => .error .usage
  | some (opt, some value) => do return { r with given := ← give r.given opt value, pending := none }

def flag (r : Reading) (opt : Opt) : Except Stop Reading := do
  let r ← r.resolve
  match opt with
  | .help => .error .help
  | .version => .error (.version r.place.command?)
  | .logJson =>
    if r.given.logJson then .error .usage else .ok { r with given := { r.given with logJson := true } }
  | .noDiscovery =>
    if r.given.noDiscovery then .error .usage
    else .ok { r with given := { r.given with noDiscovery := true } }
  | _ => .ok { r with pending := some (opt, none) }

def attached (r : Reading) (opt : Opt) (value : String) : Except Stop Reading :=
  if opt.takesValue then do
    let r ← r.resolve
    return { r with given := ← give r.given opt value }
  else .error .usage

/-- Meets a long option, with its name and perhaps a value after an equals sign. -/
def long (r : Reading) (cs : List Char) : Except Stop Reading :=
  let name := cs.takeWhile (· != '=')
  match r.place.long? (String.ofList name), cs.drop name.length with
  | none, _ => .error .usage
  | some opt, [] => r.flag opt
  | some opt, _ :: value => r.attached opt (String.ofList value)

/-- Meets short options in one word. The rest of the word after one that needs a value is its value. -/
def short (r : Reading) : List Char → Except Stop Reading
  | [] => .ok r
  | c :: cs =>
    match short? c with
    | none => .error .usage
    | some opt =>
      if opt.takesValue && !cs.isEmpty then
        r.attached opt (String.ofList (if cs.head? == some '=' then cs.drop 1 else cs))
      else
        match r.flag opt with
        | .ok r => r.short cs
        | .error stop => .error stop

/-- Meets an operand. Only one command takes operands. -/
def operand (r : Reading) (arg : String) : Except Stop Reading :=
  if r.place = .sync then do
    let r ← r.resolve
    return { r with given := { r.given with operands := r.given.operands ++ [arg] } }
  else .error .usage

/-- Meets a word before the mark that ends the options. -/
def word (r : Reading) (arg : String) : Except Stop Reading :=
  match arg.toList with
  | '-' :: '-' :: cs => r.long cs
  | '-' :: c :: cs => r.short (c :: cs)
  | _ =>
    match r.pending with
    | some (opt, none) => .ok { r with pending := some (opt, some arg) }
    | _ => r.operand arg

def operands (r : Reading) : List String → Except Stop Reading
  | [] => .ok r
  | arg :: args => do (← r.operand arg).operands args

def waits (r : Reading) : Bool :=
  match r.pending with
  | some (_, none) => true
  | _ => false

def afterCommand (r : Reading) : List String → Except Stop Reading
  | [] => r.resolve
  | arg :: args =>
    if arg == "--" then do (← r.operands args).resolve
    else
      match r.word arg with
      | .ok r => r.afterCommand args
      | .error stop => .error stop

end Reading

/-- Help is there for the whole, for each command and for itself. -/
def helpFor (args : List String) : Stop :=
  match args with
  | [] => .help
  | [name] => if name == "help" || (Place.ofCommand? name).isSome then .help else .usage
  | _ => .usage

def commandOf (place : Place) (g : Given) : Except Stop Command :=
  match place with
  | .top => .error .usage
  | .serve => .ok (.serve g.address g.logJson)
  | .checkConfig => .ok (.checkConfig g.noDiscovery)
  | .sync => .ok (.sync g.operands)

def combine (place : Place) (before after : Given) : Except Stop Arguments := do
  return {
    config := after.config <|> before.config
    format := (after.format <|> before.format).getD .human
    command := ← commandOf place after }

/-- Reads the arguments up to a command, and from it on. -/
def parseFrom (r : Reading) : List String → Except Stop Arguments
  | [] => .error .usage
  | arg :: args =>
    let next : Except Stop Arguments :=
      match r.word arg with
      | .ok r => parseFrom r args
      | .error stop => .error stop
    if r.waits then next
    else if arg == "help" then .error (helpFor args)
    else
      match Place.ofCommand? arg with
      | some place => do
        let after ← (Reading.start place).afterCommand args
        let before ← r.resolve
        combine place before.given after.given
      | none => next

def parse (args : List String) : Except Stop Arguments := parseFrom (.start .top) args

end CodeSearch.Cli
