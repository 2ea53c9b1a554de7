/-!
# Arguments of the command line

Two commands: `inspect FILE`, with the options `--config FILE` and `--fallback`, and `extenders`.
The option `--log FILTER` may stand before and behind the command; behind it, it counts. How options
and values may be written is the documented behaviour of a package outside the repository.
-/

namespace OpGraph

/-- What the program is asked to do. -/
inductive Command where
  | inspect (path : String) (config : Option String) (fallback : Bool)
  | extenders
  deriving DecidableEq, Repr

def Command.files : Command → List String
  | inspect path config _ => config.toList ++ [path]
  | extenders => []

/-- What the arguments ask for: a command with a log filter, the version, or help. -/
inductive Request where
  | run (log : String) (command : Command)
  | version
  | help
  deriving DecidableEq, Repr

namespace Request

def files : Request → List String
  | run _ command => command.files
  | version | help => []

/-- An argument as it is understood before `--`. -/
inductive Argument where
  | long (name : String) (value : Option String)
  | short (letter : Char)
  | separator
  | plain (text : String)

def Argument.ofString (text : String) : Argument :=
  match text.toList with
  | ['-', '-'] => .separator
  | '-' :: '-' :: cs =>
    match cs.span (· != '=') with
    | (name, _ :: value) => .long (String.ofList name) (some (String.ofList value))
    | (name, []) => .long (String.ofList name) none
  | '-' :: c :: _ => .short c
  | _ => .plain text

/-- The value of an option and the arguments behind it. A value that is an argument of its own must
not look like an option. -/
def takeValue (inline : Option String) (rest : List String) : Option (String × List String) :=
  match inline, rest with
  | some value, rest => some (value, rest)
  | none, text :: rest =>
    match Argument.ofString text with
    | .plain value => some (value, rest)
    | _ => none
  | none, [] => none

/-- The options behind a command. -/
structure Options where
  log : Option String := none
  path : Option String := none
  config : Option String := none
  fallback : Bool := false

/-- The value of an option that may be given once. -/
def once (old : Option String) (value : String) : Option (Option String) :=
  if old.isSome then none else some (some value)

def onceFile (old : Option String) (value : String) : Option (Option String) :=
  if value = "" then none else once old value

/-- What comes of reading the arguments behind a command. -/
inductive Reading where
  | options (o : Options)
  -- help was asked for before any fault
  | help

def readFiles (o : Options) : List String → Option Reading
  | [] => some (.options o)
  | text :: rest => do readFiles { o with path := ← onceFile o.path text } rest

/-- Read the arguments behind a command. Only inspection takes files and options of its own. At most
as many steps are needed as there are arguments. -/
def readOptions (inspecting : Bool) : Nat → Options → List String → Option Reading
  | _, o, [] => some (.options o)
  | 0, _, _ => none
  | fuel + 1, o, text :: rest =>
    match Argument.ofString text, inspecting with
    | .long "log" value, _ => do
      let (value, rest) ← takeValue value rest
      readOptions inspecting fuel { o with log := ← once o.log value } rest
    | .long "help" none, _ => some .help
    | .short 'h', _ => some .help
    | .long "config" value, true => do
      let (value, rest) ← takeValue value rest
      readOptions inspecting fuel { o with config := ← onceFile o.config value } rest
    | .long "fallback" none, true =>
      if o.fallback then none else readOptions inspecting fuel { o with fallback := true } rest
    | .plain text, true => do
      readOptions inspecting fuel { o with path := ← onceFile o.path text } rest
    | .separator, true => readFiles o rest
    | .separator, false => if rest = [] then some (.options o) else none
    | _, _ => none

def defaultLog : String := "warn"

/-- Read the arguments behind the name of a command. -/
def readCommand (log : Option String) (command : String) (rest : List String) : Option Request :=
  match command with
  | "inspect" => do
    match ← readOptions true rest.length {} rest with
    | .help => return .help
    | .options o =>
      return .run ((o.log.or log).getD defaultLog) (.inspect (← o.path) o.config o.fallback)
  | "extenders" => do
    match ← readOptions false rest.length {} rest with
    | .help => return .help
    | .options o => return .run ((o.log.or log).getD defaultLog) .extenders
  | "help" =>
    match rest with
    | [] | ["inspect"] | ["extenders"] | ["help"] => some .help
    | _ => none
  | _ => none

/-- Read arguments with at most a given number of options before the command. -/
def readTop : Nat → Option String → List String → Option Request
  | _, _, [] => none
  | 0, _, _ => none
  | fuel + 1, log, text :: rest =>
    match Argument.ofString text with
    | .long "log" value => do
      let (value, rest) ← takeValue value rest
      readTop fuel (← once log value) rest
    | .long "help" none => some .help
    | .short 'h' => some .help
    | .long "version" none => some .version
    | .short 'V' => some .version
    | .plain command => readCommand log command rest
    | _ => none

/-- What the arguments ask for; nothing if they are not understood. -/
def ofArguments? (arguments : List String) : Option Request :=
  readTop arguments.length none arguments

end Request

end OpGraph
