/-!
# Arguments

The arguments of the program: a command with its options, and options that may stand before or
after the command. Options are long (`--name value`, `--name=value`) or short (`-n value`,
`-nvalue`, `-n=value`), and short ones without a value may share one dash. A value that is an
argument of its own does not start with a dash. After `--` there are no options.
-/

namespace DataAccess.CommandLine

/-- Where the catalog of a command comes from. -/
structure Source where
  schema : Option String := none
  url : Option String := none
  snapshot : Option String := none
  deriving DecidableEq

/-- What the program is asked to do. -/
inductive Command where
  | generate (source : Source) (outDir : Option String) (comments : Bool)
  | tables (source : Source)
  | inspect (source : Source) (table : String)
  | snapshot (source : Source) (output : Option String)
  deriving DecidableEq

/-- A command and the settings file for it. -/
structure Invocation where
  config : Option String := none
  command : Command
  deriving DecidableEq

/-- Why there is nothing to run. -/
inductive Stop where
  /-- The arguments are not understood. -/
  | usage
  | help
  | version
  deriving DecidableEq

/-- The commands of the program. -/
inductive CommandName where
  | generate
  | tables
  | inspect
  | snapshot
  deriving DecidableEq

namespace CommandName

/-- All commands. -/
def all : List CommandName :=
  [generate, tables, inspect, snapshot]

/-- How a command is called on the command line. -/
def text : CommandName → String
  | generate => "generate"
  | tables => "tables"
  | inspect => "inspect"
  | snapshot => "snapshot"

/-- The command with a name. -/
def ofText? (text : String) : Option CommandName :=
  all.find? (·.text == text)

end CommandName

/-- Options that take a value. -/
inductive ValueOption where
  | config
  | schema
  | url
  | snapshot
  /-- Where the output goes: a directory for generated classes, a file for a snapshot. -/
  | output
  deriving DecidableEq

/-- Whether the value is a path, which may not be empty. -/
def ValueOption.isPath : ValueOption → Bool
  | config | snapshot | output => true
  | schema | url => false

/-- What an option means. -/
inductive OptionMeaning where
  | takesValue (option : ValueOption)
  | verbose
  | noComments
  | stops (stop : Stop)
  deriving DecidableEq

/-- The place of an argument: before the command, or after it. -/
abbrev Level := Option CommandName

/-- The long options that every command has. -/
def commonLong : List (String × OptionMeaning) :=
  [("config", .takesValue .config), ("verbose", .verbose), ("help", .stops .help)]

/-- The short options that every command has. -/
def commonShort : List (Char × OptionMeaning) :=
  [('c', .takesValue .config), ('v', .verbose), ('h', .stops .help)]

/-- The long options that say where the catalog comes from. -/
def sourceLong : List (String × OptionMeaning) :=
  [ ("schema", .takesValue .schema), ("url", .takesValue .url),
    ("snapshot", .takesValue .snapshot) ]

/-- The short options that say where the catalog comes from. -/
def sourceShort : List (Char × OptionMeaning) :=
  [('s', .takesValue .schema), ('u', .takesValue .url)]

/-- The long options of the program or of a command. -/
def longOptions : Level → List (String × OptionMeaning)
  | none => ("version", .stops .version) :: commonLong
  | some .generate =>
    ("out-dir", .takesValue .output) :: ("no-comments", .noComments) ::
      (sourceLong ++ commonLong)
  | some .snapshot => ("output", .takesValue .output) :: (sourceLong ++ commonLong)
  | some .tables | some .inspect => sourceLong ++ commonLong

/-- The short options of the program or of a command. -/
def shortOptions : Level → List (Char × OptionMeaning)
  | none => ('V', .stops .version) :: commonShort
  | some .generate | some .snapshot => ('o', .takesValue .output) :: (sourceShort ++ commonShort)
  | some .tables | some .inspect => sourceShort ++ commonShort

/-- What one argument is. -/
inductive Argument where
  /-- The dashes after which there are no options. -/
  | separator
  | positional (text : String)
  | verbose
  | noComments
  | value (option : ValueOption) (text : String)
  /-- An option whose value is the next argument. -/
  | needsValue (option : ValueOption)
  deriving DecidableEq

/-- A long option, without its dashes. -/
def longArgument (level : Level) (text : List Char) : Except Stop Argument :=
  let name := String.ofList (text.takeWhile (· ≠ '='))
  match (longOptions level).lookup name, text.dropWhile (· ≠ '=') with
  | none, _ => .error .usage
  | some (.takesValue option), [] => .ok (.needsValue option)
  | some (.takesValue option), _ :: attached => .ok (.value option (String.ofList attached))
  | some .verbose, [] => .ok .verbose
  | some .noComments, [] => .ok .noComments
  | some (.stops stop), [] => .error stop
  | some _, _ :: _ => .error .usage

/-- Reads short options that share one dash, up to one that takes a value. -/
def shortArguments (level : Level) : List Char → Except Stop Argument
  | [] => .ok .verbose
  | name :: rest =>
    match (shortOptions level).lookup name with
    | none => .error .usage
    | some .verbose => shortArguments level rest
    | some .noComments => .error .usage
    | some (.stops stop) => .error stop
    | some (.takesValue option) =>
      match rest with
      | [] => .ok (.needsValue option)
      | '=' :: attached => .ok (.value option (String.ofList attached))
      | attached => .ok (.value option (String.ofList attached))

/-- What an argument is at its place. A dash alone is no option. -/
def argumentAt (level : Level) (text : String) : Except Stop Argument :=
  match text.toList with
  | ['-', '-'] => .ok .separator
  | '-' :: '-' :: rest => longArgument level rest
  | '-' :: next :: rest => shortArguments level (next :: rest)
  | _ => .ok (.positional text)

/-- Whether an argument can be the value of the option before it. -/
def isPlainValue (text : String) : Bool :=
  match text.toList with
  | '-' :: _ :: _ => false
  | _ => true

/-- What was given at one place. -/
structure Given where
  values : List (ValueOption × String) := []
  noComments : Bool := false
  positional : Option String := none
  deriving DecidableEq

namespace Given

/-- The value that an option was given. -/
def value? (given : Given) (option : ValueOption) : Option String :=
  given.values.lookup option

/-- Takes a value; an option may be given once, and a path has to be one. -/
def addValue (given : Given) (option : ValueOption) (text : String) : Except Stop Given :=
  if (given.value? option).isSome || (option.isPath && text.isEmpty) then .error .usage
  else .ok { given with values := given.values ++ [(option, text)] }

/-- The given arguments with comments switched off, which can be done once. -/
def addNoComments (given : Given) : Except Stop Given :=
  if given.noComments then .error .usage else .ok { given with noComments := true }

/-- Takes an argument that is no option; only the inspection of a table has one. -/
def addPositional (given : Given) (name : CommandName) (text : String) : Except Stop Given :=
  if name = .inspect && given.positional.isNone then
    .ok { given with positional := some text }
  else .error .usage

/-- Where the given arguments say that the catalog comes from. -/
def source (given : Given) : Source :=
  { schema := given.value? .schema
    url := given.value? .url
    snapshot := given.value? .snapshot }

/-- The command with all that was given for it. A catalog comes from one place. -/
def command (given : Given) (name : CommandName) : Except Stop Command :=
  if (given.value? .url).isSome && (given.value? .snapshot).isSome then .error .usage
  else
    match name, given.positional with
    | .generate, _ => .ok (.generate given.source (given.value? .output) (!given.noComments))
    | .tables, _ => .ok (.tables given.source)
    | .inspect, some table => .ok (.inspect given.source table)
    | .inspect, none => .error .usage
    | .snapshot, _ => .ok (.snapshot given.source (given.value? .output))

end Given

/-- The arguments after the separator; there has to be a command before it. -/
def scanPositionals (name : CommandName) : Given → List String → Except Stop Given
  | given, [] => .ok given
  | given, text :: rest => do
    let given ← given.addPositional name text
    scanPositionals name given rest

/-- Reads the arguments of a command. -/
def scanCommand (name : CommandName) : Given → List String → Except Stop Given
  | given, [] => .ok given
  | given, text :: rest => do
    match ← argumentAt (some name) text with
    | .separator => scanPositionals name given rest
    | .positional text => scanCommand name (← given.addPositional name text) rest
    | .verbose => scanCommand name given rest
    | .noComments => scanCommand name (← given.addNoComments) rest
    | .value option value => scanCommand name (← given.addValue option value) rest
    | .needsValue option =>
      match rest with
      | [] => .error .usage
      | value :: rest =>
        if isPlainValue value then scanCommand name (← given.addValue option value) rest
        else .error .usage

/-- What the words after a request for help ask for. -/
def helpOn : List String → Stop
  | [] => .help
  | [word] =>
    if word = "help" || (CommandName.ofText? word).isSome then .help else .usage
  | _ => .usage

/-- The command, with the arguments after it. -/
def commandOf (config : Option String) (word : String) (rest : List String) :
    Except Stop Invocation :=
  if word = "help" then .error (helpOn rest)
  else
    match CommandName.ofText? word with
    | none => .error .usage
    | some name => do
      let given ← scanCommand name {} rest
      let command ← given.command name
      .ok { config := (given.value? .config).or config, command }

/-- Reads the arguments of the program up to the name of a command. -/
def scan : Given → List String → Except Stop Invocation
  | _, [] => .error .usage
  | given, text :: rest => do
    match ← argumentAt none text with
    | .separator => .error .usage
    | .positional word => commandOf (given.value? .config) word rest
    | .verbose => scan given rest
    | .noComments => .error .usage
    | .value option value => scan (← given.addValue option value) rest
    | .needsValue option =>
      match rest with
      | [] => .error .usage
      | value :: rest =>
        if isPlainValue value then scan (← given.addValue option value) rest
        else .error .usage

/-- Reads a command line. -/
def parse (arguments : List String) : Except Stop Invocation :=
  scan {} arguments

end DataAccess.CommandLine
