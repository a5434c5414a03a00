import QueryTree.Session.InitConfig
import QueryTree.Text.Letter

/-!
# Running a command line

The program reads its own options, finds the command, sets the terminal up, loads the
configuration, and only then looks at the options of the command.

## Main definitions

* `GlobalOptions`: the options of the program.
* `Action.startUp`: what is done before every command.
* `Action.command`: a command with its command line.
* `Action.main`: a whole command line.
* `CommandLine.places`: the places that a command line looks at.
-/

namespace QueryTree

/-- The options of the program. -/
structure GlobalOptions where
  config : Option Path
  noColor : Bool
  verbose : Bool
  debug : Bool
  quiet : Bool
deriving DecidableEq, Repr

/-- The options of the program in a command line. -/
def GlobalOptions.of (r : CommandLine.Reading) : GlobalOptions where
  config := (r.value? CommandLine.configOption).map Path.ofText
  noColor := r.has CommandLine.noColorOption
  verbose := r.has CommandLine.verboseOption
  debug := r.has CommandLine.debugOption
  quiet := r.has CommandLine.quietOption

namespace Action

/-- Prints each warning. -/
def warnAll : List ConfigWarning → Action Unit
  | [] => return ()
  | w :: ws => do
    printing (Terminal.warning w.message)
    warnAll ws

/-- Sets the terminal up and loads the configuration.  Colours are turned off if an option, the
environment or the configuration says so, and they are never turned on again. -/
def startUp (o : GlobalOptions) (noColorSet : Bool) : Action Context := do
  onTerminal (Terminal.setVerbosity o.verbose o.debug)
  onTerminal (Terminal.configureLogging o.debug)
  let colorOff := o.noColor || noColorSet
  if colorOff then onTerminal (Terminal.setColor false)
  let s ← get
  match Config.load s.disk o.config with
  | .error (.refused e) => complain e.message []
  | .error e => fail (.config e)
  | .ok loaded =>
    if !colorOff && !loaded.config.coloredOutput then onTerminal (Terminal.setColor false)
    if !o.quiet then warnAll loaded.warnings
    return ⟨some loaded.config, o.verbose || o.debug, o.quiet, o.debug⟩

/-- Prints help and ends. -/
def help {α : Type} (topic : HelpTopic) (path : Text) : Action α := do
  echo .output (topic.help path)
  exit 0

/-- Obeys the first option that asks for help or the version, if there is one. -/
def obeyEager (topic : HelpTopic) (path : Text) : List Given → Action Unit
  | [] => return ()
  | g :: gs =>
    if g.option = CommandLine.helpOption then help topic path
    else if g.option = CommandLine.versionOption then do
      echo .output CommandLine.version
      exit 0
    else obeyEager topic path gs

/-- The options and arguments of a command line, once no help is asked for. -/
def readWords (topic : HelpTopic) (path : Text) (options : List OptionSpec) (mixed : Bool)
    (words : List Text) : Action CommandLine.Reading :=
  match CommandLine.read options mixed words with
  | .error fault => refuse topic path (.option fault)
  | .ok r => do
    obeyEager topic path r.given
    return r

/-- The forms that the format option chooses from. -/
def formatNames : List Text := OutputFormat.named.map Prod.fst

/-- The command that parses a query, with its command line. -/
def parseCommand (ctx : Context) (path : Text) (words : List Text) : Action Unit := do
  let topic := HelpTopic.command .parse
  let r ← readWords topic path Command.parse.options true words
  let format := (r.value? CommandLine.formatOption).getD "tree".toList
  if !formatNames.contains format then
    refuse topic path (.notAChoice CommandLine.formatOption format formatNames)
  match r.arguments with
  | [] => refuse topic path (.missingArgument "QUERY".toList)
  | [query] => parse ctx (.text query) (.ofText format)
  | _ :: extra => refuse topic path (.extraArguments extra)

/-- The command that writes a configuration file, with its command line. -/
def initConfigCommand (ctx : Context) (path : Text) (words : List Text) : Action Unit := do
  let topic := HelpTopic.command .initConfig
  let r ← readWords topic path Command.initConfig.options true words
  match r.arguments with
  | [] =>
    initConfig ctx (r.has CommandLine.forceOption)
      ((r.value? CommandLine.outputOption).map Path.ofText)
  | extra => refuse topic path (.extraArguments extra)

/-- The command that shows help for the first command that is named, with its command line. -/
def helpCommand (path : Text) (words : List Text) : Action Unit := do
  let r ← readWords (.command .help) path Command.help.options true words
  match r.arguments with
  | [] => echo .output (HelpTopic.program.help path)
  | name :: _ =>
    match Command.ofName? name with
    | none => complain ("Unknown command: ".toList ++ name) []
    | some c => echo .output ((HelpTopic.command c).help path)

/-- A command with its command line. -/
def command (ctx : Context) (path : Text) : Command → List Text → Action Unit
  | .help, words => helpCommand path words
  | .initConfig, words => initConfigCommand ctx path words
  | .parse, words => parseCommand ctx path words

/-- Whether a word in the place of a command looks like an option. -/
def looksLikeOption : Text → Bool
  | [] => false
  | c :: _ => !Text.isAlphanumeric c

/-- A whole command line; `noColorSet` is whether the environment asks for no colours. -/
def main (noColorSet : Bool) (words : List Text) : Action Unit := do
  let path := CommandLine.program
  if words.isEmpty then
    echo .errors (HelpTopic.program.help path)
    exit 2
  let r ← readWords .program path CommandLine.global false words
  match r.arguments with
  | [] => refuse .program path .missingCommand
  | name :: rest =>
    match Command.ofName? name with
    | none =>
      if looksLikeOption name then
        let _ ← readWords .program path CommandLine.global false (name :: rest)
      refuse .program path
        (.unknownCommand name (Similar.closeMatches name (Command.all.map Command.name)))
    | some c =>
      let ctx ← startUp (.of r) noColorSet
      command ctx c.path c rest

end Action

namespace CommandLine

/-- The paths that a command line looks at: that of the configuration, and that of the file to
write. -/
def paths (d : Disk) (words : List Text) : List Path :=
  match read global false words with
  | .error _ => []
  | .ok r =>
    let config := ((r.value? configOption).map Path.ofText).getD (Config.defaultPath d)
    match r.arguments with
    | [] => [config]
    | name :: rest =>
      match Command.ofName? name, read Command.initConfig.options true rest with
      | some .initConfig, .ok q =>
        [config, ((q.value? outputOption).map Path.ofText).getD (Config.defaultPath d)]
      | _, _ => [config]

/-- The places that a command line looks at, with those on the way to them. -/
def places (d : Disk) (words : List Text) : List Location :=
  (paths d words).flatMap fun p =>
    match Config.place d p with
    | .ok l => Location.ways l
    | .error _ => []

end CommandLine
end QueryTree
