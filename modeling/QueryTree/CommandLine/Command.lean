import QueryTree.CommandLine.Option

/-!
# Commands

The program has three commands, which are run under the program itself with its own options.
A command line that does not fit is answered by a usage error.

## Main definitions

* `Command`: the commands; `CommandLine.global` are the options before them.
* `Command.help`: the help text of a command.
* `UsageFault`: what is wrong with a command line, with `UsageFault.report`.
-/

namespace QueryTree

/-- The commands of the program. -/
inductive Command
  | help
  | initConfig
  | parse
deriving DecidableEq, Repr

/-- What help is asked for: the program with its commands, or one of them. -/
inductive HelpTopic
  | program
  | command (c : Command)
deriving DecidableEq, Repr

/-- What is wrong with a command line. -/
inductive UsageFault
  | option (fault : OptionFault)
  | missingArgument (name : Text)
  | extraArguments (arguments : List Text)
  | notAChoice (spec : OptionSpec) (value : Text) (choices : List Text)
  | missingCommand
  | unknownCommand (name : Text) (similar : List Text)
deriving DecidableEq, Repr

namespace CommandLine

/-- The name of the program. -/
def program : Text := "boolquery".toList

/-- Asks for help. -/
def helpOption : OptionSpec := ⟨"help".toList, none, false⟩

/-- Asks for the version. -/
def versionOption : OptionSpec := ⟨"version".toList, none, false⟩

/-- Names the configuration file. -/
def configOption : OptionSpec := ⟨"config".toList, some 'c', true⟩

/-- Turns colours off. -/
def noColorOption : OptionSpec := ⟨"no-color".toList, none, false⟩

/-- Turns verbose messages on. -/
def verboseOption : OptionSpec := ⟨"verbose".toList, some 'v', false⟩

/-- Turns debug messages on. -/
def debugOption : OptionSpec := ⟨"debug".toList, none, false⟩

/-- Turns messages off that are no errors. -/
def quietOption : OptionSpec := ⟨"quiet".toList, some 'q', false⟩

/-- Names the form in which a tree is shown. -/
def formatOption : OptionSpec := ⟨"format".toList, some 'f', true⟩

/-- Allows to overwrite a file. -/
def forceOption : OptionSpec := ⟨"force".toList, some 'f', false⟩

/-- Names the file to write. -/
def outputOption : OptionSpec := ⟨"output".toList, some 'o', true⟩

/-- The options of the program. -/
def global : List OptionSpec :=
  [configOption, noColorOption, verboseOption, debugOption, quietOption, versionOption, helpOption]

/-- The line that is printed for the version. -/
def version : Text := "boolquery, version 0.1.0".toList

end CommandLine

namespace Command

/-- The commands in the order of their names. -/
def all : List Command := [.help, .initConfig, .parse]

/-- The name of a command. -/
def name : Command → Text
  | .help => "help".toList
  | .initConfig => "init-config".toList
  | .parse => "parse".toList

/-- The command of a name. -/
def ofName? (t : Text) : Option Command := all.find? (·.name = t)

/-- The options of a command. -/
def options : Command → List OptionSpec
  | .help => [CommandLine.helpOption]
  | .initConfig => [CommandLine.forceOption, CommandLine.outputOption, CommandLine.helpOption]
  | .parse => [CommandLine.formatOption, CommandLine.helpOption]

/-- How a command is called when it is run under the program. -/
def path (c : Command) : Text := CommandLine.program ++ ' ' :: c.name

end Command

namespace HelpTopic

/-- What follows the name in the usage line. -/
def pattern : HelpTopic → Text
  | .program => "[OPTIONS] COMMAND [ARGS]...".toList
  | .command .help => "[OPTIONS] [COMMAND]...".toList
  | .command .initConfig => "[OPTIONS]".toList
  | .command .parse => "[OPTIONS] QUERY".toList

/-- The usage line, for a command that is called by `path`. -/
def usage (topic : HelpTopic) (path : Text) : Text :=
  "Usage: ".toList ++ path ++ ' ' :: topic.pattern

/-- The lines of the help text after the usage line. -/
def lines : HelpTopic → List String
  | .program => [
      "",
      "  boolquery: Parse boolean queries into query trees.",
      "",
      "  Queries are groups of space-separated literals joined with '+'. Literals in a",
      "  group are AND-ed, groups are OR-ed. A literal may be a term, a \"quoted phrase\"",
      "  or a wildcard such as comp*, and a leading '-' negates it.",
      "",
      "  Configuration is loaded from ~/.config/boolquery/config.toml by default. Use",
      "  --config to specify an alternative configuration file.",
      "",
      "  Examples:",
      "",
      "      # Show the tree for a query     boolquery parse 'cat -dog + \"big fish\"'",
      "",
      "Options:",
      "  -c, --config PATH  Path to config file (default:",
      "                     ~/.config/boolquery/config.toml)",
      "  --no-color         Disable colored output",
      "  -v, --verbose      Enable verbose output",
      "  --debug            Enable debug output (implies --verbose)",
      "  -q, --quiet        Suppress non-error output",
      "  --version          Show the version and exit.",
      "  --help             Show this message and exit.",
      "",
      "Commands:",
      "  help         Show help for a command.",
      "  init-config  Create a new configuration file with default settings.",
      "  parse        Parse QUERY and show the resulting query tree."]
  | .command .help => [
      "",
      "  Show help for a command.",
      "",
      "Options:",
      "  --help  Show this message and exit."]
  | .command .initConfig => [
      "",
      "  Create a new configuration file with default settings.",
      "",
      "  Examples:",
      "",
      "    # Create config at default location",
      "    boolquery init-config",
      "",
      "    # Create config at custom location",
      "    boolquery init-config --output ./my-config.toml",
      "",
      "Options:",
      "  -f, --force        Overwrite existing config file",
      "  -o, --output PATH  Output path for config file (default:",
      "                     ~/.config/boolquery/config.toml)",
      "  --help             Show this message and exit."]
  | .command .parse => [
      "",
      "  Parse QUERY and show the resulting query tree.",
      "",
      "  Literals separated by spaces are AND-ed, groups separated by '+' are OR-ed.",
      "",
      "  Examples:",
      "",
      "    # Rich tree view",
      "    boolquery parse 'cat dog + \"big fish\"'",
      "",
      "    # JSON for scripting",
      "    boolquery parse --format json -- '-cat comp*'",
      "",
      "Options:",
      "  -f, --format [tree|json|text]  Output format  [default: tree]",
      "  --help                         Show this message and exit."]

/-- The help text, for a command that is called by `path`. -/
def help (topic : HelpTopic) (path : Text) : Text :=
  Text.joinWith ['\n'] (topic.usage path :: topic.lines.map String.toList)

end HelpTopic

/-- Names between quotes with commas between them. -/
def quotedList (names : List Text) : Text := Text.joinWith [',', ' '] (names.map Text.quoted)

/-- A question whether one of some names was meant. -/
def suggestion : List Text → Text
  | [] => []
  | [name] => " Did you mean ".toList ++ name.quoted ++ ['?']
  | names => " (Did you mean one of: ".toList ++ quotedList names ++ "?)".toList

/-- The report of a word that is refused. -/
def OptionFault.message : OptionFault → Text
  | .unknown name similar =>
    "No such option ".toList ++ name.quoted ++ '.' :: suggestion similar
  | .needsValue name => "Option ".toList ++ name.quoted ++ " requires an argument.".toList
  | .takesNoValue name => "Option ".toList ++ name.quoted ++ " does not take a value.".toList

namespace UsageFault

/-- What is wrong with a command line, in words. -/
def message : UsageFault → Text
  | .option fault => fault.message
  | .missingArgument name => "Missing argument ".toList ++ name.quoted ++ ['.']
  | .extraArguments arguments =>
    "Got unexpected extra argument".toList ++ (if arguments.length = 1 then [] else ['s'])
      ++ " (".toList ++ Text.joinWith [' '] arguments ++ [')']
  | .notAChoice spec value choices =>
    "Invalid value for ".toList ++ Text.joinWith " / ".toList (spec.names.map Text.quoted)
      ++ ": ".toList ++ value.quoted ++ " is not one of ".toList ++ quotedList choices ++ ['.']
  | .missingCommand => "Missing command.".toList
  | .unknownCommand name similar =>
    "No such command ".toList ++ name.quoted ++ '.' :: suggestion similar

/-- Whether the report says how the command is used: not if only a value is missing or
misplaced. -/
def showsUsage : UsageFault → Bool
  | .option (.needsValue _) => false
  | .option (.takesNoValue _) => false
  | _ => true

/-- The report of a usage error in a command that is called by `path`. -/
def report (fault : UsageFault) (topic : HelpTopic) (path : Text) : Text :=
  (if fault.showsUsage then
    topic.usage path ++ "\nTry ".toList ++ [Text.singleQuote] ++ path ++ " --help".toList
      ++ [Text.singleQuote] ++ " for help.\n\n".toList
  else []) ++ "Error: ".toList ++ fault.message

end UsageFault
end QueryTree
