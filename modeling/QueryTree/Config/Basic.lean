import QueryTree.Normalizer
import QueryTree.Toml.Error
import QueryTree.Files.Disk

/-!
# Configurations

A configuration says whether output is coloured and how tokens are normalized.  Its strip pattern
is any text; validation tells whether it can be read as a pattern at all, in the wide character
repertoire, while the normalizer is built in the ASCII repertoire.

## Main definitions

* `Config`: the settings, and `Config.normalizer` which they describe.
* `Config.validate`: the warnings for a configuration, or why it is refused.
* `ConfigError`, `ConfigWarning`: what can be wrong with a configuration, with their messages.
-/

namespace QueryTree

/-- The settings of the program. -/
structure Config where
  coloredOutput : Bool := true
  lowercase : Bool := true
  stripPattern : Text := ['\\', 'W']
deriving DecidableEq, Repr

/-- The names of the settings. -/
inductive SettingName
  | coloredOutput
  | lowercase
  | stripPattern
deriving DecidableEq, Repr

namespace SettingName

/-- The section of a setting. -/
def table : SettingName → Text
  | .coloredOutput => "display".toList
  | .lowercase => "normalizer".toList
  | .stripPattern => "normalizer".toList

/-- The name of a setting in its section. -/
def name : SettingName → Text
  | .coloredOutput => "colored_output".toList
  | .lowercase => "lowercase".toList
  | .stripPattern => "strip_pattern".toList

/-- The name of a setting with its section. -/
def fullName (s : SettingName) : Text := s.table ++ '.' :: s.name

end SettingName

/-- What is wrong with the value of a setting. -/
inductive SettingFault
  | notBoolean
  | notText
  | badPattern (fault : PatternFault) (place : Option PatternPlace)
deriving DecidableEq, Repr

/-- The words for what is wrong with a value. -/
def SettingFault.message : SettingFault → Text
  | .notBoolean => "must be a boolean".toList
  | .notText => "must be a string".toList
  | .badPattern fault place =>
    "invalid regex: ".toList ++ (PatternError.malformed fault place).message

/-- Why a configuration is refused. -/
inductive ConfigError
  /-- The file is not a TOML document. -/
  | malformed (source : Location) (error : Toml.Error)
  /-- A setting has a value that it may not have. -/
  | invalid (setting : SettingName) (fault : SettingFault)
deriving DecidableEq, Repr

/-- The report of a refused configuration. -/
def ConfigError.message : ConfigError → Text
  | .malformed source error =>
    "Invalid config at ".toList ++ (Path.ofLocation source).text ++ [':', ' '] ++ error.message
  | .invalid setting fault =>
    "Invalid config value for ".toList ++ [Text.singleQuote] ++ setting.fullName
      ++ [Text.singleQuote, ':', ' '] ++ fault.message

/-- What is odd about a configuration that is accepted. -/
inductive ConfigWarning
  /-- There is no file, so the standard settings are used. -/
  | missing (source : Location)
  /-- The strip pattern is empty. -/
  | emptyPattern
deriving DecidableEq, Repr

/-- The words of a warning. -/
def ConfigWarning.message : ConfigWarning → Text
  | .missing source =>
    "No config file found at ".toList ++ (Path.ofLocation source).text
      ++ ". Using defaults. Create config with: boolquery init-config".toList
  | .emptyPattern => "normalizer.strip_pattern is empty; tokens are kept verbatim".toList

/-- The values of a document that hold no others. -/
inductive PlainKind
  | integer
  | float
  | boolean
  | dateTime
  | date
  | time
deriving DecidableEq, Repr

/-- The name of a kind of values in reports. -/
def PlainKind.name : PlainKind → Text
  | .integer => "int".toList
  | .float => "float".toList
  | .boolean => "bool".toList
  | .dateTime => "datetime.datetime".toList
  | .date => "datetime.date".toList
  | .time => "datetime.time".toList

/-- A section of a configuration that is no table. -/
inductive ShapeError
  /-- The section can hold no setting. -/
  | plain (kind : PlainKind)
  /-- The section is a text in which the name of a setting occurs. -/
  | text
  /-- The section is an array with the name of a setting as an element. -/
  | array
deriving DecidableEq, Repr

/-- The report of a section that is no table. -/
def ShapeError.message : ShapeError → Text
  | .plain kind =>
    "argument of type \x27".toList ++ kind.name ++ "\x27 is not iterable".toList
  | .text => "string indices must be integers, not \x27str\x27".toList
  | .array => "list indices must be integers or slices, not str".toList

/-- Why an operation on configurations stops. -/
inductive ConfigFailure
  /-- The configuration is refused. -/
  | refused (e : ConfigError)
  /-- A section is no table. -/
  | shape (e : ShapeError)
  /-- The strip pattern is beyond what the pattern language can express. -/
  | pattern (e : PatternError)
  /-- The file does not hold a text. -/
  | undecodable (f : Utf8.Fault)
  /-- The file cannot be read or written. -/
  | disk (e : DiskError)
  /-- The path starts in a home directory that is not known. -/
  | noHome (e : NoHome)
deriving DecidableEq, Repr

/-- The report of a failure. -/
def ConfigFailure.message : ConfigFailure → Text
  | .refused e => e.message
  | .shape e => e.message
  | .pattern e => e.message
  | .undecodable f => f.message
  | .disk e => e.message
  | .noHome e => e.message

namespace Config

/-- The warnings for a configuration, or why it is refused. -/
def validate (c : Config) : Except ConfigFailure (List ConfigWarning) :=
  match Program.compile {} c.stripPattern with
  | .ok _ => .ok (if c.stripPattern.isEmpty then [.emptyPattern] else [])
  | .error (.malformed fault place) =>
    .error (.refused (.invalid .stripPattern (.badPattern fault place)))
  | .error e => .error (.pattern e)

/-- The normalizer that a configuration describes. -/
def normalizer (c : Config) : Except PatternError Normalizer :=
  Normalizer.make c.lowercase c.stripPattern

/-- Where the configuration is kept if nothing else is said. -/
def defaultPath (d : Disk) : Path :=
  .ofLocation (d.home ++ [".config".toList, "boolquery".toList, "config.toml".toList])

end Config
end QueryTree
