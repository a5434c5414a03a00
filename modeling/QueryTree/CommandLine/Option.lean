import QueryTree.CommandLine.Similar
import QueryTree.Text.Quoted

/-!
# Options and arguments

A command line is a list of words.  A word with a leading dash names options, a word of two dashes
ends them, and every other word is an argument.  A long name may carry its value after an equals
sign; letters may be joined behind one dash, the last of them with its value.

## Main definitions

* `OptionSpec`: an option that a command knows.
* `Given`: an option as it was given.
* `OptionFault`: why a word is refused.
* `CommandLine.read`: the options and arguments of a command line.
-/

namespace QueryTree

/-- An option that a command knows. -/
structure OptionSpec where
  /-- The name after two dashes. -/
  name : Text
  /-- The letter that stands for it after one dash. -/
  letter : Option Char
  takesValue : Bool
deriving DecidableEq, Repr

namespace OptionSpec

/-- The long name with its dashes. -/
def longName (o : OptionSpec) : Text := '-' :: '-' :: o.name

/-- All names with their dashes. -/
def names (o : OptionSpec) : List Text :=
  o.longName :: (o.letter.map fun c => ['-', c]).toList

end OptionSpec

/-- An option as it was given, with its value if it takes one. -/
structure Given where
  option : OptionSpec
  value : Text
deriving DecidableEq, Repr

/-- Why a word of a command line is refused. -/
inductive OptionFault
  /-- The name is not known; there may be similar ones. -/
  | unknown (name : Text) (similar : List Text)
  /-- No value follows. -/
  | needsValue (name : Text)
  /-- A value is given where none is taken. -/
  | takesNoValue (name : Text)
deriving DecidableEq, Repr

namespace CommandLine

/-- What a word says: options with their values, and perhaps one more that takes the next word as
its value, with the name that it was given by. -/
structure WordReading where
  given : List Given
  pending : Option (OptionSpec × Text)
deriving DecidableEq, Repr

/-- A word with a long name, and with the value that it carries if there is one. -/
def readLong (options : List OptionSpec) (name : Text) (value : Option Text) :
    Except OptionFault WordReading :=
  match options.find? (·.longName = name), value with
  | none, _ => .error (.unknown name (Similar.closeMatches name (options.map (·.longName))))
  | some o, none =>
    .ok (if o.takesValue then ⟨[], some (o, name)⟩ else ⟨[⟨o, []⟩], none⟩)
  | some o, some v =>
    if o.takesValue then .ok ⟨[⟨o, v⟩], none⟩ else .error (.takesNoValue name)

/-- The letters of a word after its dash. -/
def readLetters (options : List OptionSpec) : Text → Except OptionFault WordReading
  | [] => .ok ⟨[], none⟩
  | c :: cs =>
    match options.find? (·.letter = some c) with
    | none => .error (.unknown ['-', c] [])
    | some o =>
      if o.takesValue then
        .ok (if cs.isEmpty then ⟨[], some (o, ['-', c])⟩ else ⟨[⟨o, cs⟩], none⟩)
      else (readLetters options cs).map fun r => { r with given := ⟨o, []⟩ :: r.given }

/-- A word with a leading dash and more. -/
def readWord (options : List OptionSpec) (word : Text) : Except OptionFault WordReading :=
  match word with
  | '-' :: '-' :: _ =>
    if word.contains '=' then
      readLong options (word.takeWhile (· ≠ '=')) (some ((word.dropWhile (· ≠ '=')).drop 1))
    else readLong options word none
  | _ => readLetters options (word.drop 1)

/-- A command line taken apart. -/
structure Reading where
  /-- The options in the order in which they were given. -/
  given : List Given
  arguments : List Text
deriving DecidableEq, Repr

/-- Whether a word names options. -/
def isOptionWord : Text → Bool
  | '-' :: _ :: _ => true
  | _ => false

/-- The options and arguments of a command line.  If `mixed` does not hold, the first argument
ends the options. -/
def read (options : List OptionSpec) (mixed : Bool) : List Text → Except OptionFault Reading
  | [] => .ok ⟨[], []⟩
  | word :: words =>
    if word = ['-', '-'] then .ok ⟨[], words⟩
    else if isOptionWord word then
      match readWord options word with
      | .error e => .error e
      | .ok ⟨given, none⟩ =>
        (read options mixed words).map fun r => { r with given := given ++ r.given }
      | .ok ⟨given, some (o, name)⟩ =>
        match words with
        | [] => .error (.needsValue name)
        | value :: words =>
          (read options mixed words).map fun r => { r with given := given ++ ⟨o, value⟩ :: r.given }
    else if mixed then
      (read options mixed words).map fun r => { r with arguments := word :: r.arguments }
    else .ok ⟨[], word :: words⟩

namespace Reading

/-- Whether an option was given. -/
def has (r : Reading) (o : OptionSpec) : Bool := r.given.any (·.option = o)

/-- The last value that was given to an option. -/
def value? (r : Reading) (o : OptionSpec) : Option Text :=
  (r.given.reverse.find? (·.option = o)).map Given.value

end Reading
end CommandLine
end QueryTree
