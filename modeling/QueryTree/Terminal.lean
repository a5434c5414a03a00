import QueryTree.Markup.Render

/-!
# The terminal

A program prints console text to two consoles, one for output and one for errors.  Whether
messages of a kind are printed at all depends on switches, which stay as they are until they are
set again, and so do the colour switch of each console and the level of the log.

A message that cannot be shown stops what is going on, and what was printed before it stays
printed.

## Main definitions

* `Console`, `Terminal`: the consoles and the switches.
* `Printing`: computations that print.
* `Terminal.info`, `Terminal.warning`, `Terminal.error`, `Terminal.success`, `Terminal.verbose`,
  `Terminal.debug`: the kinds of messages.
* `Terminal.echo`: texts that are printed as they are.
-/

namespace QueryTree

/-- A console: whether it leaves out colours, and what was printed to it. -/
structure Console where
  noColor : Bool := false
  printed : Text := []
deriving DecidableEq, Repr

/-- From which level on records are kept in the log. -/
inductive LogLevel
  | warning
  | debug
deriving DecidableEq, Repr

/-- The name of a level. -/
def LogLevel.name : LogLevel → Text
  | .warning => "WARNING".toList
  | .debug => "DEBUG".toList

/-- The consoles, the switches for messages and the log. -/
structure Terminal where
  output : Console := {}
  errors : Console := {}
  showsVerbose : Bool := false
  showsDebug : Bool := false
  logLevel : LogLevel := .warning
  log : List Text := []
deriving DecidableEq, Repr

/-- The two consoles. -/
inductive Stream
  | output
  | errors
deriving DecidableEq, Repr

/-- A computation that prints, until a message cannot be shown. -/
abbrev Printing := ExceptT MarkupError (StateM Terminal)

namespace Terminal

/-- The console of a stream with more printed to it. -/
def append (s : Stream) (t : Text) (terminal : Terminal) : Terminal :=
  match s with
  | .output =>
    { terminal with
      output := { terminal.output with printed := terminal.output.printed ++ t } }
  | .errors =>
    { terminal with
      errors := { terminal.errors with printed := terminal.errors.printed ++ t } }

/-- The terminal with nothing printed and nothing in the log; the switches stay. -/
def cleared (terminal : Terminal) : Terminal :=
  { terminal with
    output := { terminal.output with printed := [] }
    errors := { terminal.errors with printed := [] }
    log := [] }

/-- Sets the switches for verbose and debug messages; debugging is verbose too. -/
def setVerbosity (verbose debug : Bool) (terminal : Terminal) : Terminal :=
  { terminal with showsVerbose := verbose || debug, showsDebug := debug }

/-- Turns colours on or off on both consoles. -/
def setColor (enabled : Bool) (terminal : Terminal) : Terminal :=
  { terminal with
    output := { terminal.output with noColor := !enabled }
    errors := { terminal.errors with noColor := !enabled } }

/-- Sets the level of the log. -/
def configureLogging (debug : Bool) (terminal : Terminal) : Terminal :=
  { terminal with logLevel := if debug then .debug else .warning }

/-- Whether records for debugging are kept. -/
def keepsDebug (terminal : Terminal) : Bool := terminal.logLevel = .debug

/-- Keeps records in the log. -/
def record (records : List Text) (terminal : Terminal) : Terminal :=
  { terminal with log := terminal.log ++ records }

/-- Prints a line of console text. -/
def print (s : Stream) (markup : Text) : Printing Unit :=
  match Markup.plain markup with
  | .ok t => modify (append s (t ++ ['\n']))
  | .error e => throw e

/-- Prints a message to the output. -/
def info (message : Text) : Printing Unit :=
  print .output ("[info]".toList ++ message ++ "[/info]".toList)

/-- Prints a warning. -/
def warning (message : Text) : Printing Unit :=
  print .errors ("[warning]Warning:[/warning] ".toList ++ message)

/-- Prints what went wrong, and a hint if there is one. -/
def error (message hint : Text) : Printing Unit := do
  print .errors ("[error]Error:[/error] ".toList ++ message)
  if !hint.isEmpty then print .errors ("  [info]Hint:[/info] ".toList ++ hint)

/-- Prints what was done. -/
def success (message : Text) : Printing Unit :=
  print .output ("[success]".toList ++ message ++ "[/success]".toList)

/-- Prints a message if verbose messages are shown. -/
def verbose (message : Text) : Printing Unit := do
  let terminal ← get
  if terminal.showsVerbose then info message

/-- Prints a message if debug messages are shown. -/
def debug (message : Text) : Printing Unit := do
  let terminal ← get
  if terminal.showsDebug then
    print .errors ("[warning]\\[DEBUG][/warning] ".toList ++ message)

/-- Whether a character may stand between the start and the final letter of a control
sequence. -/
def isSequenceChar (c : Char) : Bool := c = ';' || c = '?' || Text.isAsciiDigit c

/-- The number of characters of the control sequence at the front of a text, if there is one. -/
def sequenceLength? : Text → Option Nat
  | '\x1b' :: '[' :: rest =>
    match (rest.dropWhile isSequenceChar).head? with
    | some c =>
      if Text.isAsciiLetter c then some ((rest.takeWhile isSequenceChar).length + 3) else none
    | none => none
  | _ => none

/-- The rest of a text without control sequences; `skip` characters are dealt with already. -/
def withoutSequences (skip : Nat) : Text → Text
  | [] => []
  | c :: cs =>
    match skip with
    | n + 1 => withoutSequences n cs
    | 0 =>
      match sequenceLength? (c :: cs) with
      | some (n + 1) => withoutSequences n cs
      | _ => c :: withoutSequences 0 cs

/-- Prints a line of text as it is, but for control sequences. -/
def echo (s : Stream) (t : Text) (terminal : Terminal) : Terminal :=
  terminal.append s (withoutSequences 0 t ++ ['\n'])

end Terminal
end QueryTree
