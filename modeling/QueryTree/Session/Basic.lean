import QueryTree.Config.Basic
import QueryTree.CommandLine.Command
import QueryTree.Terminal

/-!
# Sessions

A session is what commands act on: a terminal and a disk.  An action goes on until it is done, or
until it ends early: by leaving with an exit code, or by a failure that nobody handles.  What it
did before it ended stays done.

## Main definitions

* `Session`: a terminal and a disk.
* `Failure`: a failure that nobody handles.
* `Action`: computations on a session that may end early.
* `Outcome`: how an action ended.
-/

namespace QueryTree

/-- What commands act on. -/
structure Session where
  terminal : Terminal
  disk : Disk
deriving Repr

/-- A failure that nobody handles. -/
inductive Failure
  /-- A configuration cannot be loaded or saved. -/
  | config (e : ConfigFailure)
  /-- A normalizer cannot be built. -/
  | pattern (e : PatternError)
  /-- A message cannot be shown. -/
  | markup (e : MarkupError)
deriving DecidableEq, Repr

/-- The report of a failure. -/
def Failure.message : Failure → Text
  | .config e => e.message
  | .pattern e => e.message
  | .markup e => e.message

/-- Why an action ends early. -/
inductive Halt
  | exit (code : Nat)
  | failure (f : Failure)
deriving DecidableEq, Repr

/-- A computation on a session that may end early. -/
abbrev Action := ExceptT Halt (StateM Session)

namespace Action

/-- Ends with an exit code. -/
def exit {α : Type} (code : Nat) : Action α := throw (.exit code)

/-- Ends with a failure that nobody handles. -/
def fail {α : Type} (f : Failure) : Action α := throw (.failure f)

/-- Changes the terminal. -/
def onTerminal (f : Terminal → Terminal) : Action Unit :=
  modify fun s => { s with terminal := f s.terminal }

/-- Prints; a message that cannot be shown is a failure. -/
def printing (p : Printing Unit) : Action Unit := do
  let s ← get
  match p.run s.terminal with
  | (result, terminal) =>
    set { s with terminal := terminal }
    match result with
    | .ok () => return ()
    | .error e => fail (.markup e)

/-- Prints a text as it is. -/
def echo (stream : Stream) (t : Text) : Action Unit := onTerminal (Terminal.echo stream t)

/-- Prints what went wrong and ends with exit code 1. -/
def complain {α : Type} (message hint : Text) : Action α := do
  printing (Terminal.error message hint)
  exit 1

/-- Ends with a usage error in a command that is called by `path`. -/
def refuse {α : Type} (topic : HelpTopic) (path : Text) (fault : UsageFault) : Action α := do
  echo .errors (fault.report topic path)
  exit 2

end Action

/-- How an action ended: its exit code, and the failure if there was one. -/
structure Outcome where
  exitCode : Nat
  failure : Option Failure
deriving DecidableEq, Repr

/-- How an action ended. -/
def Outcome.of : Except Halt Unit → Outcome
  | .ok () => ⟨0, none⟩
  | .error (.exit code) => ⟨code, none⟩
  | .error (.failure f) => ⟨1, some f⟩

/-- Runs an action on a session of which nothing is printed yet. -/
def Session.perform (a : Action Unit) (s : Session) : Outcome × Session :=
  match a.run { s with terminal := s.terminal.cleared } with
  | (result, s) => (Outcome.of result, s)

end QueryTree
