import Mathlib.Data.List.Induction
import QueryTree.Proofs.InitConfig
import QueryTree.Session.Run

/-!
# The switches of a session

The commands of a session are run one after the other on one terminal, and its switches stay as
they are until they are set again.  They are set in one place only: when the program is set up,
which happens once a command line was read and a command was found in it, and before the command
looks at its own options.  A command line that is refused, one that asks for help and a command that
is run by itself leave the switches alone.

The switches for messages and the level of the log are set anew each time, so they are those of the
last time that the program was set up.  Colours are only ever turned off, so they are off once any
of the times turned them off.

## Main definitions

* `CommandLine.startOptions?`: the options that the program is set up with, if it is.
* `Call`: what can be called in a session; `Call.start?` is how it sets the program up.
* `Step`, `Session.run`: calls one after the other, and what others do to the disk in between.

## Main results

* `Action.switches_startUp` — what setting up does to the switches, however it ends.
* `Action.main_eq_startUp`, `Action.keeps_main` — the program is set up, or it keeps the switches.
* `Session.switches_step` — **the switches after one step.**
* `Session.switches_run_steps` — **the switches after any number of steps.**
-/

namespace QueryTree

open Session (setting)

variable {α : Type}

/-! ### Command lines that set the program up -/

namespace CommandLine

/-- Whether an option is obeyed at once, so that nothing else is done. -/
def isEager (o : OptionSpec) : Bool := o = helpOption || o = versionOption

/-- The options that the program is set up with: those of a command line that can be read, that
asks neither for help nor for the version, and that names a command. -/
def startOptions? (words : List Text) : Option GlobalOptions :=
  match read global false words with
  | .error _ => none
  | .ok r =>
    if r.given.any fun g => isEager g.option then none
    else r.arguments.head?.bind fun name => (Command.ofName? name).map fun _ => .of r

theorem startOptions?_eq_some {words : List Text} {r : Reading} {name : Text} {rest : List Text}
    {c : Command} (hread : read global false words = .ok r)
    (heager : (r.given.any fun g => isEager g.option) = false)
    (harguments : r.arguments = name :: rest)
    (hname : Command.ofName? name = some c) : startOptions? words = some (.of r) := by
  simp [startOptions?, hread, heager, harguments, hname]

/-- How a command line sets the program up. -/
theorem exists_of_startOptions?_eq_some {words : List Text} {o : GlobalOptions}
    (h : startOptions? words = some o) :
    ∃ r name rest c, read global false words = .ok r ∧
      (r.given.any fun g => isEager g.option) = false ∧ r.arguments = name :: rest ∧
      Command.ofName? name = some c ∧ o = .of r := by
  unfold startOptions? at h
  split at h
  · cases h
  · next r hread =>
    split at h
    · cases h
    · next heager =>
      obtain ⟨name, hhead, hname⟩ := Option.bind_eq_some_iff.mp h
      obtain ⟨rest, harguments⟩ := List.head?_eq_some_iff.mp hhead
      obtain ⟨c, hc, rfl⟩ := Option.map_eq_some_iff.mp hname
      exact ⟨r, name, rest, c, hread, by simpa using heager, harguments, hc, rfl⟩

end CommandLine

namespace Action

variable {topic : HelpTopic} {path : Text} {given : List Given}

theorem keeps_refuse (topic : HelpTopic) (path : Text) (fault : UsageFault) :
    Keeps setting (refuse topic path fault : Action α) :=
  (keeps_echo ..).bind fun _ => keeps_exit 2

theorem not_returns_refuse (fault : UsageFault) (x : α) :
    ¬Returns (refuse topic path fault : Action α) x := by
  intro h
  obtain ⟨_, -, h⟩ := h.of_bind
  exact not_returns_throw _ _ h

theorem keeps_help (topic : HelpTopic) (path : Text) : Keeps setting (help topic path : Action α) :=
  (keeps_echo ..).bind fun _ => keeps_exit 0

theorem keeps_obeyEager (topic : HelpTopic) (path : Text) (given : List Given) :
    Keeps setting (obeyEager topic path given) := by
  induction given with
  | nil => exact keeps_pure ()
  | cons g given ih =>
    unfold obeyEager
    exact (keeps_help ..).ite (((keeps_echo ..).bind fun _ => keeps_exit 0).ite ih)

/-- Where nothing asks for help or the version, nothing is done. -/
theorem obeyEager_eq_pure (h : (given.any fun g => CommandLine.isEager g.option) = false) :
    obeyEager topic path given = pure () := by
  induction given with
  | nil => rfl
  | cons g given ih =>
    rw [List.any_cons, Bool.or_eq_false_iff, CommandLine.isEager, Bool.or_eq_false_iff,
      decide_eq_false_iff_not, decide_eq_false_iff_not] at h
    rw [obeyEager, if_neg h.1.1, if_neg h.1.2, ih h.2]

/-- What asks for help or the version ends the command. -/
theorem not_returns_obeyEager (h : (given.any fun g => CommandLine.isEager g.option) = true) :
    ¬Returns (obeyEager topic path given) () := by
  have hends : ∀ {u : Text}, ¬Returns (echo .output u >>= fun _ => exit 0 : Action Unit) () := by
    intro u hreturns
    obtain ⟨_, -, hreturns⟩ := hreturns.of_bind
    exact not_returns_throw _ _ hreturns
  induction given with
  | nil => cases h
  | cons g given ih =>
    unfold obeyEager
    split
    · exact hends
    · next hhelp =>
      split
      · exact hends
      · next hversion =>
        refine ih ?_
        simpa [CommandLine.isEager, hhelp, hversion] using h

theorem keeps_readWords (topic : HelpTopic) (path : Text) (options : List OptionSpec) (mixed : Bool)
    (words : List Text) : Keeps setting (readWords topic path options mixed words) := by
  unfold readWords
  split
  · exact keeps_refuse ..
  · exact (keeps_obeyEager ..).bind fun _ => keeps_pure _

variable {options : List OptionSpec} {mixed : Bool} {words : List Text} {r : CommandLine.Reading}

/-- A command line is read to its end only if it can be read and asks for no help. -/
theorem of_returns_readWords (h : Returns (readWords topic path options mixed words) r) :
    CommandLine.read options mixed words = .ok r ∧
      (r.given.any fun g => CommandLine.isEager g.option) = false := by
  unfold readWords at h
  split at h
  · exact absurd h (not_returns_refuse _ _)
  · next r' hread =>
    obtain ⟨_, heager, s, hpure⟩ := h.of_bind
    obtain rfl : r' = r := Except.ok.inj hpure
    refine ⟨hread, ?_⟩
    by_contra hany
    exact not_returns_obeyEager (by simpa using hany) heager

theorem readWords_eq_pure (hread : CommandLine.read options mixed words = .ok r)
    (heager : (r.given.any fun g => CommandLine.isEager g.option) = false) :
    readWords topic path options mixed words = pure r := by
  unfold readWords
  rw [hread]
  dsimp only
  rw [obeyEager_eq_pure heager, pure_bind]

/-! ### Commands keep the switches -/

theorem keeps_parseCommand (ctx : Context) (path : Text) (words : List Text) :
    Keeps setting (parseCommand ctx path words) := by
  unfold parseCommand
  refine (keeps_readWords ..).bind fun r => Keeps.ite ((keeps_refuse ..).bind fun _ => ?_) ?_
  -- what is behind the refusal is the same as without it
  all_goals
    split
    · exact keeps_refuse ..
    · exact keeps_parse ..
    · exact keeps_refuse ..

theorem keeps_helpCommand (path : Text) (words : List Text) :
    Keeps setting (helpCommand path words) := by
  unfold helpCommand
  refine (keeps_readWords ..).bind fun r => ?_
  split
  · exact keeps_echo ..
  · split
    · exact keeps_complain ..
    · exact keeps_echo ..

/-- The disk may change, but the switches do not. -/
theorem keeps_initConfig (ctx : Context) (force : Bool) (output : Option Path) :
    Keeps (fun s => s.terminal.switches) (initConfig ctx force output) := by
  constructor
  intro s
  rcases initConfig_cases ctx force output s with hgives | ⟨_, -, -, hsaves⟩
  · exact congrArg Prod.fst hgives.setting_eq
  · exact hsaves.switches_eq

theorem keeps_initConfigCommand (ctx : Context) (path : Text) (words : List Text) :
    Keeps (fun s => s.terminal.switches) (initConfigCommand ctx path words) := by
  unfold initConfigCommand
  refine ((keeps_readWords ..).comp Prod.fst).bind fun r => ?_
  split
  · exact keeps_initConfig ..
  · exact (keeps_refuse ..).comp Prod.fst

/-- **A command that is run by itself keeps the switches.** -/
theorem keeps_command (ctx : Context) (path : Text) (c : Command) (words : List Text) :
    Keeps (fun s => s.terminal.switches) (command ctx path c words) := by
  cases c with
  | help => exact (keeps_helpCommand ..).comp Prod.fst
  | initConfig => exact keeps_initConfigCommand ..
  | parse => exact (keeps_parseCommand ..).comp Prod.fst

end Action

/-! ### Setting the program up -/

/-- How the program is set up: with which options, and whether the environment asks for no
colours. -/
structure Start where
  options : GlobalOptions
  noColorSet : Bool
deriving DecidableEq, Repr

namespace Start

/-- Whether colours are turned off: by an option, by the environment, or by the configuration, if
it can be loaded. -/
def turnsColorOff (start : Start) (d : Disk) : Bool :=
  start.options.noColor || start.noColorSet ||
    match Config.load d start.options.config with
    | .ok loaded => !loaded.config.coloredOutput
    | .error _ => false

theorem turnsColorOff_iff {start : Start} {d : Disk} : start.turnsColorOff d = true ↔
    start.options.noColor = true ∨ start.noColorSet = true ∨
      ∃ loaded, Config.load d start.options.config = .ok loaded ∧
        loaded.config.coloredOutput = false := by
  unfold turnsColorOff
  rw [Bool.or_eq_true, Bool.or_eq_true, or_assoc]
  cases Config.load d start.options.config <;> simp

/-- The switches after the program was set up. -/
def switches (start : Start) (d : Disk) (before : Terminal.Switches) : Terminal.Switches where
  showsVerbose := start.options.verbose || start.options.debug
  showsDebug := start.options.debug
  logLevel := if start.options.debug then .debug else .warning
  plainOutput := before.plainOutput || start.turnsColorOff d
  plainErrors := before.plainErrors || start.turnsColorOff d

end Start

namespace Action

theorem run_onTerminal_bind (g : Terminal → Terminal) (f : Unit → Action α) (s : Session) :
    (onTerminal g >>= f).run s = (f ()).run { s with terminal := g s.terminal } := rfl

theorem keeps_warnAll (warnings : List ConfigWarning) : Keeps setting (warnAll warnings) := by
  induction warnings with
  | nil => exact keeps_pure ()
  | cons w warnings ih =>
    unfold warnAll
    exact (keeps_printing (Terminal.keeps_print ..)).bind fun _ => ih

/-- **What setting up does to the switches**, also if the configuration cannot be loaded and if a
warning cannot be shown. -/
theorem switches_startUp (o : GlobalOptions) (noColorSet : Bool) (s : Session) :
    ((startUp o noColorSet).run s).2.terminal.switches
      = Start.switches ⟨o, noColorSet⟩ s.disk s.terminal.switches := by
  have hwarn : ∀ (loaded : LoadedConfig) (ctx : Context), Keeps setting
      (if !o.quiet then warnAll loaded.warnings >>= fun _ => pure ctx else pure ctx) := by
    intro loaded ctx
    exact ((keeps_warnAll _).bind fun _ => keeps_pure ctx).ite (keeps_pure ctx)
  unfold startUp Start.switches Start.turnsColorOff
  rw [run_onTerminal_bind, run_onTerminal_bind]
  cases hcolor : o.noColor || noColorSet with
  | true =>
    -- the configuration has no say any more
    dsimp only
    rw [if_pos rfl, run_onTerminal_bind, switches_run (keeps_get.bind fun _ => ?_)]
    · simp
    · split
      · exact keeps_complain ..
      · exact keeps_fail _
      · exact hwarn ..
  | false =>
    dsimp only
    rw [if_neg Bool.false_ne_true, run_get_bind]
    split
    · next e hload =>
      rw [switches_run (keeps_complain ..), hload]
      simp
    · next e _ hload =>
      rw [switches_run (keeps_fail _), hload]
      simp
    · next loaded hload =>
      rw [hload]
      cases hconfig : loaded.config.coloredOutput with
      | true =>
        rw [if_neg (by simp), switches_run (hwarn ..)]
        simp [hconfig]
      | false =>
        rw [if_pos (by simp), run_onTerminal_bind, switches_run (hwarn ..)]
        simp [hconfig]

variable {words : List Text} {o : GlobalOptions}

/-- The program is set up, and then a command is run. -/
theorem main_eq_startUp (h : CommandLine.startOptions? words = some o) (noColorSet : Bool) :
    ∃ c rest, main noColorSet words
      = startUp o noColorSet >>= fun ctx => command ctx (Command.path c) c rest := by
  obtain ⟨r, name, rest, c, hread, heager, harguments, hname, rfl⟩ :=
    CommandLine.exists_of_startOptions?_eq_some h
  have hwords : words.isEmpty = false := by
    cases words with
    | nil =>
      -- no words, no arguments
      obtain rfl := Except.ok.inj hread
      cases harguments
    | cons _ _ => rfl
  refine ⟨c, rest, ?_⟩
  unfold main
  dsimp only
  rw [hwords, if_neg Bool.false_ne_true, readWords_eq_pure hread heager, pure_bind, harguments]
  dsimp only
  rw [hname]

/-- A program that is not set up keeps the setting. -/
theorem keeps_main (h : CommandLine.startOptions? words = none) (noColorSet : Bool) :
    Keeps setting (main noColorSet words) := by
  unfold main
  dsimp only
  refine ((keeps_echo ..).bind fun _ => (keeps_exit 2).bind_of_returns fun _ hexit => ?_).ite
    ((keeps_readWords ..).bind_of_returns fun r hreading => ?_)
  · exact absurd hexit (not_returns_throw _ _)
  · obtain ⟨hread, heager⟩ := of_returns_readWords hreading
    split
    · exact keeps_refuse ..
    · next name rest harguments =>
      split
      · exact ((keeps_readWords ..).bind fun _ => keeps_refuse ..).ite (keeps_refuse ..)
      · next c hname =>
        -- a command was found, so the program is set up
        rw [CommandLine.startOptions?_eq_some hread heager harguments hname] at h
        cases h

end Action

/-! ### Calls -/

/-- What can be called in a session. -/
inductive Call
  /-- The program with a command line; `noColorSet` is whether the environment asks for no
  colours. -/
  | program (noColorSet : Bool) (words : List Text)
  /-- A command by itself, with its command line. -/
  | command (ctx : Context) (path : Text) (c : Command) (words : List Text)
  /-- Parsing a query, without a command line. -/
  | parse (ctx : Context) (query : QueryInput) (format : OutputFormat)
  /-- Writing a configuration file, without a command line. -/
  | initConfig (ctx : Context) (force : Bool) (output : Option Path)
deriving DecidableEq, Repr

namespace Call

/-- What a call does. -/
def action : Call → Action Unit
  | .program noColorSet words => Action.main noColorSet words
  | .command ctx path c words => Action.command ctx path c words
  | .parse ctx query format => Action.parse ctx query format
  | .initConfig ctx force output => Action.initConfig ctx force output

/-- How a call sets the program up, if it does. -/
def start? : Call → Option Start
  | .program noColorSet words => (CommandLine.startOptions? words).map (⟨·, noColorSet⟩)
  | _ => none

end Call

namespace Session

/-- The switches after a call: as they were, or as the program was set up. -/
theorem switches_perform (call : Call) (s : Session) :
    (perform call.action s).2.terminal.switches = match call.start? with
      | none => s.terminal.switches
      | some start => start.switches s.disk s.terminal.switches := by
  have hperform : (perform call.action s).2
      = (call.action.run { s with terminal := s.terminal.cleared }).2 := rfl
  rw [hperform]
  cases call with
  | program noColorSet words =>
    cases hstart : CommandLine.startOptions? words with
    | none =>
      simp only [Call.start?, hstart, Option.map_none]
      exact Action.switches_run (Action.keeps_main hstart noColorSet) _
    | some o =>
      obtain ⟨c, rest, hmain⟩ := Action.main_eq_startUp hstart noColorSet
      simp only [Call.action, Call.start?, hstart, Option.map_some, hmain]
      exact (view_run_bind (fun ctx => Action.keeps_command ctx c.path c rest) _).trans
        (Action.switches_startUp ..)
  | command ctx path c words => exact (Action.keeps_command ctx path c words).view_run _
  | parse ctx query format => exact Action.switches_run (Action.keeps_parse ..) _
  | initConfig ctx force output => exact (Action.keeps_initConfig ctx force output).view_run _

end Session

/-! ### Steps -/

/-- A step of a session: a call, after others may have changed the files and the directories. -/
structure Step where
  meanwhile : Disk → Disk
  call : Call

namespace Session

/-- The session after a step. -/
def step (s : Session) (st : Step) : Session :=
  (perform st.call.action { s with disk := st.meanwhile s.disk }).2

/-- The session after some steps. -/
def run (s : Session) (steps : List Step) : Session := steps.foldl step s

variable {s : Session} {steps : List Step}

theorem run_concat (s : Session) (steps : List Step) (st : Step) :
    s.run (steps ++ [st]) = (s.run steps).step st := List.foldl_append ..

/-- **The switches after one step**: as they were, or as the program was set up. -/
theorem switches_step (s : Session) (st : Step) :
    (s.step st).terminal.switches = match st.call.start? with
      | none => s.terminal.switches
      | some start => start.switches (st.meanwhile s.disk) s.terminal.switches :=
  switches_perform st.call { s with disk := st.meanwhile s.disk }

/-- The switches for messages and the level of the log are those of the last time that the program
was set up. -/
theorem messages_run (s : Session) (steps : List Step) :
    match (steps.filterMap fun st => st.call.start?).getLast? with
    | none => (s.run steps).terminal.switches.showsVerbose = s.terminal.showsVerbose ∧
        (s.run steps).terminal.switches.showsDebug = s.terminal.showsDebug ∧
        (s.run steps).terminal.switches.logLevel = s.terminal.logLevel
    | some start => (s.run steps).terminal.switches.showsVerbose
          = (start.options.verbose || start.options.debug) ∧
        (s.run steps).terminal.switches.showsDebug = start.options.debug ∧
        (s.run steps).terminal.switches.logLevel
          = if start.options.debug then .debug else .warning := by
  induction steps using List.reverseRecOn with
  | nil => exact ⟨rfl, rfl, rfl⟩
  | append_singleton steps st ih =>
    rw [run_concat, switches_step, List.filterMap_append]
    cases hstart : st.call.start? with
    | none => simpa [hstart] using ih
    | some start => simp [hstart, Start.switches]

/-- A step among some steps turns colours off. -/
def TurnsColorOff (s : Session) (steps : List Step) : Prop :=
  ∃ before st start, before ++ [st] <+: steps ∧ st.call.start? = some start ∧
    start.turnsColorOff (st.meanwhile (s.run before).disk) = true

theorem turnsColorOff_nil : ¬s.TurnsColorOff [] := by
  rintro ⟨before, st, start, h, -⟩
  simpa using h.length_le

theorem turnsColorOff_concat {st : Step} : s.TurnsColorOff (steps ++ [st]) ↔
    s.TurnsColorOff steps ∨ ∃ start, st.call.start? = some start ∧
      start.turnsColorOff (st.meanwhile (s.run steps).disk) = true := by
  constructor
  · rintro ⟨before, st', start, h, hstart, hoff⟩
    rcases List.prefix_concat_iff.mp h with h | h
    · obtain ⟨rfl, hst⟩ := List.append_inj' h rfl
      cases hst
      exact Or.inr ⟨start, hstart, hoff⟩
    · exact Or.inl ⟨before, st', start, h, hstart, hoff⟩
  · rintro (⟨before, st', start, h, hstart, hoff⟩ | ⟨start, hstart, hoff⟩)
    · exact ⟨before, st', start, h.trans (List.prefix_append ..), hstart, hoff⟩
    · exact ⟨steps, st, start, List.prefix_rfl, hstart, hoff⟩

/-- A console leaves out colours if it did before, or once any step turned them off. -/
theorem plain_run (console : Terminal.Switches → Bool)
    (hconsole : ∀ start d w,
      console (Start.switches start d w) = (console w || start.turnsColorOff d))
    (s : Session) (steps : List Step) :
    console (s.run steps).terminal.switches = true ↔
      console s.terminal.switches = true ∨ s.TurnsColorOff steps := by
  induction steps using List.reverseRecOn with
  | nil => simp [run, turnsColorOff_nil]
  | append_singleton steps st ih =>
    rw [run_concat, switches_step, turnsColorOff_concat, ← or_assoc, ← ih]
    cases hstart : st.call.start? with
    | none => simp
    | some start => simp [hconsole]

/-- **The switches after any number of steps**, on a terminal that is new at first.  The switches
for messages and the level of the log are those of the last time that the program was set up.  The
two consoles agree about colours, and they leave them out exactly if some step turned them off: by
an option, by the environment, or by a configuration that it loaded.  What leaves out colours goes
on to do so. -/
theorem switches_run_steps (steps : List Step) (d : Disk) :
    let t := (run ⟨{}, d⟩ steps).terminal
    (match (steps.filterMap fun st => st.call.start?).getLast? with
      | none => t.showsVerbose = false ∧ t.showsDebug = false ∧ t.logLevel = .warning
      | some start => t.showsVerbose = (start.options.verbose || start.options.debug) ∧
          t.showsDebug = start.options.debug ∧
          t.logLevel = if start.options.debug then .debug else .warning) ∧
    t.output.noColor = t.errors.noColor ∧
    (t.output.noColor = true ↔ ∃ before st start, before ++ [st] <+: steps ∧
      st.call.start? = some start ∧ (start.options.noColor = true ∨ start.noColorSet = true ∨
        ∃ loaded, Config.load (st.meanwhile (run ⟨{}, d⟩ before).disk) start.options.config
          = .ok loaded ∧ loaded.config.coloredOutput = false)) ∧
    ∀ more, t.output.noColor = true →
      (run ⟨{}, d⟩ (steps ++ more)).terminal.output.noColor = true := by
  intro t
  have houtput := plain_run Terminal.Switches.plainOutput (fun _ _ _ => rfl) ⟨{}, d⟩
  have herrors := plain_run Terminal.Switches.plainErrors (fun _ _ _ => rfl) ⟨{}, d⟩
  -- colours are on at first
  have hnew : ∀ steps, (run ⟨{}, d⟩ steps).terminal.output.noColor = true ↔
      TurnsColorOff ⟨{}, d⟩ steps := fun steps => (houtput steps).trans (or_iff_right nofun)
  refine ⟨messages_run ⟨{}, d⟩ steps, ?_, ?_, ?_⟩
  · exact Bool.eq_iff_iff.mpr ((houtput steps).trans (herrors steps).symm)
  · simp only [← Start.turnsColorOff_iff]
    exact hnew steps
  · intro more h
    obtain ⟨before, st, start, hbefore, hoff⟩ := (hnew steps).mp h
    exact (hnew _).mpr ⟨before, st, start, hbefore.trans (List.prefix_append ..), hoff⟩

end Session
end QueryTree
