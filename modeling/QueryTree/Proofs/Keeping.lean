import QueryTree.Session.Parse

/-!
# What computations leave alone

Printing and acting are computations on a state that may end early, and what they did before they
ended stays done.  A view of the state is kept by a computation if it is the same afterwards,
however the computation ended.  A chain of computations keeps what each of them keeps, so what a
command keeps is told by the few things that commands are made of.

Most of them only print.  What they keep is the setting of a session: its disk, and the switches of
its terminal.

## Main definitions

* `Keeps`: a computation leaves a view of the state as it is.
* `Terminal.Switches`: what is set on a terminal, apart from what is printed on it.
* `Session.setting`: the switches and the disk of a session.

## Main results

* `run_bind`, `Keeps.bind` — chains of computations.
* `Action.keeps_printing` — messages keep the setting of a session.
* `Action.keeps_parse` — **parsing a query keeps the setting of a session.**
-/

namespace QueryTree

variable {σ ε α β γ δ : Type} {view : σ → γ} {a b : ExceptT ε (StateM σ) α}
  {f : α → ExceptT ε (StateM σ) β}

/-! ### Chains -/

/-- One computation after another: the second one is not run if the first one ends early. -/
theorem run_bind (a : ExceptT ε (StateM σ) α) (f : α → ExceptT ε (StateM σ) β) (s : σ) :
    (a >>= f).run s = match a.run s with
      | (.ok x, s') => (f x).run s'
      | (.error e, s') => (.error e, s') := by
  show (ExceptT.bindCont f (a.run s).1) (a.run s).2 = _
  cases a.run s with
  | mk result s' => cases result <;> rfl

/-- What follows goes on with the state that was looked up. -/
theorem run_get_bind (g : σ → ExceptT ε (StateM σ) α) (s : σ) :
    (get >>= g).run s = (g s).run s := rfl

/-- A computation leaves a view of the state as it is, however it ends. -/
structure Keeps (view : σ → γ) (a : ExceptT ε (StateM σ) α) : Prop where
  view_run : ∀ s, view (a.run s).2 = view s

/-- What follows a computation does not change what it made of a view, if it keeps the view. -/
theorem view_run_bind (hf : ∀ x, Keeps view (f x)) (s : σ) :
    view ((a >>= f).run s).2 = view (a.run s).2 := by
  rw [run_bind]
  cases a.run s with
  | mk result s' =>
    cases result with
    | ok x => exact (hf x).view_run s'
    | error e => rfl

theorem keeps_pure (x : α) : Keeps view (pure x : ExceptT ε (StateM σ) α) := ⟨fun _ => rfl⟩

theorem keeps_throw (e : ε) : Keeps view (throw e : ExceptT ε (StateM σ) α) := ⟨fun _ => rfl⟩

theorem keeps_get : Keeps view (get : ExceptT ε (StateM σ) σ) := ⟨fun _ => rfl⟩

theorem Keeps.bind (ha : Keeps view a) (hf : ∀ x, Keeps view (f x)) : Keeps view (a >>= f) := by
  constructor
  intro s
  rw [view_run_bind hf, ha.view_run]

/-- A computation can come to its end with a result. -/
def Returns (a : ExceptT ε (StateM σ) α) (x : α) : Prop := ∃ s, (a.run s).1 = .ok x

/-- What follows a computation matters only for the results that it can come to. -/
theorem Keeps.bind_of_returns (ha : Keeps view a) (hf : ∀ x, Returns a x → Keeps view (f x)) :
    Keeps view (a >>= f) := by
  constructor
  intro s
  have hreturns : ∀ x, (a.run s).1 = .ok x → Returns a x := fun x h => ⟨s, h⟩
  rw [← ha.view_run s, run_bind]
  cases hrun : a.run s with
  | mk result s' =>
    rw [hrun] at hreturns
    cases result with
    | ok x => exact (hf x (hreturns x rfl)).view_run s'
    | error e => rfl

theorem not_returns_throw (e : ε) (x : α) : ¬Returns (throw e : ExceptT ε (StateM σ) α) x := by
  rintro ⟨s, h⟩
  cases h

/-- A chain comes to its end only if all of its computations do. -/
theorem Returns.of_bind {y : β} (h : Returns (a >>= f) y) : ∃ x, Returns a x ∧ Returns (f x) y := by
  obtain ⟨s, hrun⟩ := h
  have hreturns : ∀ x, (a.run s).1 = .ok x → Returns a x := fun x h => ⟨s, h⟩
  rw [run_bind] at hrun
  cases ha : a.run s with
  | mk result s' =>
    rw [ha] at hrun hreturns
    cases result with
    | ok x => exact ⟨x, hreturns x rfl, s', hrun⟩
    | error e => cases hrun

theorem Keeps.ite {p : Prop} [Decidable p] (ha : Keeps view a) (hb : Keeps view b) :
    Keeps view (if p then a else b) := by
  split
  · exact ha
  · exact hb

/-- What is kept is kept in every part. -/
theorem Keeps.comp (h : Keeps view a) (part : γ → δ) : Keeps (fun s => part (view s)) a := by
  constructor
  intro s
  exact congrArg part (h.view_run s)

/-! ### Messages -/

namespace Terminal

/-- What is set on a terminal, apart from what is printed on it. -/
structure Switches where
  showsVerbose : Bool
  showsDebug : Bool
  logLevel : LogLevel
  /-- Whether the console for output leaves out colours. -/
  plainOutput : Bool
  /-- Whether the console for errors leaves out colours. -/
  plainErrors : Bool
deriving DecidableEq, Repr

/-- The switches of a terminal. -/
def switches (t : Terminal) : Switches :=
  ⟨t.showsVerbose, t.showsDebug, t.logLevel, t.output.noColor, t.errors.noColor⟩

@[simp] theorem switches_append (stream : Stream) (u : Text) (t : Terminal) :
    (t.append stream u).switches = t.switches := by
  cases stream <;> rfl

@[simp] theorem switches_record (records : List Text) (t : Terminal) :
    (t.record records).switches = t.switches := rfl

@[simp] theorem switches_cleared (t : Terminal) : t.cleared.switches = t.switches := rfl

@[simp] theorem switches_setVerbosity (verbose debug : Bool) (t : Terminal) :
    (t.setVerbosity verbose debug).switches
      = { t.switches with showsVerbose := verbose || debug, showsDebug := debug } := rfl

@[simp] theorem switches_configureLogging (debug : Bool) (t : Terminal) :
    (t.configureLogging debug).switches
      = { t.switches with logLevel := if debug then .debug else .warning } := rfl

@[simp] theorem switches_setColor (enabled : Bool) (t : Terminal) :
    (t.setColor enabled).switches
      = { t.switches with plainOutput := !enabled, plainErrors := !enabled } := rfl

theorem keeps_print (stream : Stream) (markup : Text) : Keeps switches (print stream markup) := by
  constructor
  intro t
  unfold print
  cases Markup.plain markup with
  | ok u => exact switches_append ..
  | error e => rfl

theorem keeps_error (message hint : Text) : Keeps switches (error message hint) :=
  (keeps_print ..).bind fun _ => (keeps_print ..).ite (keeps_pure ())

/-- A message that a switch turns off is printed or not. -/
theorem keeps_switched {p : Printing Unit} (hp : Keeps switches p) (switch : Terminal → Bool) :
    Keeps switches (do
      let terminal ← get
      if switch terminal then p) :=
  keeps_get.bind fun _ => hp.ite (keeps_pure ())

end Terminal

/-! ### Actions -/

/-- Everything about a session but what was printed and what is in the log. -/
def Session.setting (s : Session) : Terminal.Switches × Disk := (s.terminal.switches, s.disk)

namespace Action

open Session (setting)

theorem keeps_exit {view : Session → γ} (code : Nat) : Keeps view (exit code : Action α) :=
  keeps_throw _

theorem keeps_fail {view : Session → γ} (f : Failure) : Keeps view (fail f : Action α) :=
  keeps_throw _

/-- What keeps the setting keeps the switches. -/
theorem switches_run {a : Action α} (h : Keeps setting a) (s : Session) :
    (a.run s).2.terminal.switches = s.terminal.switches :=
  congrArg Prod.fst (h.view_run s)

theorem run_printing (p : Printing Unit) (s : Session) :
    (printing p).run s = ((p.run s.terminal).1.mapError fun e => .failure (.markup e),
      { s with terminal := (p.run s.terminal).2 }) := by
  have hget : (get : Action Session).run s = (.ok s, s) := rfl
  rw [printing, run_bind, hget]
  dsimp only
  cases p.run s.terminal with
  | mk result terminal => cases result <;> rfl

theorem keeps_printing {p : Printing Unit} (hp : Keeps Terminal.switches p) :
    Keeps setting (printing p) := by
  constructor
  intro s
  rw [run_printing]
  exact congrArg (·, s.disk) (hp.view_run s.terminal)

theorem keeps_onTerminal {g : Terminal → Terminal} (hg : ∀ t, (g t).switches = t.switches) :
    Keeps setting (onTerminal g) := by
  constructor
  intro s
  exact congrArg (·, s.disk) (hg s.terminal)

theorem keeps_echo (stream : Stream) (t : Text) : Keeps setting (echo stream t) :=
  keeps_onTerminal fun _ => Terminal.switches_append ..

theorem keeps_complain (message hint : Text) :
    Keeps setting (complain message hint : Action α) :=
  (keeps_printing (Terminal.keeps_error ..)).bind fun _ => keeps_exit 1

/-! ### Parsing a query -/

theorem keeps_printOutline (o : Outline) : Keeps setting (printOutline o) := by
  unfold printOutline
  split
  · exact keeps_onTerminal fun _ => Terminal.switches_append ..
  · exact keeps_fail _

theorem keeps_showTree {ν : Type} (ctx : Context) (format : OutputFormat) (tree : Option (Node ν)) :
    Keeps setting (showTree ctx format tree) := by
  unfold showTree
  split
  · exact keeps_echo ..
  · exact (keeps_printing (Terminal.keeps_print ..)).ite (keeps_pure ())
  · exact keeps_echo ..
  · exact (keeps_printing (Terminal.keeps_switched (Terminal.keeps_print ..) _)).bind
      fun _ => keeps_printOutline _

theorem keeps_logTrace {ν : Type} (n : ν) (q : Text) : Keeps setting (logTrace n q) :=
  keeps_get.bind fun _ =>
    (keeps_onTerminal fun _ => Terminal.switches_record ..).ite (keeps_pure ())

/-- **Parsing a query keeps the setting of a session**, whatever it prints and however it ends. -/
theorem keeps_parse (ctx : Context) (query : QueryInput) (format : OutputFormat) :
    Keeps setting (parse ctx query format) := by
  unfold parse
  split
  · exact keeps_fail _
  · refine (keeps_printing (Terminal.keeps_switched (Terminal.keeps_print ..) _)).bind fun _ => ?_
    split
    · exact keeps_complain ..
    · exact (keeps_logTrace ..).bind fun _ => keeps_showTree ..

end Action
end QueryTree
