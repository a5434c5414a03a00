import QueryTree.Proofs.Adjacent
import QueryTree.Proofs.Failing
import QueryTree.Proofs.JsonReading
import QueryTree.Proofs.Keeping
import QueryTree.Proofs.TreeLabels

/-!
# How parsing a query ends

Parsing itself never fails and every tree can be drawn, so whether the command ends well is a
matter of its messages.  Two of them have texts of the user in them: the one that names the
normalizer has its strip pattern, and the one that gives the canonical form has the query.  Neither
text is escaped, and a closing tag in it that closes nothing ends the command with a failure.  A
text without the characters `[/` does no harm.

The JSON of a tree is printed as it is, so what is printed tells the trees of two queries apart.

## Main definitions

* `Action.Announces`: an action ends as the printing of some console texts does.
* `Action.parseNotices`: the console texts with texts of the user in them.

## Main results

* `Action.announces_parse` — the command ends as the printing of those texts does.
* `Action.perform_parse_eq` — **how parsing ends, and when it ends well.**
* `Action.printed_json_eq_iff` — **what is printed as JSON tells trees apart.**
-/

namespace QueryTree

variable {ν μ : Type}

/-! ### Console texts that are refused -/

namespace Markup

/-- Why a console text is refused, if it is. -/
def refusal? (t : Text) : Option MarkupError := failure? (plain t)

theorem refusal?_eq_none_iff {t : Text} : refusal? t = none ↔ Shows [] (split t) := by
  rw [Shows, ← failure?_eq_none_iff, refusal?, plain, render]
  cases renderFrom [] (split t) <;> rfl

end Markup

namespace Terminal

/-- The console text of a message to the output. -/
def infoText (message : Text) : Text := "[info]".toList ++ message ++ "[/info]".toList

/-- The console text of a debug message. -/
def debugText (message : Text) : Text := "[warning]\\[DEBUG][/warning] ".toList ++ message

theorem isStyle_info : Markup.IsStyle "info".toList := by decide

/-- A message without closing tags can be shown. -/
theorem refusal?_infoText {message : Text} (h : ¬['[', '/'] <:+: message) :
    Markup.refusal? (infoText message) = none :=
  Markup.refusal?_eq_none_iff.mpr (Markup.shows_message isStyle_info h)

theorem isStyle_warning : Markup.IsStyle "warning".toList := by decide

/-- A tag that starts with an upper-case letter is none. -/
theorem isWord_debug : Markup.IsWord "\\[DEBUG]".toList := by
  intro position found rest
  with_unfolding_all rfl

/-- A debug message without closing tags can be shown: the tags before it close each other. -/
theorem refusal?_debugText {message : Text} (h : ¬['[', '/'] <:+: message) :
    Markup.refusal? (debugText message) = none := by
  have htext : debugText message
      = Markup.styled "warning".toList "\\[DEBUG]".toList ++ ' ' :: message := rfl
  obtain ⟨cs, hcs⟩ := Markup.shows_of_not_infix h []
    (0 + (Markup.styled "warning".toList "\\[DEBUG]".toList).length + 1) [' ']
  rw [Markup.refusal?_eq_none_iff, Markup.split, htext, Markup.Shows,
    Markup.renderFrom_styled isStyle_warning isWord_debug, Markup.splitFrom_blank, hcs]
  exact ⟨_, rfl⟩

end Terminal

namespace Action

variable {a b : Action Unit} {s : Session} {ts us : List Text}

/-! ### Actions that end as their messages do -/

/-- How an action ends that prints some console texts: with the first of them that is refused, or
well. -/
def endOf (notices : List Text) : Except Halt Unit :=
  match notices.findSome? Markup.refusal? with
  | none => .ok ()
  | some e => .error (.failure (.markup e))

/-- An action on a session ends as the printing of some console texts does, and leaves the switch
for verbose messages as it is. -/
structure Announces (a : Action Unit) (s : Session) (notices : List Text) : Prop where
  result_eq : (a.run s).1 = endOf notices
  showsVerbose_eq : (a.run s).2.terminal.showsVerbose = s.terminal.showsVerbose

/-- The second of two actions is met with the switch as it was. -/
theorem Announces.bind (ha : Announces a s ts)
    (hb : ∀ s', s'.terminal.showsVerbose = s.terminal.showsVerbose → Announces b s' us) :
    Announces (a >>= fun _ => b) s (ts ++ us) := by
  obtain ⟨hresult, hverbose⟩ := ha
  obtain ⟨hresult', hverbose'⟩ := hb _ hverbose
  cases hrun : a.run s with
  | mk result s' =>
    rw [hrun] at hresult hverbose hresult' hverbose'
    unfold endOf at hresult
    cases hfirst : ts.findSome? Markup.refusal? with
    | none =>
      simp only [hfirst] at hresult
      subst hresult
      constructor
      · rw [run_bind, hrun]
        simpa [endOf, hfirst] using hresult'
      · rw [run_bind, hrun]
        exact hverbose'.trans hverbose
    | some e =>
      simp only [hfirst] at hresult
      subst hresult
      constructor
      · rw [run_bind, hrun]
        simp [endOf, hfirst]
      · rw [run_bind, hrun]
        exact hverbose

theorem announces_pure (s : Session) : Announces (pure ()) s [] := ⟨rfl, rfl⟩

/-- What is done to the terminal is no message. -/
theorem announces_onTerminal {f : Terminal → Terminal}
    (hf : (f s.terminal).showsVerbose = s.terminal.showsVerbose) :
    Announces (onTerminal f) s [] := ⟨rfl, hf⟩

@[simp] theorem showsVerbose_append (stream : Stream) (t : Text) (terminal : Terminal) :
    (terminal.append stream t).showsVerbose = terminal.showsVerbose := by
  cases stream <;> rfl

theorem announces_echo (stream : Stream) (t : Text) (s : Session) :
    Announces (echo stream t) s [] :=
  announces_onTerminal (showsVerbose_append ..)

theorem announces_print (stream : Stream) (t : Text) (s : Session) :
    Announces (printing (Terminal.print stream t)) s [t] := by
  constructor
  · rw [run_printing, endOf, List.findSome?_singleton, Markup.refusal?, Terminal.print]
    cases Markup.plain t <;> rfl
  · rw [run_printing, Terminal.print]
    cases Markup.plain t with
    | ok u => exact showsVerbose_append ..
    | error e => rfl

/-- A message that is turned off by a switch is not printed. -/
theorem run_printing_switched (switch : Terminal → Bool) (p : Printing Unit) (s : Session) :
    (printing do
      let terminal ← get
      if switch terminal then p).run s
      = if switch s.terminal then (printing p).run s else (.ok (), s) := by
  have hrun : (do
        let terminal ← get
        if switch terminal then p : Printing Unit).run s.terminal
      = (if switch s.terminal then p else pure () : Printing Unit).run s.terminal := rfl
  rw [run_printing, hrun]
  cases switch s.terminal with
  | true => exact (run_printing p s).symm
  | false => rfl

theorem announces_switched {p : Printing Unit} (h : Announces (printing p) s ts)
    (switch : Terminal → Bool) :
    Announces (printing do
      let terminal ← get
      if switch terminal then p) s (if switch s.terminal then ts else []) := by
  constructor
  · rw [run_printing_switched]
    split
    · exact h.result_eq
    · rfl
  · rw [run_printing_switched]
    split
    · exact h.showsVerbose_eq
    · rfl

theorem announces_debug (message : Text) (s : Session) :
    Announces (printing (Terminal.debug message)) s
      (if s.terminal.showsDebug then [Terminal.debugText message] else []) :=
  announces_switched (announces_print ..) Terminal.showsDebug

theorem announces_verbose (message : Text) (s : Session) :
    Announces (printing (Terminal.verbose message)) s
      (if s.terminal.showsVerbose then [Terminal.infoText message] else []) :=
  announces_switched (announces_print ..) Terminal.showsVerbose

/-! ### Parsing a query -/

/-- The outline of every tree is printed. -/
theorem announces_printOutline (n : Node ν) (s : Session) :
    Announces (printOutline (Outline.ofNode n)) s [] := by
  obtain ⟨lines, hlines⟩ := Outline.exists_drawWith_ofNode n false consoleWidth [] []
  rw [printOutline, Outline.draw, hlines]
  exact announces_onTerminal (showsVerbose_append ..)

/-- The account of a parse goes to the log. -/
theorem run_logTrace (n : ν) (q : Text) (s : Session) :
    ∃ records,
      (logTrace n q).run s = (.ok (), { s with terminal := s.terminal.record records }) := by
  have hrun : (logTrace n q).run s = (if s.terminal.keepsDebug then
        onTerminal (Terminal.record ((Query.trace n q).map TraceEvent.message))
      else pure () : Action Unit).run s := rfl
  rw [hrun]
  split
  · exact ⟨_, rfl⟩
  · refine ⟨[], ?_⟩
    rw [Terminal.record, List.append_nil]
    rfl

theorem announces_logTrace (n : ν) (q : Text) (s : Session) : Announces (logTrace n q) s [] := by
  obtain ⟨records, hrun⟩ := run_logTrace n q s
  constructor
  · rw [hrun]
    rfl
  · rw [hrun]
    rfl

/-- The console texts with texts of the user in them that are printed with a tree: the canonical
form, if an outline is shown. -/
def treeNotices (showsVerbose : Bool) : OutputFormat → Option (Node ν) → List Text
  | .tree, some n =>
    if showsVerbose then [Terminal.infoText ("Canonical form: ".toList ++ n.print)] else []
  | _, _ => []

theorem announces_showTree (ctx : Context) (format : OutputFormat) (tree : Option (Node ν))
    (s : Session) :
    Announces (showTree ctx format tree) s (treeNotices s.terminal.showsVerbose format tree) := by
  have hmissing : Announces (if ctx.isTalkative then
      printing (Terminal.info "Query contains no literals.".toList) else return ()) s [] := by
    split
    · have hinfo := announces_print .output
        (Terminal.infoText "Query contains no literals.".toList) s
      have hresult := hinfo.result_eq
      rw [endOf, List.findSome?_singleton, Terminal.refusal?_infoText (by decide)] at hresult
      exact ⟨hresult, hinfo.showsVerbose_eq⟩
    · exact announces_pure s
  match format, tree with
  | .json, tree => exact announces_echo ..
  | .text, some n => exact announces_echo ..
  | .text, none => exact hmissing
  | .tree, none => exact hmissing
  | .tree, some n =>
    have h := (announces_verbose ("Canonical form: ".toList ++ n.print) s).bind
      fun s' _ => announces_printOutline n s'
    rwa [List.append_nil] at h

/-- The console texts with texts of the user in them that are printed when a query is parsed: one
with the strip pattern comes first. -/
def parseNotices (terminal : Terminal) (n : Normalizer) (format : OutputFormat) (q : Text) :
    List Text :=
  (if terminal.showsDebug then [Terminal.debugText ("Normalizer: ".toList ++ n.describe)] else [])
    ++ treeNotices terminal.showsVerbose format (Query.parse n q)

/-- Parsing a query ends as the printing of the texts of the user does. -/
theorem announces_parse {ctx : Context} {n : Normalizer}
    (hn : (ctx.config.getD {}).normalizer = .ok n) (q : Text) (format : OutputFormat)
    (s : Session) :
    Announces (parse ctx (.text q) format) s (parseNotices s.terminal n format q) := by
  have hrest : ∀ s', s'.terminal.showsVerbose = s.terminal.showsVerbose →
      Announces (logTrace n q >>= fun _ => showTree ctx format (Query.parse n q)) s'
        (treeNotices s.terminal.showsVerbose format (Query.parse n q)) := by
    intro s' hs'
    refine (announces_logTrace n q s').bind fun s'' hs'' => ?_
    rw [← hs', ← hs'']
    exact announces_showTree ctx format (Query.parse n q) s''
  unfold parse
  rw [hn]
  exact (announces_debug ("Normalizer: ".toList ++ n.describe) s).bind hrest

/-- A normalizer is written out with a bracket and a slash side by side only if its pattern has
them so. -/
theorem infix_of_infix_describe {n : Normalizer} (h : ['[', '/'] <:+: n.describe) :
    ['[', '/'] <:+: n.pattern.source := by
  have hinner := Text.infix_of_infix_append_right (by decide) h
  have hbool : '[' ∉ "BasicTermNormalizer(lowercase=".toList ++ Text.ofBool n.lowercase
      ++ ", strip_pattern=".toList := by
    cases n.lowercase <;> decide
  exact Text.infix_of_infix_quoted (Text.infix_of_infix_append_left hbool hinner)

/-- A normalizer whose pattern has no closing tags is shown. -/
theorem refusal?_normalizer {n : Normalizer} (hpattern : ¬['[', '/'] <:+: n.pattern.source) :
    Markup.refusal? (Terminal.debugText ("Normalizer: ".toList ++ n.describe)) = none := by
  refine Terminal.refusal?_debugText fun h => hpattern ?_
  exact infix_of_infix_describe (Text.infix_of_infix_append_left (by decide) h)

/-- Texts of the user without closing tags are shown. -/
theorem refusal?_of_mem_parseNotices {terminal : Terminal} {n : Normalizer} {format : OutputFormat}
    {q t : Text} (hq : ¬['[', '/'] <:+: q) (hpattern : ¬['[', '/'] <:+: n.pattern.source)
    (ht : t ∈ parseNotices terminal n format q) : Markup.refusal? t = none := by
  rw [parseNotices, List.mem_append] at ht
  rcases ht with ht | ht
  · split at ht
    · rw [List.mem_singleton.mp ht]
      exact refusal?_normalizer hpattern
    · cases ht
  · unfold treeNotices at ht
    split at ht
    · next tree htree =>
      split at ht
      · rw [List.mem_singleton.mp ht]
        refine Terminal.refusal?_infoText fun h => hq ?_
        exact Query.infix_of_infix_print_parse (by decide) (by decide) htree
          (Text.infix_of_infix_append_left (by decide) h)
      · cases ht
    · cases ht

/-- The switches are not cleared with the consoles. -/
theorem outcome_parse {ctx : Context} {n : Normalizer}
    (hn : (ctx.config.getD {}).normalizer = .ok n) (q : Text) (format : OutputFormat)
    (s : Session) :
    (Session.perform (parse ctx (.text q) format) s).1
      = Outcome.of (endOf (parseNotices s.terminal n format q)) :=
  congrArg Outcome.of
    (announces_parse hn q format { s with terminal := s.terminal.cleared }).result_eq

/-- A text in which no control sequence starts is printed as it is. -/
theorem withoutSequences_of_notMem {t : Text} (h : '\x1b' ∉ t) :
    Terminal.withoutSequences 0 t = t := by
  induction t with
  | nil => rfl
  | cons c t ih =>
    rw [List.mem_cons, not_or] at h
    have hnone : Terminal.sequenceLength? (c :: t) = none := by
      unfold Terminal.sequenceLength?
      split
      · next rest heq => exact absurd (List.cons.inj heq).1.symm h.1
      · rfl
    rw [Terminal.withoutSequences, hnone]
    exact congrArg (c :: ·) (ih h.2)

/-- Debug messages do not go to the output. -/
theorem output_run_debug (message : Text) (s : Session) :
    ((printing (Terminal.debug message)).run s).2.terminal.output = s.terminal.output := by
  have hrun : (printing (Terminal.debug message)).run s = if s.terminal.showsDebug then
      (printing (Terminal.print .errors (Terminal.debugText message))).run s else (.ok (), s) :=
    run_printing_switched Terminal.showsDebug _ s
  rw [hrun]
  split
  · rw [run_printing, Terminal.print]
    cases Markup.plain (Terminal.debugText message) <;> rfl
  · rfl

/-- Parsing that comes to its end prints the JSON of the tree to the output, and nothing else. -/
theorem printed_run_parse_json {ctx : Context} {n : Normalizer}
    (hn : (ctx.config.getD {}).normalizer = .ok n) (q : Text) (s : Session)
    (hend : ((parse ctx (.text q) .json).run s).1 = .ok ()) :
    ((parse ctx (.text q) .json).run s).2.terminal.output.printed
      = s.terminal.output.printed ++ (Node.json (Query.parse n q) ++ ['\n']) := by
  have hparse : parse ctx (.text q) .json
      = printing (Terminal.debug ("Normalizer: ".toList ++ n.describe)) >>= fun _ =>
        logTrace n q >>= fun _ => echo .output (Node.json (Query.parse n q)) := by
    unfold parse
    rw [hn]
    rfl
  have houtput := output_run_debug ("Normalizer: ".toList ++ n.describe) s
  rw [hparse, run_bind] at hend ⊢
  cases hrun : (printing (Terminal.debug ("Normalizer: ".toList ++ n.describe))).run s with
  | mk result s' =>
    rw [hrun] at hend houtput
    cases result with
    | error e => cases hend
    | ok _ =>
      obtain ⟨records, hlog⟩ := run_logTrace n q s'
      show (((logTrace n q >>= fun _ => echo .output (Node.json (Query.parse n q))).run
        s').2.terminal.output.printed) = _
      rw [run_bind, hlog]
      show s'.terminal.output.printed
        ++ (Terminal.withoutSequences 0 (Node.json (Query.parse n q)) ++ ['\n']) = _
      rw [withoutSequences_of_notMem (Node.escape_notMem_json _), houtput]

/-- If what was announced could be shown, the action came to its end. -/
theorem endOf_eq_ok (h : Outcome.of (endOf ts) = ⟨0, none⟩) : endOf ts = .ok () := by
  unfold endOf at h ⊢
  cases hfirst : ts.findSome? Markup.refusal? with
  | none => rfl
  | some e =>
    rw [hfirst] at h
    cases h

theorem printed_perform_parse_json {ctx : Context} {n : Normalizer}
    (hn : (ctx.config.getD {}).normalizer = .ok n) {q : Text} {s : Session}
    (hend : (Session.perform (parse ctx (.text q) .json) s).1 = ⟨0, none⟩) :
    (Session.perform (parse ctx (.text q) .json) s).2.terminal.output.printed
      = Node.json (Query.parse n q) ++ ['\n'] := by
  have hresult := (announces_parse hn q .json { s with terminal := s.terminal.cleared }).result_eq
  have hok : ((parse ctx (.text q) .json).run { s with terminal := s.terminal.cleared }).1
      = .ok () := by
    rw [hresult]
    apply endOf_eq_ok
    rw [← hresult]
    exact hend
  exact printed_run_parse_json hn q _ hok

/-- **What is printed as JSON tells trees apart**: two trees have the same JSON exactly when they
are the same query, and so what is printed for two queries is the same exactly when their trees are,
whatever else is printed to the other console.  Nothing can go wrong without debug messages, and
nothing either with them if the strip pattern has no characters `[/` in it. -/
theorem printed_json_eq_iff :
    (∀ (t : Option (Node ν)) (u : Option (Node μ)),
      Node.json t = Node.json u ↔ t.map Node.erase = u.map Node.erase) ∧
    ∀ (ctx ctx' : Context) (n n' : Normalizer), (ctx.config.getD {}).normalizer = .ok n →
      (ctx'.config.getD {}).normalizer = .ok n' → ∀ (q q' : Text) (s s' : Session),
      (s.terminal.showsDebug = false ∨ Text.occursIn "[/".toList n.pattern.source = false →
        (Session.perform (parse ctx (.text q) .json) s).1 = ⟨0, none⟩) ∧
      ((Session.perform (parse ctx (.text q) .json) s).1 = ⟨0, none⟩ →
        (Session.perform (parse ctx' (.text q') .json) s').1 = ⟨0, none⟩ →
        ((Session.perform (parse ctx (.text q) .json) s).2.terminal.output.printed
            = (Session.perform (parse ctx' (.text q') .json) s').2.terminal.output.printed ↔
          (Query.parse n q).map Node.erase = (Query.parse n' q').map Node.erase)) := by
  refine ⟨Node.json_eq_json_iff, fun ctx ctx' n n' hn hn' q q' s s' => ⟨fun h => ?_, ?_⟩⟩
  · have hnotices : parseNotices s.terminal n .json q = if s.terminal.showsDebug then
        [Terminal.debugText ("Normalizer: ".toList ++ n.describe)] else [] :=
      List.append_nil _
    rw [outcome_parse hn, hnotices]
    rcases h with hdebug | hpattern
    · rw [hdebug]
      rfl
    · rw [← Bool.not_eq_true, Text.occursIn_eq_true_iff] at hpattern
      split
      · rw [endOf, List.findSome?_singleton, refusal?_normalizer hpattern]
        rfl
      · rfl
  · intro hend hend'
    rw [printed_perform_parse_json hn hend, printed_perform_parse_json hn' hend',
      List.append_left_inj, Node.json_eq_json_iff]

/-- Blanks do not matter, and a quote in a text does: two queries of one tree, and a third one. -/
theorem printed_json_eq_iff_quotes :
    let s : Session := ⟨{ showsVerbose := true, showsDebug := true }, .empty [] []⟩
    let printed (q : String) : Text :=
      (Session.perform (parse {} (.text q.toList) .json) s).2.terminal.output.printed
    printed "a\"  \\é" = printed " a\" \\é" ∧ printed "a\"  \\é" ≠ printed "a \\é" := by
  intro s printed
  have hn : (({} : Context).config.getD {}).normalizer = .ok .standard := rfl
  have hiff : ∀ q q' : String, printed q = printed q' ↔
      (Query.parse Normalizer.standard q.toList).map Node.erase
        = (Query.parse Normalizer.standard q'.toList).map Node.erase := by
    intro q q'
    have h := (@printed_json_eq_iff Unit Unit).2 {} {} _ _ hn hn
    have hpattern : Text.occursIn "[/".toList Normalizer.standard.pattern.source = false := by
      decide
    exact (h q.toList q'.toList s s).2 ((h q.toList q'.toList s s).1 (Or.inr hpattern))
      ((h q'.toList q.toList s s).1 (Or.inr hpattern))
  constructor
  · rw [hiff]
    decide +kernel
  · rw [Ne, hiff]
    decide +kernel

end Action
end QueryTree
