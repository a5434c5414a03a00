import QueryTree.Proofs.Description
import QueryTree.Proofs.ParseCommand

/-!
# Parsing does not look at normalizers

A query is parsed with a normalizer at hand, and every literal gets it, but nothing is decided by
it.  So parsing with another normalizer is parsing and then replacing the normalizer: a step of the
scanner is, hence its run is, hence the tree is.  A replaced normalizer shows nowhere: neither in
the written forms of a tree nor in its outline nor in the account of the parse.  What the command
prints is made of these, apart from the debug message that names the normalizer.

## Main results

* `Scan.literalAt_map`, `Query.parse_map` — **parsing with another normalizer is parsing and then
  replacing the normalizer.**
* `Action.run_parse` — without debug messages, the command is one that has no normalizer.
* `Action.parse_blind_to_normalizer` — **no normalizer makes a difference**, to a tree or to what is
  printed.
-/

namespace QueryTree

variable {ν μ : Type}

/-! ### Scanning -/

namespace Scan

/-- A literal with another normalizer lies in the same place. -/
def withNormalizer (f : ν → μ) (found : Bounds × Literal ν) : Bounds × Literal μ :=
  (found.1, found.2.map f)

/-- **A step of the scanner** with another normalizer finds the same literal in the same place. -/
theorem literalAt_map (f : ν → μ) (n : ν) (g : Text) (i : Int) :
    literalAt (f n) g i = (literalAt n g i).map (withNormalizer f) := by
  unfold literalAt
  dsimp only
  split
  · rfl
  · cases extent g (skip (· = ' ') g i) with
    | mk isPhrase b => cases isPhrase <;> rfl

/-- What holds of every step of a scanner holds of its run: if what is found is renamed, the list of
it is. -/
theorem runs_map {β γ : Type} {scan : Int → Option β} {scan' : Int → Option γ} {stop : β → Int}
    {stop' : γ → Int} {f : β → γ} (hscan : ∀ i, scan' i = (scan i).map f)
    (hstop : ∀ b, stop' (f b) = stop b) (limit : Nat) (i : Int) :
    runs scan' stop' limit i = (runs scan stop limit i).map f := by
  induction limit generalizing i with
  | zero => rfl
  | succ limit ih =>
    rw [runs, runs, hscan]
    cases scan i with
    | none => rfl
    | some found =>
      show f found :: runs scan' stop' limit (stop' (f found)) = _
      rw [hstop, ih]
      rfl

end Scan

/-! ### Parsing -/

theorem Node.fold_map (f : ν → μ) (op : Connective) (ns : List (Node ν)) :
    fold op (ns.map (map f)) = (fold op ns).map (map f) := by
  match ns with
  | [] => rfl
  | [n] => rfl
  | n :: m :: ns =>
    rw [fold, Option.map_some, map_branch]
    rfl

namespace Query

theorem literals_map (f : ν → μ) (n : ν) (g : Text) :
    literals (f n) g = (literals n g).map (Scan.withNormalizer f) :=
  Scan.runs_map (Scan.literalAt_map f n g) (fun _ => rfl) _ 0

theorem parseGroup_map (f : ν → μ) (n : ν) (g : Text) :
    parseGroup (f n) g = (parseGroup n g).map (Node.map f) := by
  rw [parseGroup, parseGroup, literals_map, ← Node.fold_map, List.map_map, List.map_map]
  rfl

/-- **Parsing with another normalizer is parsing and then replacing the normalizer.** -/
theorem parse_map (f : ν → μ) (n : ν) (q : Text) :
    parse (f n) q = (parse n q).map (Node.map f) := by
  rw [parse, parse, ← Node.fold_map, List.map_filterMap]
  congr 1
  exact List.filterMap_congr fun g _ => parseGroup_map f n g.2

/-- Parsing puts the normalizer into a tree that was there without it. -/
theorem parse_eq_map (n : ν) (q : Text) : parse n q = (parse () q).map (Node.map fun _ => n) :=
  parse_map (fun _ => n) () q

/-- Every literal of a query has the normalizer that was given. -/
theorem normalizer_of_mem_leaves {n : ν} {q : Text} {l : Literal ν}
    (hl : l ∈ Node.leavesOption (parse n q)) : l.normalizer = n := by
  rw [parse_eq_map] at hl
  cases hq : parse () q with
  | none =>
    rw [hq] at hl
    cases hl
  | some t =>
    rw [hq, Option.map_some, Node.leavesOption, Node.leaves_map] at hl
    obtain ⟨m, -, rfl⟩ := List.mem_map.mp hl
    rfl

/-! ### Accounts -/

theorem map_message_traceGroup (f : ν → μ) (n : ν) (b : Bounds) (g : Text) :
    (traceGroup (f n) b g).map TraceEvent.message
      = (traceGroup n b g).map TraceEvent.message := by
  rw [traceGroup, traceGroup, literals_map, List.map_cons, List.map_cons, List.map_map,
    List.map_map, List.map_map]
  rfl

/-- The records of a parse do not tell its normalizer. -/
theorem map_message_trace (f : ν → μ) (n : ν) (q : Text) :
    (trace (f n) q).map TraceEvent.message = (trace n q).map TraceEvent.message := by
  have hgroups : ((groups q).flatMap fun g => traceGroup (f n) g.1 g.2).map TraceEvent.message
      = ((groups q).flatMap fun g => traceGroup n g.1 g.2).map TraceEvent.message := by
    rw [List.map_flatMap, List.map_flatMap]
    exact List.flatMap_congr fun g _ => map_message_traceGroup f n g.1 g.2
  rw [trace, trace, List.map_append, List.map_append, hgroups, parse_map]
  cases parse n q <;> rfl

end Query

/-! ### Written forms -/

theorem Outline.ofNode_map (f : ν → μ) (n : Node ν) : ofNode (n.map f) = ofNode n := by
  induction n using Node.inductionOn with
  | literal l => rfl
  | branch op a b rest ih =>
    rw [List.forall_mem_cons, List.forall_mem_cons] at ih
    have hrest : rest.map (ofNode ∘ Node.map f) = rest.map ofNode := List.map_congr_left ih.2.2
    rw [Node.map_branch, ofNode, ofNode, ofNodes_eq_map, ofNodes_eq_map, List.map_map, ih.1,
      ih.2.1, hrest]
    rfl

theorem Outline.ofQuery_map (f : ν → μ) (t : Option (Node ν)) :
    ofQuery (t.map (Node.map f)) = ofQuery t := by
  cases t with
  | none => rfl
  | some n => exact ofNode_map f n

namespace Node

theorem json_map (f : ν → μ) (t : Option (Node ν)) : json (t.map (map f)) = json t := by
  cases t with
  | none => rfl
  | some n => exact jsonAt_map f n 0

theorem printOption_map (f : ν → μ) (t : Option (Node ν)) :
    printOption (t.map (map f)) = printOption t := by
  cases t with
  | none => rfl
  | some n => exact print_map f n

theorem describeOption_map (f : ν → μ) (t : Option (Node ν)) :
    describeOption (t.map (map f)) = describeOption t := by
  cases t with
  | none => rfl
  | some n => exact describe_map f n

theorem map_erase_map (f : ν → μ) (t : Option (Node ν)) :
    (t.map (map f)).map erase = t.map erase := by
  cases t with
  | none => rfl
  | some n => exact congrArg some (map_map (fun _ => ()) f n)

end Node

namespace Action

/-! ### The command -/

theorem showTree_map (ctx : Context) (format : OutputFormat) (f : ν → μ) (t : Option (Node ν)) :
    showTree ctx format (t.map (Node.map f)) = showTree ctx format t := by
  match format, t with
  | .json, t =>
    rw [showTree, showTree, Node.json_map]
  | .text, none => rfl
  | .text, some n => rw [Option.map_some, showTree, showTree, Node.print_map]
  | .tree, none => rfl
  | .tree, some n =>
    rw [Option.map_some, showTree, showTree, Node.print_map, Outline.ofNode_map]

theorem logTrace_map (f : ν → μ) (n : ν) (q : Text) : logTrace (f n) q = logTrace n q := by
  rw [logTrace, logTrace, Query.map_message_trace]

/-- Only one message of the command names the normalizer, and without debug messages it is not
shown. -/
theorem run_parse {ctx : Context} {n : Normalizer} (hn : (ctx.config.getD {}).normalizer = .ok n)
    (q : Text) (format : OutputFormat) {s : Session} (hs : s.terminal.showsDebug = false) :
    (parse ctx (.text q) format).run s
      = (logTrace () q >>= fun _ => showTree ctx format (Query.parse () q)).run s := by
  have hparse : parse ctx (.text q) format
      = printing (Terminal.debug ("Normalizer: ".toList ++ n.describe)) >>= fun _ =>
        logTrace n q >>= fun _ => showTree ctx format (Query.parse n q) := by
    unfold parse
    rw [hn]
  have hdebug : (printing (Terminal.debug ("Normalizer: ".toList ++ n.describe))).run s
      = (.ok (), s) := by
    have hswitched := run_printing_switched Terminal.showsDebug
      (Terminal.print .errors (Terminal.debugText ("Normalizer: ".toList ++ n.describe))) s
    rw [hs] at hswitched
    exact hswitched
  have hlog : logTrace n q = logTrace () q := logTrace_map (fun _ => n) () q
  have hshow : showTree ctx format (Query.parse n q) = showTree ctx format (Query.parse () q) := by
    rw [Query.parse_eq_map n, showTree_map]
  rw [hparse, run_bind, hdebug, hlog, hshow]

/-- How a command was called matters to what it shows only by whether it is talkative. -/
theorem showTree_congr {ctx ctx' : Context} (h : ctx.isTalkative = ctx'.isTalkative)
    (format : OutputFormat) (t : Option (Node ν)) :
    showTree ctx format t = showTree ctx' format t := by
  unfold showTree
  rw [h]

/-- **No normalizer makes a difference.**  Whichever one is given, or the shared one if none is, a
query has the same tree, with the same written forms and the same outline, and every literal of the
tree has the normalizer that was given.  And whichever normalizer the configuration describes, the
command does the same to a session that does not show debug messages. -/
theorem parse_blind_to_normalizer (q : Text) :
    (∀ (shared : ν) (given given' : Option ν),
      let t := Query.parse (given.getD shared) q
      let u := Query.parse (given'.getD shared) q
      t.map Node.erase = u.map Node.erase ∧ Node.json t = Node.json u ∧
        Node.printOption t = Node.printOption u ∧
        Node.describeOption t = Node.describeOption u ∧
        Outline.ofQuery t = Outline.ofQuery u ∧
        (∀ l ∈ Node.leavesOption t, l.normalizer = given.getD shared) ∧
        ∀ l ∈ Node.leavesOption u, l.normalizer = given'.getD shared) ∧
    ∀ (ctx ctx' : Context) (n n' : Normalizer), ctx.verbose = ctx'.verbose →
      ctx.quiet = ctx'.quiet → (ctx.config.getD {}).normalizer = .ok n →
      (ctx'.config.getD {}).normalizer = .ok n' → ∀ (format : OutputFormat) (s : Session),
      s.terminal.showsDebug = false →
        Session.perform (parse ctx (.text q) format) s
          = Session.perform (parse ctx' (.text q) format) s := by
  constructor
  · intro shared given given' t u
    have ht : t = (Query.parse () q).map (Node.map fun _ => given.getD shared) :=
      Query.parse_eq_map _ q
    have hu : u = (Query.parse () q).map (Node.map fun _ => given'.getD shared) :=
      Query.parse_eq_map _ q
    refine ⟨?_, ?_, ?_, ?_, ?_, fun l hl => Query.normalizer_of_mem_leaves hl,
      fun l hl => Query.normalizer_of_mem_leaves hl⟩
    · rw [ht, hu, Node.map_erase_map, Node.map_erase_map]
    · rw [ht, hu, Node.json_map, Node.json_map]
    · rw [ht, hu, Node.printOption_map, Node.printOption_map]
    · rw [ht, hu, Node.describeOption_map, Node.describeOption_map]
    · rw [ht, hu, Outline.ofQuery_map, Outline.ofQuery_map]
  · intro ctx ctx' n n' hverbose hquiet hn hn' format s hs
    have htalkative : ctx.isTalkative = ctx'.isTalkative := by
      rw [Context.isTalkative, Context.isTalkative, hverbose, hquiet]
    have hcleared : ({ s with terminal := s.terminal.cleared } : Session).terminal.showsDebug
        = false := hs
    rw [Session.perform, Session.perform, run_parse hn q format hcleared,
      run_parse hn' q format hcleared, showTree_congr htalkative]

/-- A normalizer that keeps tokens as they are, in place of the standard one, with verbose messages
shown. -/
theorem parse_blind_to_normalizer_verbatim :
    let s : Session := ⟨{ showsVerbose := true }, .empty [] []⟩
    let q : Text := "Cat -\"x + y*".toList
    let c : Config := { lowercase := false, stripPattern := [] }
    ({} : Config).normalizer = .ok .standard ∧
      (∃ n, c.normalizer = .ok n ∧ n.lowercase = false) ∧
      Session.perform (parse {} (.text q) .tree) s
        = Session.perform (parse { config := some c } (.text q) .tree) s := by
  intro s q c
  have hstandard : (({} : Context).config.getD {}).normalizer = .ok .standard := rfl
  obtain ⟨n, hn, hlower⟩ : ∃ n, c.normalizer = .ok n ∧ n.lowercase = false := ⟨_, rfl, rfl⟩
  exact ⟨hstandard, ⟨n, hn, hlower⟩,
    (@parse_blind_to_normalizer Unit q).2 {} { config := some c } _ n rfl rfl hstandard hn .tree s
      rfl⟩

end Action
end QueryTree
