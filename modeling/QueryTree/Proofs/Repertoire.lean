import QueryTree.Config.Basic
import QueryTree.Proofs.Failing

/-!
# The two repertoires of a pattern

A configuration is validated with its pattern read in the wide repertoire, and its normalizer is
built with the pattern read in the ASCII repertoire.  Reading does not look at the repertoire until
it is done: the two readings run side by side, find the same faults in the same places and the same
items, and keep the same switches but for the one of the ASCII repertoire.  Only then they part,
where a pattern that turns the wide repertoire on for itself meets the other one.  What follows,
the width of look-behinds and the repeats of templates, does not depend on the repertoire either.

## Main definitions

* `PatternReader.Blind`: a computation of the reader that does not look at the switch of the ASCII
  repertoire.
* `ownFlags`: the switches that a pattern turns on for the whole.

## Main results

* `PatternReader.blind_alternatives_and_sequence` — **reading does not look at the repertoire.**
* `PatternItem.failAlike_compile` — nor does compiling, as far as it can fail.
* `compile_asciiOnly` — what can be compiled in the wide repertoire and not in the other one.
* `Config.normalizer_of_validate` — **when a validated configuration has a normalizer.**
-/

namespace QueryTree

/-- The state with the switch of the ASCII repertoire on. -/
def PatternState.asciiOn (s : PatternState) : PatternState :=
  { s with flags := { s.flags with ascii := true } }

namespace PatternReader

variable {α β : Type}

/-! ### Computations that do not look at the repertoire -/

/-- A computation that does not look at the switch of the ASCII repertoire, and leaves it on if it
is on. -/
structure Blind (m : PatternReader α) : Prop where
  run_asciiOn : ∀ s, m.run s.asciiOn = (m.run s).map fun p => (p.1, p.2.asciiOn)

theorem blind_pure (a : α) : Blind (pure a : PatternReader α) := ⟨fun _ => rfl⟩

theorem blind_throw (e : PatternError) : Blind (throw e : PatternReader α) := ⟨fun _ => rfl⟩

theorem Blind.bind {m : PatternReader α} {f : α → PatternReader β} (hm : Blind m)
    (hf : ∀ a, Blind (f a)) : Blind (m >>= f) := by
  constructor
  intro s
  rw [StateT.run_bind, StateT.run_bind, hm.run_asciiOn s]
  cases m.run s with
  | error e => rfl
  | ok p => exact (hf p.1).run_asciiOn p.2

theorem Blind.ite {c : Prop} [Decidable c] {m m' : PatternReader α} (hm : Blind m)
    (hm' : Blind m') : Blind (if c then m else m') := by
  split
  · exact hm
  · exact hm'

/-- What is done under a condition before going on. -/
theorem Blind.before {c : Prop} [Decidable c] {m : PatternReader Unit}
    {f : Unit → PatternReader α} (hm : Blind m) (hf : ∀ u, Blind (f u)) :
    Blind (if c then m >>= f else f ()) :=
  Blind.ite (hm.bind hf) (hf ())

/-- A choice between two values before going on. -/
theorem Blind.either {c : Prop} [Decidable c] {m m' : PatternReader α} {f : α → PatternReader β}
    (hm : Blind m) (hm' : Blind m') (hf : ∀ a, Blind (f a)) :
    Blind (if c then m >>= f else m' >>= f) :=
  Blind.ite (hm.bind hf) (hm'.bind hf)

/-- What is read from the state must not depend on the switch. -/
theorem blind_get {f : PatternState → PatternReader α} (hf : ∀ s, Blind (f s))
    (hsame : ∀ s, f s.asciiOn = f s) : Blind (get >>= f) := by
  constructor
  intro s
  show (f s.asciiOn).run s.asciiOn = ((f s).run s).map _
  rw [hsame, (hf s).run_asciiOn s]

/-- What is done to the state must not depend on the switch. -/
theorem blind_modify {f : PatternState → PatternState} (hf : ∀ s, f s.asciiOn = (f s).asciiOn) :
    Blind (modify f) := by
  constructor
  intro s
  show Except.ok ((), f s.asciiOn) = Except.ok ((), (f s).asciiOn)
  rw [hf]

theorem blind_modify_bind {f : PatternState → PatternState} {g : Unit → PatternReader α}
    (hf : ∀ s, f s.asciiOn = (f s).asciiOn) (hg : ∀ u, Blind (g u)) : Blind (modify f >>= g) :=
  (blind_modify hf).bind hg

/-! ### Tokens -/

theorem blind_position : Blind position := blind_get (fun _ => blind_pure _) fun _ => rfl

theorem blind_failAt (fault : PatternFault) (place : Nat) :
    Blind (failAt fault place : PatternReader α) :=
  blind_get (fun _ => blind_throw _) fun _ => rfl

theorem blind_failBefore (fault : PatternFault) (offset : Nat) :
    Blind (failBefore fault offset : PatternReader α) :=
  blind_position.bind fun _ => blind_failAt ..

theorem blind_moveTo (rest : List PatternToken) : Blind (moveTo rest) := by
  unfold moveTo
  split
  · exact blind_modify fun _ => rfl
  · exact Blind.ite (blind_failAt ..) (blind_modify fun _ => rfl)

theorem blind_peek : Blind peek := blind_get (fun _ => blind_pure _) fun _ => rfl

theorem blind_take : Blind take := by
  refine blind_get (fun s => ?_) fun _ => rfl
  split
  · exact blind_pure _
  · exact (blind_moveTo _).bind fun _ => blind_pure _

theorem blind_accept (c : Char) : Blind (accept c) :=
  blind_peek.bind fun _ => Blind.ite (blind_take.bind fun _ => blind_pure _) (blind_pure _)

theorem blind_takeDigits (limit base : Nat) : Blind (takeDigits limit base) :=
  blind_get (fun _ => (blind_moveTo _).bind fun _ => blind_pure _) fun _ => rfl

theorem blind_takePast (closing : Char) : Blind (takePast closing) := by
  refine blind_get (fun s => ?_) fun _ => rfl
  dsimp only
  split
  · exact (blind_moveTo _).bind fun _ => blind_pure _
  · exact Blind.ite (blind_failAt ..) ((blind_moveTo _).bind fun _ => blind_pure _)

theorem blind_takeName (closing : Char) (what : Text) : Blind (takeName closing what) := by
  refine blind_get (fun s => (blind_takePast closing).bind fun name => ?_) fun _ => rfl
  split
  · exact blind_failBefore ..
  · exact blind_pure _
  · exact Blind.ite (blind_failBefore ..) (blind_failBefore ..)

theorem blind_groupCount : Blind groupCount := blind_get (fun _ => blind_pure _) fun _ => rfl

theorem blind_groupWidth? (group : Nat) : Blind (groupWidth? group) :=
  blind_get (fun _ => blind_pure _) fun _ => rfl

theorem blind_checkLookbehind (group : Nat) : Blind (checkLookbehind group) := by
  refine blind_get (fun s => ?_) fun _ => rfl
  split
  · exact blind_pure _
  · refine (blind_groupWidth? group).bind fun width => ?_
    exact Blind.before (blind_failBefore ..) fun _ =>
      Blind.ite (blind_failBefore ..) (blind_pure _)

theorem blind_checkName (name : Text) : Blind (checkName name) :=
  Blind.ite (blind_failBefore ..) (blind_pure _)

/-! ### Escapes -/

theorem blind_hexEscape (letter : Char) (count : Nat) : Blind (hexEscape letter count) :=
  (blind_takeDigits count 16).bind fun _ => Blind.before (blind_failBefore ..) fun _ =>
    Blind.before (blind_failBefore ..) fun _ => blind_pure _

theorem blind_namedEscape : Blind namedEscape :=
  (blind_accept _).bind fun _ => Blind.before (blind_failBefore ..) fun _ =>
    (blind_takeName ..).bind fun _ => blind_failBefore ..

theorem blind_octalCode (escape : Text) : Blind (octalCode escape) :=
  Blind.before (blind_failBefore ..) fun _ => blind_pure _

theorem blind_plainEscape (c : Char) : Blind (plainEscape c) :=
  Blind.before (blind_failBefore ..) fun _ => blind_pure _

theorem blind_setEscape (c : Char) : Blind (setEscape c) := by
  unfold setEscape
  split
  · exact blind_pure _
  · exact blind_pure _
  · refine Blind.ite ((blind_hexEscape ..).bind fun _ => blind_pure _) ?_
    refine Blind.ite ((blind_hexEscape ..).bind fun _ => blind_pure _) ?_
    refine Blind.ite ((blind_hexEscape ..).bind fun _ => blind_pure _) ?_
    refine Blind.ite (blind_namedEscape.bind fun _ => blind_pure _) ?_
    refine Blind.ite ?_ ((blind_plainEscape c).bind fun _ => blind_pure _)
    exact (blind_takeDigits ..).bind fun _ => (blind_octalCode _).bind fun _ => blind_pure _

theorem blind_referenceTo (group offset : Nat) : Blind (referenceTo group offset) := by
  refine blind_groupCount.bind fun count => Blind.ite ?_ (blind_failBefore ..)
  refine (blind_groupWidth? group).bind fun width => ?_
  split
  · exact blind_failBefore ..
  · exact (blind_checkLookbehind group).bind fun _ => blind_pure _

theorem blind_digitEscape (c : Char) : Blind (digitEscape c) :=
  (blind_takeDigits 1 10).bind fun _ =>
    Blind.either (blind_takeDigits 1 8) (blind_pure _) fun _ =>
      Blind.ite (blind_referenceTo ..) ((blind_octalCode _).bind fun _ => blind_pure _)

theorem blind_escape (c : Char) : Blind (escape c) := by
  unfold escape
  split
  · exact blind_pure _
  · exact blind_pure _
  · exact blind_pure _
  · refine Blind.ite ((blind_hexEscape ..).bind fun _ => blind_pure _) ?_
    refine Blind.ite ((blind_hexEscape ..).bind fun _ => blind_pure _) ?_
    refine Blind.ite ((blind_hexEscape ..).bind fun _ => blind_pure _) ?_
    refine Blind.ite (blind_namedEscape.bind fun _ => blind_pure _) ?_
    refine Blind.ite ((blind_takeDigits ..).bind fun _ => blind_pure _) ?_
    exact Blind.ite (blind_digitEscape c) ((blind_plainEscape c).bind fun _ => blind_pure _)

/-! ### Sets and repeats -/

theorem blind_setToken (token : Text) : Blind (setToken token) := by
  unfold setToken
  split
  · exact blind_setEscape _
  · exact blind_pure _
  · exact blind_pure _

theorem blind_setMembers (start fuel : Nat) (found : List SetMember) :
    Blind (setMembers start fuel found) := by
  induction fuel generalizing found with
  | zero => exact blind_pure _
  | succ fuel ih =>
    refine blind_take.bind fun token? => ?_
    split
    · exact blind_failAt ..
    · refine Blind.ite (blind_pure _) ((blind_setToken _).bind fun low => ?_)
      refine (blind_accept '-').bind fun isRange => Blind.ite ?_ (ih _)
      refine blind_take.bind fun token?' => ?_
      split
      · exact blind_failAt ..
      · exact blind_pure _
      · refine (blind_setToken _).bind fun high => ?_
        dsimp only
        split
        · exact Blind.before (blind_failBefore ..) fun _ => ih _
        · exact blind_failBefore ..

theorem blind_charSet (start : Nat) : Blind (charSet start) := by
  refine (blind_accept '^').bind fun negated => blind_get (fun s => ?_) fun _ => rfl
  exact (blind_setMembers ..).bind fun _ => blind_pure _

theorem blind_repeatRange : Blind repeatRange := by
  refine blind_get (fun s => blind_position.bind fun start => blind_peek.bind fun next => ?_)
    fun _ => rfl
  refine Blind.ite (blind_pure _) ((blind_takeDigits ..).bind fun low => ?_)
  refine (blind_accept ',').bind fun hasHigh => ?_
  refine Blind.either (blind_takeDigits ..) (blind_pure _) fun high => ?_
  refine (blind_accept _).bind fun closed => ?_
  refine Blind.ite ((blind_moveTo _).bind fun _ => blind_pure _) ?_
  refine Blind.before (blind_throw _) fun _ => Blind.ite (blind_pure _) ?_
  exact Blind.before (blind_throw _) fun _ => Blind.before (blind_failAt ..) fun _ => blind_pure _

theorem blind_repeatCounts (c : Char) : Blind (repeatCounts c) := by
  unfold repeatCounts
  split
  · exact blind_pure _
  · exact blind_pure _
  · exact blind_pure _
  · exact blind_repeatRange

theorem blind_repeatKind : Blind repeatKind :=
  (blind_accept '?').bind fun _ => Blind.ite (blind_pure _) ((blind_accept '+').bind fun _ =>
    Blind.ite (blind_pure _) (blind_pure _))

theorem blind_repeatLast (start least : Nat) (most : Option Nat) (found : List PatternItem) :
    Blind (repeatLast start least most found) := by
  unfold repeatLast
  split
  · exact blind_failAt ..
  · exact blind_failAt ..
  · exact blind_failAt ..
  · exact blind_repeatKind.bind fun _ => blind_pure _
  · exact blind_repeatKind.bind fun _ => blind_pure _

/-! ### Groups -/

theorem blind_flagsOn (fuel : Nat) (token : Text) (on : Flags) : Blind (flagsOn fuel token on) := by
  induction fuel generalizing token on with
  | zero => exact blind_pure _
  | succ fuel ih =>
    refine Blind.before (blind_failBefore ..) fun _ =>
      Blind.before (blind_failBefore ..) fun _ => blind_take.bind fun next? => ?_
    split
    · exact blind_failBefore ..
    · exact Blind.ite (blind_pure _) (Blind.before (blind_failBefore ..) fun _ => ih ..)

theorem blind_flagsOff (fuel : Nat) (token : Text) (off : Flags) :
    Blind (flagsOff fuel token off) := by
  induction fuel generalizing token off with
  | zero => exact blind_pure _
  | succ fuel ih =>
    refine Blind.before (blind_failBefore ..) fun _ => blind_take.bind fun next? => ?_
    split
    · exact blind_failBefore ..
    · exact Blind.ite (blind_pure _) (Blind.before (blind_failBefore ..) fun _ => ih ..)

/-- Switches are turned on for the whole pattern whatever the repertoire is. -/
theorem blind_flagGroup (token : Text) : Blind (flagGroup token) := by
  refine blind_get (fun s => ?_) fun _ => rfl
  refine Blind.either (blind_pure _) (blind_flagsOn ..) fun on => ?_
  obtain ⟨on, next⟩ := on
  refine Blind.ite (blind_modify_bind (fun _ => rfl) fun _ => blind_pure _) ?_
  refine Blind.before (blind_failBefore ..) fun _ => ?_
  have hend : ∀ off : Flags, Blind (do
      if off.template then failBefore .globalFlagOff 1
      if on.meets off then failBefore .flagOnAndOff 1
      return some (on, off) : PatternReader (Option (Flags × Flags))) := fun off =>
    Blind.before (blind_failBefore ..) fun _ => Blind.before (blind_failBefore ..) fun _ =>
      blind_pure _
  refine Blind.ite (blind_take.bind fun first? => ?_) ((blind_pure _).bind hend)
  split
  · exact (blind_failBefore ..).bind hend
  · exact Blind.before (blind_failBefore ..) fun _ => (blind_flagsOff ..).bind hend

theorem blind_namedHead : Blind namedHead := by
  refine (blind_accept '<').bind fun isDefinition => Blind.ite ?_ ?_
  · exact (blind_takeName ..).bind fun _ => (blind_checkName _).bind fun _ => blind_pure _
  refine (blind_accept '=').bind fun isReference => Blind.ite ?_ (blind_take.bind fun token? => ?_)
  · refine (blind_takeName ..).bind fun name => (blind_checkName _).bind fun _ => ?_
    refine blind_get (fun s => ?_) fun _ => rfl
    split
    · exact blind_failBefore ..
    · refine (blind_groupWidth? _).bind fun width => ?_
      split
      · exact blind_failBefore ..
      · exact (blind_checkLookbehind _).bind fun _ => blind_pure _
  · split
    · exact blind_failBefore ..
    · exact blind_failBefore ..

theorem blind_conditionHead : Blind conditionHead := by
  have hend : ∀ group : Nat, Blind (do
      checkLookbehind group
      return GroupHead.condition group) := fun group =>
    (blind_checkLookbehind group).bind fun _ => blind_pure _
  refine (blind_takeName ..).bind fun name => Blind.ite (blind_get (fun s => ?_) fun _ => rfl) ?_
  · split
    · exact (blind_failBefore ..).bind hend
    · exact (blind_pure _).bind hend
  · refine Blind.before (blind_failBefore ..) fun _ =>
      Blind.before (blind_failBefore ..) fun _ => blind_position.bind fun place => ?_
    exact blind_modify_bind (fun _ => rfl) fun _ => (blind_pure _).bind hend

theorem blind_groupHead (start : Nat) : Blind (groupHead start) := by
  refine (blind_accept '?').bind fun isSpecial => Blind.ite (blind_pure _) ?_
  refine blind_take.bind fun token? => ?_
  split
  · exact blind_failBefore ..
  · split
    · exact blind_namedHead
    · exact blind_pure _
    · refine (blind_takePast ')').bind fun comment => ?_
      split
      · exact blind_failAt ..
      · exact blind_pure _
    · exact blind_pure _
    · exact blind_pure _
    · refine blind_take.bind fun next? => ?_
      split
      · exact blind_failBefore ..
      · exact blind_pure _
      · exact blind_pure _
      · exact blind_failBefore ..
    · exact blind_conditionHead
    · exact blind_pure _
    · refine Blind.ite ((blind_flagGroup _).bind fun flags => ?_) (blind_failBefore ..)
      split
      · exact blind_pure _
      · exact blind_pure _

theorem blind_openGroup (name : Option Text) : Blind (openGroup name) := by
  have hend : ∀ group : Nat, Blind (do
      modify fun s : PatternState => { s with groups := s.groups ++ [none] }
      return group : PatternReader Nat) := fun group =>
    blind_modify_bind (fun _ => rfl) fun _ => blind_pure _
  refine blind_groupCount.bind fun group => ?_
  cases name with
  | none => exact hend group
  | some n =>
    refine blind_get (fun s => ?_) fun _ => rfl
    split
    · exact (blind_failBefore ..).bind fun _ => hend group
    · exact blind_modify_bind (fun _ => rfl) fun _ => hend group

theorem blind_closeGroup (group : Nat) (body : List PatternItem) : Blind (closeGroup group body) :=
  blind_modify fun _ => rfl

theorem blind_enterLookbehind : Blind enterLookbehind :=
  blind_get (fun _ => blind_groupCount.bind fun _ => blind_modify_bind (fun _ => rfl) fun _ =>
    blind_pure _) fun _ => rfl

theorem blind_closing (start : Nat) : Blind (closing start) :=
  (blind_accept ')').bind fun _ => Blind.ite (blind_failAt ..) (blind_pure _)

/-! ### Sequences and alternatives -/

/-- A sequence is read whatever the repertoire is, if shorter ones and their alternatives are. -/
theorem blind_sequence_succ {fuel : Nat}
    (halternatives : ∀ nested verbose first, Blind (alternatives fuel nested verbose first))
    (hsequence : ∀ verbose first found, Blind (sequence fuel verbose first found))
    (verbose first : Bool) (found : List PatternItem) :
    Blind (sequence (fuel + 1) verbose first found) := by
  refine blind_position.bind fun start => blind_peek.bind fun token? => ?_
  split
  · exact blind_pure _
  · exact blind_pure _
  · exact blind_pure _
  refine blind_take.bind fun _ => ?_
  split
  · next c _ _ =>
    refine Blind.ite (hsequence ..) ?_
    refine Blind.ite ((blind_takePast _).bind fun _ => hsequence ..) ?_
    refine Blind.ite ((blind_charSet start).bind fun _ => hsequence ..) ?_
    refine Blind.ite ((blind_repeatCounts c).bind fun counts => ?_) ?_
    · split
      · exact hsequence ..
      · exact (blind_repeatLast ..).bind fun _ => hsequence ..
    refine Blind.ite (hsequence ..) (Blind.ite (hsequence ..) (Blind.ite (hsequence ..) ?_))
    refine Blind.ite ((blind_groupHead start).bind fun head => ?_) (hsequence ..)
    match head with
    | .item i => exact hsequence ..
    | .nothing false => exact hsequence ..
    | .nothing true =>
      exact Blind.before (blind_failAt ..) fun _ => blind_get (fun _ => hsequence ..) fun _ => rfl
    | .capture name =>
      refine (blind_openGroup name).bind fun group => (halternatives ..).bind fun body => ?_
      exact (blind_closing start).bind fun _ => (blind_closeGroup ..).bind fun _ => hsequence ..
    | .scoped on off =>
      exact (halternatives ..).bind fun _ => (blind_closing start).bind fun _ => hsequence ..
    | .atomic =>
      exact (halternatives ..).bind fun _ => (blind_closing start).bind fun _ => hsequence ..
    | .look behind negated =>
      refine blind_get (fun s => ?_) fun _ => rfl
      refine Blind.either blind_enterLookbehind (blind_pure _) fun outer => ?_
      refine (halternatives ..).bind fun body => blind_modify_bind (fun _ => rfl) fun _ => ?_
      exact (blind_closing start).bind fun _ => hsequence ..
    | .condition group =>
      refine (hsequence ..).bind fun yes => (blind_accept '|').bind fun hasNo => ?_
      refine Blind.either (hsequence ..) (blind_pure _) fun no => blind_peek.bind fun next => ?_
      refine Blind.before (blind_failBefore ..) fun _ => ?_
      exact (blind_closing start).bind fun _ => hsequence ..
  · exact (blind_escape _).bind fun _ => hsequence ..
  · exact hsequence ..

/-- **Reading does not look at the repertoire**, by induction on the depth of the reading. -/
theorem blind_alternatives_and_sequence (fuel : Nat) :
    (∀ nested verbose first, Blind (alternatives fuel nested verbose first)) ∧
      ∀ verbose first found, Blind (sequence fuel verbose first found) := by
  induction fuel with
  | zero =>
    exact ⟨fun _ _ _ => blind_pure _, fun _ _ _ => blind_pure _⟩
  | succ fuel ih =>
    refine ⟨fun nested verbose first => ?_, blind_sequence_succ ih.1 ih.2⟩
    refine (ih.2 ..).bind fun items => (blind_accept '|').bind fun goesOn => ?_
    refine Blind.ite (blind_get (fun s => ?_) fun _ => rfl) (blind_pure _)
    exact (ih.1 ..).bind fun _ => blind_pure _

/-! ### Where the repertoire is settled -/

/-- The items of a pattern, before its repertoire is settled. -/
def unsettled : PatternReader (List PatternItem) := do
  moveTo (← get).rest
  let s ← get
  return joinAlternatives (← alternatives (2 * s.rest.length + 3) false s.flags.verbose true)

/-- Settles the repertoire of the pattern. -/
def settle : PatternReader Unit := do
  let flags ← settleRepertoire (← get).flags
  modify fun s => { s with flags := flags }

/-- What is checked when the whole pattern is read. -/
def checkWhole (items : List PatternItem) : PatternReader (List PatternItem) := do
  if (← peek).isSome then failBefore .unbalanced 0
  let s ← get
  match s.conditions.find? fun g => s.groups.length < g.1 with
  | some (group, place) => failAt (.invalidReference group) place
  | none => return items

theorem blind_unsettled : Blind unsettled := by
  refine blind_get (fun s => (blind_moveTo _).bind fun _ => ?_) fun _ => rfl
  refine blind_get (fun s => ?_) fun _ => rfl
  exact ((blind_alternatives_and_sequence _).1 ..).bind fun _ => blind_pure _

/-- The repertoire is settled between reading and the last checks. -/
theorem wholePattern_eq :
    wholePattern = unsettled >>= fun items => settle >>= fun _ => checkWhole items := by
  symm
  simp only [unsettled, settle, bind_assoc, pure_bind]
  rfl

theorem run_settle (s : PatternState) :
    settle.run s = (settleRepertoire s.flags).map fun f => ((), { s with flags := f }) := by
  have hrun : settle.run s = (settleRepertoire s.flags >>= fun f => pure (f, s)) >>= fun p =>
    .ok ((), { p.2 with flags := p.1 }) := rfl
  rw [hrun]
  cases settleRepertoire s.flags <;> rfl

/-- The last checks look at no switch and change nothing. -/
theorem run_checkWhole (items : List PatternItem) (s : PatternState) (f : Flags) :
    (checkWhole items).run { s with flags := f }
      = ((checkWhole items).run s).map fun _ => (items, { s with flags := f }) := by
  obtain ⟨pattern, rest, flags, groups, names, lookbehind, conditions⟩ := s
  cases rest with
  | cons t ts => rfl
  | nil =>
    have hrun : ∀ flags, (checkWhole items).run
          ⟨pattern, [], flags, groups, names, lookbehind, conditions⟩
        = (match conditions.find? fun g => groups.length < g.1 with
          | some (group, place) => failAt (.invalidReference group) place
          | none => return items : PatternReader (List PatternItem)).run
          ⟨pattern, [], flags, groups, names, lookbehind, conditions⟩ := fun _ => rfl
    rw [hrun, hrun]
    cases conditions.find? fun g => groups.length < g.1 with
    | some g => rfl
    | none => rfl

end PatternReader

/-! ### Compiling -/

namespace PatternItem

theorem template_within {f g : Flags} (h : f.template = g.template) (on off : Flags) :
    (f.within on off).template = (g.within on off).template := by
  unfold Flags.within
  split <;> simp [Flags.union, Flags.minus, h]

mutual

/-- Whether an item can be compiled depends on the switch of templates only. -/
theorem failAlike_compileOne {f g : Flags} (h : f.template = g.template) :
    ∀ i, FailAlike (compileOne f i) (compileOne g i)
  | .any => rfl
  | .code n => rfl
  | .notCode n => rfl
  | .set negated members => rfl
  | .anchor a => rfl
  | .reference number least most => rfl
  | .group none on off body => failAlike_compile (template_within h on off) body
  | .group (some number) on off body =>
    (failAlike_compile (template_within h on off) body).bind fun _ _ => rfl
  | .atomic body => (failAlike_compile h body).bind fun _ _ => rfl
  | .look false negated body => (failAlike_compile h body).bind fun _ _ => rfl
  | .look true negated body =>
    FailAlike.bind rfl fun _ _ => (failAlike_compile h body).bind fun _ _ => rfl
  | .repeated kind least most body => by
    rw [compileOne, compileOne, h]
    split
    · rfl
    · exact (failAlike_compile h body).bind fun _ _ => rfl
  | .branch alternatives => failAlike_compileAny h alternatives
  | .condition number yes no =>
    (failAlike_compile h yes).bind fun _ _ => (failAlike_compile h no).bind fun _ _ => rfl

theorem failAlike_compile {f g : Flags} (h : f.template = g.template) :
    ∀ is, FailAlike (compile f is) (compile g is)
  | [] => rfl
  | i :: is =>
    (failAlike_compileOne h i).bind fun _ _ => (failAlike_compile h is).bind fun _ _ => rfl

theorem failAlike_compileAny {f g : Flags} (h : f.template = g.template) :
    ∀ as, FailAlike (compileAny f as) (compileAny g as)
  | [] => rfl
  | [a] => failAlike_compile h a
  | a :: b :: as =>
    (failAlike_compile h a).bind fun _ _ => (failAlike_compileAny h (b :: as)).bind fun _ _ => rfl

end

end PatternItem

/-! ### Validation and the normalizer -/

open PatternReader

/-- The reader at the start of a pattern. -/
def PatternState.start (flags : Flags) (pattern : Text) : PatternState :=
  { pattern, rest := PatternToken.tokensFrom 0 pattern, flags }

/-- The switches that a pattern turns on for the whole. -/
def ownFlags (pattern : Text) : Except PatternError Flags :=
  (unsettled.run (.start {} pattern)).map fun p => p.2.flags

/-- Reading comes first, then the repertoire is settled, and then the rest is checked. -/
theorem readPattern_eq_bind (flags : Flags) (pattern : Text) :
    readPattern flags pattern = unsettled.run (.start flags pattern) >>= fun p =>
      settleRepertoire p.2.flags >>= fun f =>
        ((checkWhole p.1).run p.2).map fun _ => (p.1, f) := by
  show (wholePattern.run (.start flags pattern)).map _ = _
  rw [wholePattern_eq, StateT.run_bind]
  cases unsettled.run (.start flags pattern) with
  | error e => rfl
  | ok p =>
    show ((settle >>= fun _ => checkWhole p.1).run p.2).map _ = settleRepertoire p.2.flags >>= _
    rw [StateT.run_bind, run_settle]
    cases settleRepertoire p.2.flags with
    | error e => rfl
    | ok f =>
      show ((checkWhole p.1).run { p.2 with flags := f }).map _ = ((checkWhole p.1).run p.2).map _
      rw [run_checkWhole]
      cases (checkWhole p.1).run p.2 <;> rfl

/-- Settling the repertoire leaves the switch of templates as it is. -/
theorem template_of_settleRepertoire {f f' : Flags} (h : settleRepertoire f = .ok f') :
    f'.template = f.template := by
  unfold settleRepertoire at h
  split at h
  · rw [← Except.ok.inj h]
  · split at h
    · cases h
    · rw [← Except.ok.inj h]

/-- A pattern that can be read passes each of the three steps. -/
theorem readPattern_eq_ok_iff {flags f : Flags} {pattern : Text} {items : List PatternItem} :
    readPattern flags pattern = .ok (items, f) ↔ ∃ s,
      unsettled.run (.start flags pattern) = .ok (items, s) ∧ settleRepertoire s.flags = .ok f ∧
        ∃ p, (checkWhole items).run s = .ok p := by
  rw [readPattern_eq_bind]
  constructor
  · intro h
    obtain ⟨⟨items', s⟩, hreading, h⟩ := exists_of_bind_eq_ok h
    obtain ⟨f', hsettle, h⟩ := exists_of_bind_eq_ok h
    dsimp only at h hsettle
    cases hcheck : (checkWhole items').run s with
    | error e =>
      rw [hcheck] at h
      cases h
    | ok p =>
      rw [hcheck] at h
      obtain ⟨rfl, rfl⟩ := Prod.mk.inj (Except.ok.inj h)
      exact ⟨s, hreading, hsettle, p, hcheck⟩
  · rintro ⟨s, hreading, hsettle, p, hcheck⟩
    rw [hreading]
    show settleRepertoire s.flags >>= _ = _
    rw [hsettle]
    show ((checkWhole items).run s).map _ = _
    rw [hcheck]
    rfl

/-- **The two readings of a pattern.**  If a pattern can be compiled in the wide repertoire, then it
can be compiled in the ASCII repertoire too, unless it turns the wide one on for itself; and then
this is what is wrong with it. -/
theorem compile_asciiOnly {pattern : Text} {program : Program}
    (h : Program.compile {} pattern = .ok program) :
    ∃ f, ownFlags pattern = .ok f ∧
      (f.unicode = false → ∃ program', Program.compile .asciiOnly pattern = .ok program') ∧
      (f.unicode = true → Program.compile .asciiOnly pattern = .error .bothRepertoires) := by
  obtain ⟨⟨items, f⟩, hread, h⟩ := exists_of_bind_eq_ok h
  obtain ⟨regex, hregex, -⟩ := exists_of_bind_eq_ok h
  obtain ⟨s, hreading, hsettle, p, hcheck⟩ := readPattern_eq_ok_iff.mp hread
  have hascii : unsettled.run (.start .asciiOnly pattern) = .ok (items, s.asciiOn) := by
    show unsettled.run (PatternState.start {} pattern).asciiOn = _
    rw [blind_unsettled.run_asciiOn, hreading]
    rfl
  refine ⟨s.flags, by rw [ownFlags, hreading]; rfl, fun hwide => ?_, fun hwide => ?_⟩
  · have hsettle' : settleRepertoire s.asciiOn.flags = .ok s.asciiOn.flags := by
      simp [settleRepertoire, PatternState.asciiOn, hwide]
    have hcheck' : (checkWhole items).run s.asciiOn = .ok (items, s.asciiOn) := by
      have hrun := run_checkWhole items s s.asciiOn.flags
      rw [hcheck] at hrun
      exact hrun
    have hread' : readPattern .asciiOnly pattern = .ok (items, s.asciiOn.flags) :=
      readPattern_eq_ok_iff.mpr ⟨s.asciiOn, hascii, hsettle', _, hcheck'⟩
    have htemplate : f.template = s.asciiOn.flags.template := by
      rw [template_of_settleRepertoire hsettle]
      rfl
    obtain ⟨regex', hregex'⟩ := (PatternItem.failAlike_compile htemplate items).exists_eq_ok hregex
    rw [Program.compile, hread']
    show ∃ program', (PatternItem.compile s.asciiOn.flags items >>= _) = .ok program'
    rw [hregex']
    exact ⟨_, rfl⟩
  · have hboth : settleRepertoire s.asciiOn.flags = .error .bothRepertoires := by
      simp [settleRepertoire, PatternState.asciiOn, hwide]
    rw [Program.compile, readPattern_eq_bind, hascii]
    show ((settleRepertoire s.asciiOn.flags >>= _) >>= _) = _
    rw [hboth]
    rfl

namespace Config

/-- A normalizer is built if its pattern can be compiled in the ASCII repertoire. -/
theorem failAlike_normalizer (c : Config) :
    FailAlike (Program.compile .asciiOnly c.stripPattern) c.normalizer := by
  unfold normalizer Normalizer.make Pattern.ofText
  split
  · next program hcompile => exact congrArg failure? hcompile
  · next e hcompile => exact congrArg failure? hcompile

theorem exists_compile_of_validate {c : Config} {warnings : List ConfigWarning}
    (h : c.validate = .ok warnings) :
    ∃ program, Program.compile {} c.stripPattern = .ok program := by
  unfold validate at h
  split at h
  · next program hcompile => exact ⟨program, hcompile⟩
  · cases h
  · cases h

/-- **When a validated configuration has a normalizer**: exactly when its strip pattern does not
turn the wide repertoire on for the whole.  Otherwise that is the reason why there is none. -/
theorem normalizer_of_validate {c : Config} {warnings : List ConfigWarning}
    (h : c.validate = .ok warnings) :
    ∃ f, ownFlags c.stripPattern = .ok f ∧
      ((∃ n, c.normalizer = .ok n) ↔ f.unicode = false) ∧
      (f.unicode = true → c.normalizer = .error .bothRepertoires) := by
  obtain ⟨program, hcompile⟩ := exists_compile_of_validate h
  obtain ⟨f, hflags, hnarrow, hwide⟩ := compile_asciiOnly hcompile
  have hboth : f.unicode = true → c.normalizer = .error .bothRepertoires := by
    intro hf
    have hfail := c.failAlike_normalizer
    rw [hwide hf] at hfail
    exact failure?_eq_some_iff.mp hfail.symm
  refine ⟨f, hflags, ⟨?_, ?_⟩, hboth⟩
  · rintro ⟨n, hn⟩
    cases hf : f.unicode with
    | false => rfl
    | true =>
      rw [hboth hf] at hn
      cases hn
  · intro hf
    obtain ⟨program', hprogram'⟩ := hnarrow hf
    exact c.failAlike_normalizer.exists_eq_ok hprogram'

/-- Switches of other kinds, also that of the ASCII repertoire itself, and the wide repertoire
inside a group do no harm. -/
theorem normalizer_of_validate_scoped :
    let c : Config := { stripPattern := "(?ai)[\\d_](?u:\\w)".toList }
    (∃ warnings, c.validate = .ok warnings) ∧ ∃ n, c.normalizer = .ok n := by
  intro c
  obtain ⟨warnings, hvalid⟩ : ∃ warnings, c.validate = .ok warnings :=
    failure?_eq_none_iff.mp (by decide +kernel)
  obtain ⟨f, hflags, hiff, -⟩ := normalizer_of_validate hvalid
  have hf : (ownFlags c.stripPattern).toOption.map Flags.unicode = some false := by decide +kernel
  rw [hflags] at hf
  exact ⟨⟨warnings, hvalid⟩, hiff.mpr (Option.some.inj hf)⟩

/-- A pattern that turns the wide repertoire on is valid, but there is no normalizer for it. -/
theorem normalizer_wide_pattern :
    let c : Config := { stripPattern := "(?u)a".toList }
    (∃ warnings, c.validate = .ok warnings) ∧ c.normalizer = .error .bothRepertoires :=
  ⟨failure?_eq_none_iff.mp (by decide +kernel), failure?_eq_some_iff.mp (by decide +kernel)⟩

end Config
end QueryTree
