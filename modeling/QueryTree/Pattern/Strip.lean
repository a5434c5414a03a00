import QueryTree.Pattern.Compile

/-!
# Stripping a text

A pattern is stripped from a text by deleting its matches from left to right.  At each place the
first match is deleted; where the first match is empty, the first one that is not; and where
there is none the character stays.

## Main definitions

* `Pattern`: a text that compiles in the ASCII repertoire.
* `Program.removal`: how many characters are deleted at a place.
* `Pattern.strip`: a text without the matches of a pattern.
-/

namespace QueryTree

/-- The switches that strip patterns are compiled with. -/
def Flags.asciiOnly : Flags := { ascii := true }

/-- A strip pattern with its compiled form. -/
structure Pattern where
  source : Text
  program : Program
  compiled : Program.compile .asciiOnly source = .ok program

namespace Program

/-- Whether a match can start with what follows, at first look. -/
def mayStart (p : Program) (after : Text) : Bool :=
  match p.firstLook with
  | none => true
  | some t => after.head?.any t.test

/-- The length of the first match at a place, the empty one left out if it is not wanted. -/
def matchLength? (p : Program) (wantsEmpty : Bool) (before after : Text) : Option Nat :=
  let accept (d : Cursor) : Option Cursor :=
    if d.left = after.length && !wantsEmpty then none else some d
  (p.regex.run accept ⟨before, after, []⟩).map fun d => after.length - d.left

/-- How many characters are deleted at a place. -/
def removal (p : Program) (before after : Text) : Nat :=
  if !p.mayStart after then 0
  else match p.matchLength? true before after with
    | none => 0
    | some (n + 1) => n + 1
    | some 0 => (p.matchLength? false before after).getD 0

/-- The rest of a text without the matches of a pattern, given what stands before it (nearest
first) and how many of its characters are still to be deleted. -/
def stripFrom (p : Program) : Nat → Text → Text → Text
  | _, _, [] => []
  | n + 1, before, c :: cs => stripFrom p n (c :: before) cs
  | 0, before, c :: cs =>
    match p.removal before (c :: cs) with
    | 0 => c :: stripFrom p 0 (c :: before) cs
    | n + 1 => stripFrom p n (c :: before) cs

/-- A text without the matches of a pattern. -/
def strip (p : Program) (t : Text) : Text := p.stripFrom 0 [] t

/-- Stripping deletes characters and does nothing else. -/
theorem stripFrom_sublist (p : Program) (n : Nat) (before t : Text) :
    (p.stripFrom n before t).Sublist t := by
  induction t generalizing n before with
  | nil => cases n <;> simp [stripFrom]
  | cons c cs ih =>
    cases n with
    | succ n => exact (ih n _).cons c
    | zero =>
      rw [stripFrom]
      split
      · exact (ih 0 _).cons_cons c
      · exact (ih _ _).cons c

end Program

namespace Pattern

/-- The pattern that a text is, or why it is none. -/
def ofText (source : Text) : Except PatternError Pattern :=
  match h : Program.compile .asciiOnly source with
  | .ok program => .ok ⟨source, program, h⟩
  | .error e => .error e

/-- A text without the matches of a pattern. -/
def strip (p : Pattern) (t : Text) : Text := p.program.strip t

theorem eq_of_source_eq {p q : Pattern} (h : p.source = q.source) : p = q := by
  obtain ⟨s, a, ha⟩ := p
  obtain ⟨t, b, hb⟩ := q
  cases h
  have : a = b := by rw [ha] at hb; exact Except.ok.inj hb
  cases this
  rfl

instance : DecidableEq Pattern := fun p q =>
  if h : p.source = q.source then isTrue (eq_of_source_eq h)
  else isFalse fun e => h (e ▸ rfl)

end Pattern
end QueryTree
