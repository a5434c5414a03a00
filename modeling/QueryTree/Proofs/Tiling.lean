import QueryTree.Proofs.Account
import QueryTree.Proofs.Conservation
import QueryTree.Proofs.Searches

/-!
# Literals tile a group

A literal that the scanner finds need not start where the scan started, and it may be empty.  Its
start is moved three times: over blanks, over a quote that is dropped, and over the dash of a
negated literal.  Here it is shown that nothing else is passed over: from the offset of a scan on, a
group is a lead of this form, the text of the literal, and the rest from which the next scan goes
on.  Every scan moves on, and what it finds depends only on the text that follows its offset.

The statements follow the grammar `Query.Reads` of what is left of the group, which has one case for
each way a literal can stand there.

## Main definitions

* `Literal.sign`: the dash of a negated literal.
* `Scan.IsLead`: what may stand before the text of a literal.
* `Scan.Tiles`: the contract of a literal that is found.
* `Scan.moved`: a find in a text with more characters in front.

## Main results

* `Query.Reads.literalAt_cases`: what one scan does, by what is left of the group.
* `Scan.literalAt_drop`: what is found depends only on the text from the offset on.
* `Scan.tiles_of_literalAt`: a literal that is found is a tile.
* `Scan.literal_tiles`: **the literal scanner tiles a group.**
-/

namespace QueryTree

variable {ν : Type}

/-- The dash that stands before the text of a negated literal. -/
def Literal.sign (l : Literal ν) : Text := if l.negated then ['-'] else []

theorem Literal.print_eq (l : Literal ν) : l.print = l.sign ++ l.text := by
  unfold print sign
  split <;> rfl

/-- The same part of a text with `k` more characters in front. -/
def Bounds.shift (k : Int) (b : Bounds) : Bounds := ⟨k + b.start, b.length⟩

namespace Scan

/-- A find in a text with `k` more characters in front. -/
def moved (k : Int) (found : Bounds × Literal ν) : Bounds × Literal ν :=
  (found.1.shift k, found.2)

/-- `IsLead l lead rest` says that `lead` can stand before `rest`, where the text of the literal
`l` starts. -/
inductive IsLead (l : Literal ν) : Text → Text → Prop
  /-- Blanks, and a dash exactly if the literal is negated. -/
  | plain {w rest : Text} : (∀ c ∈ w, c = ' ') → IsLead l (w ++ l.sign) rest
  /-- A quote behind the blanks: the literal is no phrase, and no other quote follows. -/
  | quote {w rest : Text} : (∀ c ∈ w, c = ' ') → l.kind ≠ .phrase → '"' ∉ l.sign ++ rest →
      IsLead l (w ++ '"' :: l.sign) rest

/-- The contract of a literal `l` that is found at `b` from the position `start` of a group on. -/
structure Tiles (g : Text) (start : Nat) (b : Bounds) (l : Literal ν) : Prop where
  within : EndsWithin g start b
  text : b.slice g = l.text
  lead : IsLead l (g.slice start b.start) (g.slice b.start g.length)

theorem IsLead.blank {l : Literal ν} {lead rest : Text} (h : IsLead l lead rest) :
    IsLead l (' ' :: lead) rest := by
  cases h with
  | @plain w _ hw => exact .plain (w := ' ' :: w) (by simpa using hw)
  | @quote w _ hw hkind hquote =>
    exact .quote (w := ' ' :: w) (by simpa using hw) hkind hquote

end Scan

namespace Query

open Scan

/-! ### The literal of a run -/

/-- A run is the dash of its literal and then the text. -/
theorem sign_append_text_ofRun (n : ν) (w : Text) : (ofRun n w).sign ++ (ofRun n w).text = w := by
  rw [← Literal.print_eq, print_ofRun]

theorem runBounds_eq (n : ν) (i : Int) (w : Text) :
    runBounds i w = ⟨i + (ofRun n w).sign.length, (ofRun n w).text.length⟩ := by
  by_cases hdash : w.head? = some '-'
  · obtain ⟨t, rfl⟩ := List.head?_eq_some_iff.mp hdash
    rfl
  · rw [runBounds_of_head?_ne hdash, ofRun_of_head?_ne hdash]
    simp [wordLiteral, Literal.sign]

/-! ### One scan, by what is left of the group -/

/-- A scan in front of a blank is the scan behind it. -/
theorem literalAt_blank_append (n : ν) (u s : Text) :
    literalAt n (u ++ ' ' :: s) u.length
      = literalAt n ((u ++ [' ']) ++ s) (u ++ [' ']).length := by
  have hlen : ((u ++ [' ']).length : Int) = u.length + 1 := by simp
  rw [literalAt_blank n rfl, hlen, List.append_cons]

/-- **What one scan does**, wherever the text `s` stands: there is nothing to find, or a lead and
then the text of a literal. -/
theorem Reads.literalAt_cases {n : ν} {s : Text} {ls : List (Literal ν)} (h : Reads n s ls) :
    (∀ u : Text, literalAt n (u ++ s) u.length = none) ∨
      ∃ l lead rest, s = lead ++ rest ∧ IsLead l lead rest ∧ ∀ u : Text,
        literalAt n (u ++ s) u.length
          = some (⟨u.length + lead.length, l.text.length⟩, l) := by
  induction h with
  | nil =>
    left
    intro u
    rw [List.append_nil, literalAt_end n rfl]
  | @blank s ls _ ih =>
    rcases ih with hnone | ⟨l, lead, rest, hs, hlead, hfound⟩
    · left
      intro u
      rw [literalAt_blank_append, hnone]
    · right
      refine ⟨l, ' ' :: lead, rest, by rw [hs]; rfl, hlead.blank, ?_⟩
      intro u
      rw [literalAt_blank_append, hfound]
      simp only [List.length_append, List.length_cons, List.length_nil, Option.some.injEq,
        Prod.mk.injEq, Bounds.mk.injEq, and_true]
      omega
  | @phrase w s ls hw _ _ =>
    right
    refine ⟨ofInner n w, [], _, rfl, .plain (w := []) (by simp), ?_⟩
    intro u
    have hlen : (ofInner n w).text.length = w.length + 2 := by simp [ofInner]
    rw [literalAt_phrase n rfl hw, hlen]
    simp
  | @word w s ls hne hw hs _ _ =>
    right
    have hrun := sign_append_text_ofRun n w
    refine ⟨ofRun n w, (ofRun n w).sign, (ofRun n w).text ++ s, ?_, ?_, ?_⟩
    · rw [← List.append_assoc, hrun]
    · exact .plain (w := []) (by simp)
    · intro u
      rw [literalAt_word n rfl hne hw hs, runBounds_eq n]
  | @dangling w s ls hw hs hq _ _ =>
    right
    have hrun := sign_append_text_ofRun n w
    refine ⟨ofRun n w, '"' :: (ofRun n w).sign, (ofRun n w).text ++ s, ?_, ?_, ?_⟩
    · rw [List.cons_append, ← List.append_assoc, hrun]
    · -- behind the dropped quote stand the run and the rest, and neither has a quote
      refine .quote (w := []) (by simp) (kind_ofRun_ne_phrase n w) ?_
      rw [← List.append_assoc, hrun, List.mem_append, not_or]
      exact ⟨ne_quote_of_mem hw, hq⟩
    · intro u
      rw [literalAt_dangling n rfl hw hs hq, runBounds_eq n, List.length_cons]
      simp only [Option.some.injEq, Prod.mk.injEq, Bounds.mk.injEq, and_true]
      omega

end Query

namespace Scan

open Query

/-! ### One scan, by its offset -/

/-- What a scan finds depends only on the text from its offset on. -/
theorem literalAt_append (n : ν) (u s : Text) :
    literalAt n (u ++ s) u.length = (literalAt n s 0).map (moved u.length) := by
  obtain ⟨ls, hls⟩ := exists_reads n s
  rcases hls.literalAt_cases with hnone | ⟨l, lead, rest, -, -, hfound⟩
  · have hhere : literalAt n s 0 = none := hnone []
    rw [hnone, hhere]
    rfl
  · have hhere : literalAt n s 0 = some (⟨0 + lead.length, l.text.length⟩, l) := hfound []
    rw [hfound, hhere]
    simp [moved, Bounds.shift]

theorem literalAt_of_length_le (n : ν) {g : Text} {i : Int} (h : g.length ≤ i) :
    literalAt n g i = none := by
  have hskip := le_skip (· = ' ') g i
  unfold literalAt
  exact if_pos (Int.le_trans h hskip)

/-- The scan of a group from a position on is the scan of what is left of it. -/
theorem literalAt_drop (n : ν) (g : Text) (start : Nat) :
    literalAt n g start = (literalAt n (g.drop start) 0).map (moved start) := by
  rcases Nat.le_total start g.length with hle | hge
  · have hlen : (g.take start).length = start := List.length_take_of_le hle
    have hcut := literalAt_append n (g.take start) (g.drop start)
    rwa [List.take_append_drop, hlen] at hcut
  · rw [List.drop_eq_nil_of_le hge, literalAt_of_length_le n (by omega),
      literalAt_of_length_le n (by simp)]
    rfl

theorem literalAt_eq_none_iff (n : ν) {g : Text} {start : Nat} :
    literalAt n g start = none ↔ ∀ c ∈ g.drop start, c = ' ' := by
  have hend := length_le_skip_iff (p := (· = ' ')) (t := g) (n := start)
  simp only [decide_eq_true_eq] at hend
  rw [← hend, literalAt]
  constructor
  · intro h
    by_contra hlt
    rw [if_neg hlt] at h
    split at h <;> cases h
  · exact fun h => if_pos h

/-- What a scan passes over before the literal that it finds. -/
theorem isLead_of_literalAt {n : ν} {u s : Text} {b : Bounds} {l : Literal ν}
    (h : literalAt n (u ++ s) u.length = some (b, l)) :
    IsLead l ((u ++ s).slice u.length b.start) ((u ++ s).slice b.start (u ++ s).length) := by
  obtain ⟨ls, hls⟩ := exists_reads n s
  rcases hls.literalAt_cases with hnone | ⟨l', lead, rest, rfl, hlead, hfound⟩
  · rw [hnone] at h
    cases h
  · rw [hfound] at h
    obtain ⟨rfl, rfl⟩ := Prod.mk.inj (Option.some.inj h)
    have hbefore : (u ++ (lead ++ rest)).slice u.length (u.length + lead.length) = lead :=
      Text.slice_append rfl rfl
    have hbehind : (u ++ (lead ++ rest)).slice (u.length + lead.length)
        (u ++ (lead ++ rest)).length = rest := by
      have hslice := Text.slice_length (u ++ (lead ++ rest)) (u ++ lead).length
      rw [← List.append_assoc, List.drop_left, List.length_append, Int.natCast_add] at hslice
      rwa [← List.append_assoc]
    rwa [hbefore, hbehind]

/-- **A literal that is found is a tile of its group.** -/
theorem tiles_of_literalAt {n : ν} {g : Text} {start : Nat} {b : Bounds} {l : Literal ν}
    (h : literalAt n g start = some (b, l)) : Tiles g start b l := by
  have hwithin : EndsWithin g start b := endsWithin_literalAt (by omega) h
  refine ⟨hwithin, slice_eq_text h, ?_⟩
  have hle : start ≤ g.length := by
    have hlt := hwithin.lt_stop
    have hstop := hwithin.stop_le
    omega
  have hlen : (g.take start).length = start := List.length_take_of_le hle
  have hcut : literalAt n (g.take start ++ g.drop start) (g.take start).length = some (b, l) := by
    rwa [List.take_append_drop, hlen]
  have hlead := isLead_of_literalAt hcut
  rwa [List.take_append_drop, hlen] at hlead

/-- **The literal scanner tiles a group.**  From a position on it finds nothing exactly if only
blanks are left.  Otherwise it finds a literal behind a lead, and the literal ends behind the
position and inside the group.  What it finds is what it finds at the start of the rest of the
group, moved along.  So the scanner, applied again and again from where it stopped, comes to the end
of every group, in no more steps than the group has characters. -/
theorem literal_tiles (n : ν) (g : Text) (start : Nat) :
    (literal n g start = .ok none ↔ ∀ c ∈ g.drop start, c = ' ') ∧
      (literal n g start = .ok none ∨
        ∃ b l, literal n g start = .ok (some (b, l)) ∧ Tiles g start b l) ∧
      literal n g start = (literal n (g.drop start) 0).map (Option.map (moved start)) ∧
      Exhausts (literal n g) (·.1.stop) 0 (literals n g) ∧ (literals n g).length ≤ g.length := by
  have hread : literal n g start = .ok (literalAt n g start) := literal_eq n (by omega)
  have hrest : literal n (g.drop start) 0 = .ok (literalAt n (g.drop start) 0) :=
    literal_eq n (by omega)
  refine ⟨?_, ?_, ?_, exhausts_literals n g, length_literals_le n g⟩
  · rw [hread, Except.ok.injEq, literalAt_eq_none_iff]
  · rw [hread]
    cases hfound : literalAt n g start with
    | none => exact Or.inl rfl
    | some x => exact Or.inr ⟨x.1, x.2, rfl, tiles_of_literalAt hfound⟩
  · rw [hread, hrest, literalAt_drop]
    rfl

-- the blank, the dropped quote and the dash stand before the literal
example : literal () ['a', ' ', '"', '-', 'b', ' ', 'c'] 1
    = .ok (some (⟨4, 1⟩, ⟨.term, ['b'], true, ()⟩)) := by cbv

end Scan
end QueryTree
