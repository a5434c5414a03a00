import Mathlib.Algebra.Group.Nat.Even
import QueryTree.Proofs.Alternatives

/-!
# Groups written side by side

Two groups with a space between them are one group.  Whether it has the literals of the two, one
after the other, is decided by the quotes at the joint.  If the quotes of the first group are
paired, the scanner comes to the joint outside all phrases and goes on as if it started there.  If
one of them is left over, it pairs with the first quote of the second group, and a phrase swallows
the joint.

The number of quotes carries the argument, so the module starts with the quotes that each way of
reading a literal takes.

## Main results

* `Query.Reads.append_space_append` — the literals of the two groups, when no quote is left over.
* `Query.Reads.exists_phrase_at_joint` — a phrase in their place, when one is.
* `Query.leaves_append_space_iff` — **the literals of the joined group are those of the two groups
  exactly when no open quote meets another one.**
-/

namespace QueryTree

variable {ν : Type}

namespace Query

/-! ### Quotes -/

theorem count_quote_phrase {w : Text} (hw : '"' ∉ w) (s : Text) :
    ('"' :: (w ++ '"' :: s)).count '"' = s.count '"' + 2 := by
  rw [List.count_cons_self, List.count_append, List.count_eq_zero.mpr hw, List.count_cons_self]
  omega

/-- The two quotes of a phrase do not change the parity. -/
theorem even_count_quote_phrase {w : Text} (hw : '"' ∉ w) (s : Text) :
    Even (('"' :: (w ++ '"' :: s)).count '"') ↔ Even (s.count '"') := by
  rw [count_quote_phrase hw, Nat.even_add]
  exact iff_true_right (by decide)

theorem count_quote_word {w : Text} (hw : ∀ c ∈ w, isWordChar c = true) (s : Text) :
    (w ++ s).count '"' = s.count '"' := by
  rw [List.count_append, List.count_eq_zero.mpr (ne_quote_of_mem hw), Nat.zero_add]

theorem count_quote_dangling {w s : Text} (hw : ∀ c ∈ w, isWordChar c = true) (hq : '"' ∉ s) :
    ('"' :: (w ++ s)).count '"' = 1 := by
  rw [List.count_cons_self, count_quote_word hw, List.count_eq_zero.mpr hq]

theorem kind_ofRun_ne_phrase (n : ν) (w : Text) : (ofRun n w).kind ≠ .phrase := by
  have hkind := (isWordLiteral_iff.mpr (rfl : ofRun n w = ofRun n w)).kind
  rw [hkind]
  split <;> simp

/-! ### The joint -/

/-- Two groups with a space between them read as the literals of both, if the quotes of the first
are paired or there is none in the second. -/
theorem Reads.append_space_append {n : ν} {u v : Text} {ls ms : List (Literal ν)}
    (hu : Reads n u ls) (hv : Reads n v ms) (h : Even (u.count '"') ∨ '"' ∉ v) :
    Reads n (u ++ ' ' :: v) (ls ++ ms) := by
  -- the quotes that a literal of the first group takes are dropped from the count two at a time
  induction hu with
  | nil => exact .blank hv
  | blank _ ih => exact .blank (ih (by simpa using h))
  | @phrase w s ls hw _ ih =>
    rw [even_count_quote_phrase hw] at h
    rw [List.cons_append, List.append_assoc, List.cons_append]
    exact .phrase hw (ih h)
  | @word w s ls hne hw hstop _ ih =>
    rw [count_quote_word hw] at h
    rw [List.append_assoc]
    exact .word hne hw (hstop.append (by simp)) (ih h)
  | @dangling w s ls hw hstop hq _ ih =>
    -- the quote that is left over forbids quotes in the second group
    have hnone : '"' ∉ v := by
      rw [count_quote_dangling hw hq] at h
      exact h.resolve_left (by decide)
    have hrest : '"' ∉ s ++ ' ' :: v := by
      simp [hq, hnone]
    rw [List.cons_append, List.append_assoc]
    exact .dangling hw (hstop.append (by simp)) hrest (ih (Or.inr hnone))

/-- A quote that is left over in the first group pairs with the first quote of the second.  The
phrase stands where the first group alone has a word, so no literals behind those of the first
group give the literals of the two together. -/
theorem Reads.exists_phrase_at_joint {n : ν} {u v : Text} {ls : List (Literal ν)}
    (hu : Reads n u ls) (hodd : ¬ Even (u.count '"')) (hv : '"' ∈ v) :
    ∃ ks, Reads n (u ++ ' ' :: v) ks ∧ ∀ ms, ks ≠ ls ++ ms := by
  induction hu with
  | nil => exact absurd (by simp) hodd
  | blank _ ih =>
    obtain ⟨ks, hks, hne⟩ := ih (by simpa using hodd)
    exact ⟨ks, .blank hks, hne⟩
  | @phrase w s ls hw _ ih =>
    rw [even_count_quote_phrase hw] at hodd
    obtain ⟨ks, hks, hne⟩ := ih hodd
    refine ⟨ofInner n w :: ks, ?_, fun ms h => hne ms (List.cons.inj h).2⟩
    rw [List.cons_append, List.append_assoc, List.cons_append]
    exact .phrase hw hks
  | @word w s ls hne hw hstop _ ih =>
    rw [count_quote_word hw] at hodd
    obtain ⟨ks, hks, hne'⟩ := ih hodd
    refine ⟨ofRun n w :: ks, ?_, fun ms h => hne' ms (List.cons.inj h).2⟩
    rw [List.append_assoc]
    exact .word hne hw (hstop.append (by simp)) hks
  | @dangling w s ls hw _ hq _ _ =>
    -- what stands between the quote and its new partner is the text of the phrase
    obtain ⟨a, b, rfl, ha⟩ := List.eq_append_cons_of_mem hv
    obtain ⟨ks, hks⟩ := exists_reads n b
    have hinner : '"' ∉ w ++ (s ++ ' ' :: a) := by
      simp [ne_quote_of_mem hw, hq, ha]
    refine ⟨ofInner n (w ++ (s ++ ' ' :: a)) :: ks, ?_, ?_⟩
    · have hphrase := Reads.phrase hinner hks
      simpa using hphrase
    · intro ms h
      have hhead : ofInner n (w ++ (s ++ ' ' :: a)) = ofRun n w := (List.cons.inj h).1
      have hkind : (ofRun n w).kind = .phrase := by rw [← hhead]; rfl
      exact kind_ofRun_ne_phrase n w hkind

/-! ### The literals of a query -/

/-- The literals of the tree of a group are those it reads as. -/
theorem Reads.leavesOption_parseGroup {n : ν} {g : Text} {ls : List (Literal ν)}
    (h : Reads n g ls) : Node.leavesOption (parseGroup n g) = ls := by
  rw [h.parseGroup_eq, Node.leavesOption_fold, List.flatMap_map]
  exact List.flatMap_singleton' ls

/-- **The literals of two groups with a space between them are those of the first and then those
of the second exactly when** the quotes of the first are paired or there is none in the second. -/
theorem leaves_append_space_iff (n : ν) {u v : Text} (hu : '+' ∉ u) (hv : '+' ∉ v) :
    Node.leavesOption (parse n (u ++ ' ' :: v))
        = Node.leavesOption (parse n u) ++ Node.leavesOption (parse n v) ↔
      Even (u.count '"') ∨ '"' ∉ v := by
  have huv : '+' ∉ u ++ ' ' :: v := by
    simp [hu, hv]
  obtain ⟨ls, hls⟩ := exists_reads n u
  obtain ⟨ms, hms⟩ := exists_reads n v
  rw [parse_of_notMem n huv, parse_of_notMem n hu, parse_of_notMem n hv,
    hls.leavesOption_parseGroup, hms.leavesOption_parseGroup]
  constructor
  · intro heq
    by_contra hcon
    rw [not_or, not_not] at hcon
    obtain ⟨ks, hks, hne⟩ := hls.exists_phrase_at_joint hcon.1 hcon.2
    rw [hks.leavesOption_parseGroup] at heq
    exact hne ms heq
  · intro h
    exact (hls.append_space_append hms h).leavesOption_parseGroup

/-- The law at two groups whose quotes pair across the joint, and at two whose quotes do not. -/
theorem leaves_append_space_iff_open_quote :
    ('+' ∉ ['"', 'a'] ∧ '+' ∉ ['b', '"', 'c'] ∧
      Node.leavesOption (parse () (['"', 'a'] ++ ' ' :: ['b', '"', 'c']))
        ≠ Node.leavesOption (parse () ['"', 'a']) ++ Node.leavesOption (parse () ['b', '"', 'c'])) ∧
      '+' ∉ ['"', 'a', '"'] ∧ '+' ∉ ['-', '"', 'c'] ∧
        Node.leavesOption (parse () (['"', 'a', '"'] ++ ' ' :: ['-', '"', 'c']))
          = Node.leavesOption (parse () ['"', 'a', '"'])
            ++ Node.leavesOption (parse () ['-', '"', 'c']) := by
  refine ⟨⟨by decide, by decide, ?_⟩, by decide, by decide, ?_⟩
  · intro h
    exact absurd ((leaves_append_space_iff () (by decide) (by decide)).mp h) (by decide)
  · exact (leaves_append_space_iff () (by decide) (by decide)).mpr (by decide)

end Query
end QueryTree
