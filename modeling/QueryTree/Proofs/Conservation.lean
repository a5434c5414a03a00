import QueryTree.Proofs.Composition

/-!
# No character is lost

The scanners move their offsets over blanks, separators, dashes and dropped quotes, and resume
where a literal or a group stopped.  All the same the literals of a query, written one after the
other, have every character of the query exactly once and in order, apart from the characters that
only mark where something starts or ends.  The quotes are accounted for by number: two for each
phrase, and one for each piece in which a quote is left over.

Both laws are proved for a group, along its reading, and added up over the pieces of a query.

## Main results

* `Query.Reads.filter_print` — a group and its literals have the same characters of words.
* `Query.Reads.count_quote` — the quotes of a group.
* `Query.filter_leaves_parse` — **nothing is lost and nothing is repeated.**
-/

namespace QueryTree

variable {ν : Type}

namespace Query

/-! ### One group -/

/-- The literal of a run is written as the run. -/
theorem print_ofRun (n : ν) (w : Text) : (ofRun n w).print = w := by
  have htext := (isWordLiteral_iff.mpr (rfl : ofRun n w = ofRun n w)).text
  exact htext.symm

/-- A group and its literals have the same characters other than blanks and quotes. -/
theorem Reads.filter_print {n : ν} {g : Text} {ls : List (Literal ν)} (h : Reads n g ls) :
    (ls.flatMap Literal.print).filter isWordChar = g.filter isWordChar := by
  induction h with
  | nil => rfl
  | blank _ ih => exact ih
  | @phrase w s ls _ _ ih =>
    have hprint : (ofInner n w).print = '"' :: (w ++ ['"']) := rfl
    have hquote : isWordChar '"' = false := by decide
    simp [hprint, hquote, ih]
  | @word w s ls _ _ _ _ ih =>
    rw [List.flatMap_cons, print_ofRun, List.filter_append, List.filter_append, ih]
  | @dangling w s ls _ _ _ _ ih =>
    -- the dropped quote is the one character of the group that no literal has
    have hquote : isWordChar '"' = false := by decide
    rw [List.flatMap_cons, print_ofRun, List.filter_cons_of_neg (by simp [hquote]),
      List.filter_append, List.filter_append, ih]

/-- A group has two quotes for each of its phrases, and one more if their number is odd. -/
theorem Reads.count_quote {n : ν} {g : Text} {ls : List (Literal ν)} (h : Reads n g ls) :
    g.count '"' = 2 * ls.countP (fun l => l.kind = .phrase) + g.count '"' % 2 := by
  have hrun : ∀ (w : Text) (ls : List (Literal ν)),
      (ofRun n w :: ls).countP (fun l => l.kind = .phrase)
        = ls.countP (fun l => l.kind = .phrase) := by
    intro w ls
    apply List.countP_cons_of_neg
    simpa using kind_ofRun_ne_phrase n w
  induction h with
  | nil => rfl
  | blank _ ih => simpa using ih
  | @phrase w s ls hw _ ih =>
    have hphrase : (ofInner n w :: ls).countP (fun l => l.kind = .phrase)
        = ls.countP (fun l => l.kind = .phrase) + 1 := List.countP_cons_of_pos rfl
    rw [count_quote_phrase hw, hphrase]
    omega
  | @word w s ls _ hw _ _ ih =>
    rw [count_quote_word hw, hrun]
    exact ih
  | @dangling w s ls hw _ hq _ ih =>
    -- behind the quote that is left over there is no other, so there is no phrase
    rw [List.count_eq_zero.mpr hq] at ih
    rw [count_quote_dangling hw hq, hrun]
    omega

/-! ### All pieces -/

/-- The literals of a query are those of its pieces, in order. -/
theorem leavesOption_parse (n : ν) (q : Text) :
    Node.leavesOption (parse n q)
      = (Text.pieces (· = '+') q).flatMap fun p => Node.leavesOption (parseGroup n p) := by
  have hoption : ∀ o : Option (Node ν), o.toList.flatMap Node.leaves = Node.leavesOption o := by
    intro o
    cases o with
    | none => rfl
    | some t => exact List.flatMap_singleton Node.leaves t
  rw [parse_eq_fold_alternatives, Node.leavesOption_fold, alternatives,
    List.filterMap_eq_flatMap_toList, List.flatMap_assoc]
  exact List.flatMap_congr fun p _ => hoption (parseGroup n p)

/-- The characters of words in a list of pieces and in their literals. -/
theorem filter_print_pieces (n : ν) (ps : List Text) :
    ((ps.flatMap fun p => Node.leavesOption (parseGroup n p)).flatMap Literal.print).filter
        isWordChar = ps.flatten.filter isWordChar := by
  induction ps with
  | nil => rfl
  | cons p ps ih =>
    obtain ⟨ls, hls⟩ := exists_reads n p
    rw [List.flatMap_cons, List.flatMap_append, List.filter_append, ih,
      hls.leavesOption_parseGroup, hls.filter_print, List.flatten_cons, List.filter_append]

/-- The quotes in a list of pieces. -/
theorem count_quote_pieces (n : ν) (ps : List Text) :
    ps.flatten.count '"'
      = 2 * (ps.flatMap fun p => Node.leavesOption (parseGroup n p)).countP
          (fun l => l.kind = .phrase)
        + ps.countP fun p => p.count '"' % 2 = 1 := by
  induction ps with
  | nil => rfl
  | cons p ps ih =>
    obtain ⟨ls, hls⟩ := exists_reads n p
    have hp := hls.count_quote
    rw [List.flatten_cons, List.count_append, ih, List.flatMap_cons, List.countP_append,
      List.countP_cons, hls.leavesOption_parseGroup]
    by_cases hodd : p.count '"' % 2 = 1
    · rw [if_pos (by simpa using hodd)]
      omega
    · rw [if_neg (by simpa using hodd)]
      omega

/-- **Nothing is lost and nothing is repeated.**  Apart from blanks, `+` and quotes, a query has
the characters of its written literals, in order.  Its quotes are those of its phrases, and one
more for each of its pieces with an odd number of quotes. -/
theorem filter_leaves_parse (n : ν) (q : Text) :
    ((Node.leavesOption (parse n q)).flatMap Literal.print).filter (fun c => c ∉ [' ', '"'])
        = q.filter (fun c => c ∉ [' ', '+', '"']) ∧
      q.count '"'
        = 2 * (Node.leavesOption (parse n q)).countP (fun l => l.kind = .phrase)
          + (Text.pieces (· = '+') q).countP fun p => p.count '"' % 2 = 1 := by
  have hflatten := Text.flatten_pieces (· = '+') q
  constructor
  · have hword : (fun c => decide (c ∉ [' ', '"'])) = isWordChar := by
      funext c
      simp [isWordChar]
    rw [hword, leavesOption_parse, filter_print_pieces, hflatten, List.filter_filter]
    apply List.filter_congr
    intro c _
    by_cases hc : c = '+' <;> simp [isWordChar, hc]
  · rw [leavesOption_parse, ← count_quote_pieces, hflatten]
    exact (List.count_filter (by decide)).symm

end Query
end QueryTree
