import QueryTree.Proofs.Conservation
import QueryTree.Proofs.RoundTrip

/-!
# The trees that queries have

A canonical tree is read back from its written form, so it is the tree of some query.  The only
other literal that a query can have is the empty term, which comes from a quote without a partner.
Such a quote is the last one of its group: no phrase and no second empty term can follow it there.
This is the one condition on the order of literals, and with it the trees of queries are described
exactly.

For the converse a query is written down for every such tree, with a single quote in the place of
an empty term.

## Main definitions

* `Literal.IsReadable` — the literals that a query can have.
* `Node.IsGroupTree`, `Node.IsQueryTree` — the trees of groups and of queries.
* `Literal.spell` — a literal as it can be written in a query, the empty term included.

## Main results

* `Query.Reads.pairwise_mayPrecede` — what follows an empty term in a group.
* `Query.reads_joinWith_spell` — literals in such an order are read from their spelling.
* `Query.exists_parse_eq_iff` — the trees that come out of queries, with their normalizers.
* `Query.exists_parse_erase_eq_iff` — **exactly the query trees are trees of queries.**
-/

namespace QueryTree

variable {ν μ : Type}

namespace Literal

/-! ### Literals -/

/-- A literal that a query can have.  A term or a wildcard is a word, and if it is not negated no
dash makes it so; a wildcard has a `*` and a term has none.  A phrase is not negated and stands
between its only quotes. -/
def IsReadable (l : Literal ν) : Prop :=
  match l.kind with
  | .term =>
    (' ' ∉ l.text ∧ '+' ∉ l.text ∧ '"' ∉ l.text ∧ '*' ∉ l.text) ∧
      (l.negated = true ∨ l.text.head? ≠ some '-')
  | .wildcard =>
    ('*' ∈ l.text ∧ ' ' ∉ l.text ∧ '+' ∉ l.text ∧ '"' ∉ l.text) ∧
      (l.negated = true ∨ l.text.head? ≠ some '-')
  | .phrase =>
    l.negated = false ∧ ∃ w, l.text = '"' :: (w ++ ['"']) ∧ '"' ∉ w ∧ '+' ∉ w

/-- What may stand behind a literal in a group: behind an empty term there is no quote left for a
phrase or for another empty term. -/
def MayPrecede (l m : Literal ν) : Prop :=
  l.isEmptyTerm = true → m.kind ≠ .phrase ∧ m.isEmptyTerm = false

/-- How a literal can be written in a query: an empty term as a quote without a partner. -/
def spell (l : Literal ν) : Text := if l.isEmptyTerm then ['"'] else l.print

/-- A query can have the good literals and the empty term. -/
theorem isReadable_iff {l : Literal ν} : l.IsReadable ↔ l.IsGood ∨ l.isEmptyTerm = true := by
  rw [isEmptyTerm_iff]
  obtain ⟨kind, text, negated, normalizer⟩ := l
  cases kind with
  | phrase => simp [IsReadable, IsGood]
  | wildcard => simp [IsReadable, IsGood]
  | term =>
    by_cases hempty : text = []
    · cases negated <;> simp [IsReadable, IsGood, hempty]
    · simp [IsReadable, IsGood, hempty]

/-- At most one empty term, and no phrase behind it. -/
theorem pairwise_mayPrecede_iff {ls : List (Literal ν)} :
    ls.Pairwise MayPrecede ↔ ls.countP isEmptyTerm ≤ 1 ∧
      ls.Pairwise fun l m => l.isEmptyTerm = true → m.kind ≠ .phrase := by
  induction ls with
  | nil => simp
  | cons l ls ih =>
    rw [List.pairwise_cons, List.pairwise_cons, ih, List.countP_cons]
    by_cases hempty : l.isEmptyTerm = true
    · -- the head is the one empty term, so the tail has none
      have hzero : ls.countP isEmptyTerm + 1 ≤ 1 ↔ ls.countP isEmptyTerm = 0 := by omega
      have hcount : ls.countP isEmptyTerm + 1 ≤ 1 ↔ ∀ m ∈ ls, m.isEmptyTerm = false := by
        rw [hzero, List.countP_eq_zero]
        simp
      rw [if_pos hempty, hcount]
      constructor
      · rintro ⟨hhead, -, hphrase⟩
        exact ⟨fun m hm => (hhead m hm hempty).2, fun m hm _ => (hhead m hm hempty).1, hphrase⟩
      · rintro ⟨hnone, hhead, hphrase⟩
        refine ⟨fun m hm _ => ⟨hhead m hm hempty, hnone m hm⟩, ?_, hphrase⟩
        exact Nat.le_of_lt (Nat.lt_of_succ_le (hcount.mpr hnone))
    · rw [if_neg hempty, Nat.add_zero]
      simp [MayPrecede, hempty]

end Literal

namespace Node

/-! ### Trees -/

/-- The tree of a group: a literal, or a conjunction of literals, that a query can have.  At most
one of them is an empty term, and no phrase comes after it. -/
structure IsGroupTree (t : Node ν) : Prop where
  shape : t.IsGroupOf Literal.IsReadable
  emptyTerms : t.leaves.countP Literal.isEmptyTerm ≤ 1
  phrases : t.leaves.Pairwise fun l m => l.isEmptyTerm = true → m.kind ≠ .phrase

/-- The alternatives of a tree: the children of a disjunction, or the tree itself. -/
def disjuncts : Node ν → List (Node ν)
  | .branch .or a b rest => a :: b :: rest
  | t => [t]

/-- The tree of a query: the tree of a group, or a disjunction of such trees. -/
def IsQueryTree (t : Node ν) : Prop := ∀ c ∈ t.disjuncts, c.IsGroupTree

theorem fold_disjuncts (t : Node ν) : fold .or t.disjuncts = some t := by
  match t with
  | .literal l => rfl
  | .branch .and a b rest => rfl
  | .branch .or a b rest => rfl

/-- The tree of a group is its own only alternative. -/
theorem IsGroupTree.disjuncts_eq {t : Node ν} (h : t.IsGroupTree) : t.disjuncts = [t] := by
  match t with
  | .literal l => rfl
  | .branch .and a b rest => rfl
  | .branch .or a b rest => exact h.shape.elim

/-- The alternatives of a fold of groups are the groups. -/
theorem disjuncts_of_fold {ts : List (Node ν)} {t : Node ν} (h : fold .or ts = some t)
    (hts : ∀ c ∈ ts, c.IsGroupTree) : t.disjuncts = ts := by
  match ts with
  | [] => cases h
  | [c] =>
    cases h
    exact (hts t List.mem_cons_self).disjuncts_eq
  | a :: b :: rest =>
    cases h
    rfl

theorem disjuncts_map (f : ν → μ) (t : Node ν) :
    (t.map f).disjuncts = t.disjuncts.map (map f) := by
  match t with
  | .literal l => rfl
  | .branch .and a b rest => rfl
  | .branch .or a b rest => rw [map_branch]; rfl

theorem isGroupTree_map (f : ν → μ) (t : Node ν) : (t.map f).IsGroupTree ↔ t.IsGroupTree := by
  -- neither the texts nor the kinds of literals depend on their normalizers
  have hshape : (t.map f).IsGroupOf Literal.IsReadable ↔ t.IsGroupOf Literal.IsReadable :=
    isGroupOf_map f Literal.IsReadable t
  have hcount : (t.map f).leaves.countP Literal.isEmptyTerm
      = t.leaves.countP Literal.isEmptyTerm := by
    rw [leaves_map, List.countP_map]
    rfl
  have hpairs : (t.map f).leaves.Pairwise (fun l m => l.isEmptyTerm = true → m.kind ≠ .phrase) ↔
      t.leaves.Pairwise fun l m => l.isEmptyTerm = true → m.kind ≠ .phrase := by
    rw [leaves_map, List.pairwise_map]
    exact Iff.rfl
  constructor
  · rintro ⟨h₁, h₂, h₃⟩
    exact ⟨hshape.mp h₁, hcount ▸ h₂, hpairs.mp h₃⟩
  · rintro ⟨h₁, h₂, h₃⟩
    exact ⟨hshape.mpr h₁, hcount ▸ h₂, hpairs.mpr h₃⟩

/-- Whether a tree is the tree of a query does not depend on its normalizers. -/
theorem isQueryTree_map (f : ν → μ) (t : Node ν) : (t.map f).IsQueryTree ↔ t.IsQueryTree := by
  simp only [IsQueryTree, disjuncts_map, List.forall_mem_map, isGroupTree_map]

theorem isQueryTree_erase {t : Node ν} : t.erase.IsQueryTree ↔ t.IsQueryTree :=
  isQueryTree_map _ t

end Node

namespace Query

/-! ### The literals of a group -/

theorem isEmptyTerm_ofRun {n : ν} {w : Text} (hne : w ≠ []) :
    (ofRun n w).isEmptyTerm = false := by
  rw [Bool.eq_false_iff]
  intro hempty
  have hprint := print_of_isEmptyTerm hempty
  rw [print_ofRun] at hprint
  exact hne hprint

/-- Without a quote there are only words. -/
theorem Reads.forall_of_quote_notMem {n : ν} {g : Text} {ls : List (Literal ν)}
    (h : Reads n g ls) (hq : '"' ∉ g) : ∀ l ∈ ls, l.kind ≠ .phrase ∧ l.isEmptyTerm = false := by
  induction h with
  | nil => simp
  | blank _ ih => exact ih fun hmem => hq (List.mem_cons_of_mem _ hmem)
  | phrase => exact absurd List.mem_cons_self hq
  | @word w s ls hne _ _ _ ih =>
    rw [List.mem_append, not_or] at hq
    rw [List.forall_mem_cons]
    exact ⟨⟨kind_ofRun_ne_phrase n w, isEmptyTerm_ofRun hne⟩, ih hq.2⟩
  | dangling => exact absurd List.mem_cons_self hq

/-- **Behind an empty term there is no phrase and no other empty term.** -/
theorem Reads.pairwise_mayPrecede {n : ν} {g : Text} {ls : List (Literal ν)}
    (h : Reads n g ls) : ls.Pairwise Literal.MayPrecede := by
  induction h with
  | nil => exact List.Pairwise.nil
  | blank _ ih => exact ih
  | @phrase w s ls _ _ ih =>
    have hphrase : (ofInner n w).isEmptyTerm = false := rfl
    refine List.pairwise_cons.mpr ⟨fun m _ hempty => ?_, ih⟩
    rw [hphrase] at hempty
    cases hempty
  | @word w s ls hne _ _ _ ih =>
    refine List.pairwise_cons.mpr ⟨fun m _ hempty => ?_, ih⟩
    rw [isEmptyTerm_ofRun hne] at hempty
    cases hempty
  | @dangling w s ls _ _ hq hs ih =>
    -- the quote before the literal is the last one
    exact List.pairwise_cons.mpr ⟨fun m hm _ => hs.forall_of_quote_notMem hq m hm, ih⟩

/-! ### Spelled literals -/

theorem spell_of_isEmptyTerm {l : Literal ν} (h : l.isEmptyTerm = true) : l.spell = ['"'] := by
  rw [Literal.spell, if_pos h]

theorem spell_of_isGood {l : Literal ν} (h : l.IsGood) : l.spell = l.print := by
  rw [Literal.spell, if_neg (by simp [h.isEmptyTerm_eq_false])]

theorem plus_notMem_spell {n : ν} {l : Literal ν} (h : l.IsParsed n) : '+' ∉ l.spell := by
  rcases h.1 with hgood | hempty
  · rw [spell_of_isGood hgood]
    exact plus_notMem_print h
  · rw [spell_of_isEmptyTerm hempty]
    decide

/-- A word is spelled without quotes. -/
theorem quote_notMem_spell {n : ν} {l : Literal ν} (h : l.IsParsed n) (hkind : l.kind ≠ .phrase)
    (hempty : l.isEmptyTerm = false) : '"' ∉ l.spell := by
  have hgood : l.IsGood := h.1.resolve_right (by simp [hempty])
  obtain ⟨-, hrun, -⟩ := isWordLiteral_print hgood hkind
  rw [spell_of_isGood hgood]
  exact ne_quote_of_mem hrun

/-- A literal is read from its spelling before a stop, if no quote follows an empty term. -/
theorem Reads.spell_append {n : ν} {l : Literal ν} {s : Text} {ls : List (Literal ν)}
    (hl : l.IsParsed n) (hs : Text.Stops isWordChar s) (hq : l.isEmptyTerm = true → '"' ∉ s)
    (h : Reads n s ls) : Reads n (l.spell ++ s) (l :: ls) := by
  obtain ⟨hgood | hempty, rfl⟩ := hl
  · rw [spell_of_isGood hgood]
    exact .good_append hgood hs h
  · have hrun : l = ofRun l.normalizer [] := by
      obtain ⟨hkind, htext, hneg⟩ := Literal.isEmptyTerm_iff.mp hempty
      obtain ⟨kind, text, negated, normalizer⟩ := l
      subst hkind htext hneg
      rfl
    have hdangling := Reads.dangling (w := []) (by simp) hs (hq hempty) h
    rw [← hrun] at hdangling
    rwa [spell_of_isEmptyTerm hempty]

/-- **Literals in the right order are read from their spelling.** -/
theorem reads_joinWith_spell {n : ν} {ls : List (Literal ν)} (h : ∀ l ∈ ls, l.IsParsed n)
    (hord : ls.Pairwise Literal.MayPrecede) :
    Reads n (Text.joinWith [' '] (ls.map Literal.spell)) ls := by
  match ls with
  | [] => exact .nil
  | [l] =>
    have hl := Reads.spell_append (h l List.mem_cons_self) (Text.stops_nil _)
      (fun _ => List.not_mem_nil) .nil
    rwa [List.append_nil] at hl
  | l :: m :: ls =>
    rw [List.forall_mem_cons] at h
    rw [List.pairwise_cons] at hord
    -- behind an empty term only words are spelled
    have hq : l.isEmptyTerm = true →
        '"' ∉ ' ' :: Text.joinWith [' '] ((m :: ls).map Literal.spell) := by
      intro hempty
      rw [List.mem_cons, not_or]
      refine ⟨by decide, Text.notMem_joinWith (by decide) fun u hu => ?_⟩
      obtain ⟨k, hk, rfl⟩ := List.mem_map.mp hu
      obtain ⟨hkind, hnone⟩ := hord.1 k hk hempty
      exact quote_notMem_spell (h.2 k hk) hkind hnone
    rw [List.map_cons, List.map_cons, Text.joinWith_cons_cons, ← List.map_cons, List.append_assoc]
    exact Reads.spell_append h.1 (by simp) hq (.blank (reads_joinWith_spell h.2 hord.2))

/-! ### The trees of groups and queries -/

/-- Exactly the group trees are trees of groups. -/
theorem exists_parseGroup_eq_iff {n : ν} {t : Node ν} :
    (∃ g, '+' ∉ g ∧ parseGroup n g = some t) ↔
      t.IsGroupTree ∧ ∀ l ∈ t.leaves, l.normalizer = n := by
  constructor
  · rintro ⟨g, hplus, hg⟩
    obtain ⟨ls, hls⟩ := exists_reads n g
    rw [hls.parseGroup_eq] at hg
    have hparsed := hls.isParsed hplus
    have hord := Literal.pairwise_mayPrecede_iff.mp hls.pairwise_mayPrecede
    have hleaves := Node.leaves_of_fold_literal hg
    have hshape : t.IsGroupOf Literal.IsReadable :=
      Node.isGroupOf_iff.mpr ⟨ls, hg, fun l hl => Literal.isReadable_iff.mpr (hparsed l hl).1⟩
    rw [hleaves]
    exact ⟨⟨hshape, hleaves ▸ hord.1, hleaves ▸ hord.2⟩, fun l hl => (hparsed l hl).2⟩
  · rintro ⟨⟨hshape, hcount, hpairs⟩, hnorm⟩
    obtain ⟨ls, hfold, hread⟩ := Node.isGroupOf_iff.mp hshape
    rw [Node.leaves_of_fold_literal hfold] at hcount hpairs hnorm
    have hparsed : ∀ l ∈ ls, l.IsParsed n := fun l hl =>
      ⟨Literal.isReadable_iff.mp (hread l hl), hnorm l hl⟩
    have hord := Literal.pairwise_mayPrecede_iff.mpr ⟨hcount, hpairs⟩
    refine ⟨Text.joinWith [' '] (ls.map Literal.spell), ?_, ?_⟩
    · refine Text.notMem_joinWith (by decide) fun u hu => ?_
      obtain ⟨l, hl, rfl⟩ := List.mem_map.mp hu
      exact plus_notMem_spell (hparsed l hl)
    · rw [(reads_joinWith_spell hparsed hord).parseGroup_eq, hfold]

/-- Trees of groups have texts of their own, one for each. -/
theorem exists_filterMap_parseGroup {n : ν} {ts : List (Node ν)}
    (h : ∀ c ∈ ts, ∃ g, '+' ∉ g ∧ parseGroup n g = some c) :
    ∃ gs : List Text, (∀ g ∈ gs, '+' ∉ g) ∧ gs.filterMap (parseGroup n) = ts := by
  induction ts with
  | nil => exact ⟨[], by simp, rfl⟩
  | cons c ts ih =>
    rw [List.forall_mem_cons] at h
    obtain ⟨g, hplus, hg⟩ := h.1
    obtain ⟨gs, hgs, rfl⟩ := ih h.2
    exact ⟨g :: gs, List.forall_mem_cons.mpr ⟨hplus, hgs⟩, List.filterMap_cons_some hg⟩

/-- The trees that parsing with a normalizer gives: query trees with that normalizer at each of
their literals. -/
theorem exists_parse_eq_iff {n : ν} {t : Node ν} :
    (∃ q, parse n q = some t) ↔ t.IsQueryTree ∧ ∀ l ∈ t.leaves, l.normalizer = n := by
  have hleaves := Node.leaves_of_fold (Node.fold_disjuncts t)
  constructor
  · rintro ⟨q, hq⟩
    rw [parse_eq_fold_alternatives] at hq
    have hgroup : ∀ c ∈ alternatives n q,
        c.IsGroupTree ∧ ∀ l ∈ c.leaves, l.normalizer = n := by
      intro c hc
      obtain ⟨g, hg, hc⟩ := List.mem_filterMap.mp hc
      exact exists_parseGroup_eq_iff.mp ⟨g, Text.notMem_of_mem_pieces hg, hc⟩
    have hdisjuncts := Node.disjuncts_of_fold hq fun c hc => (hgroup c hc).1
    rw [hleaves, Node.IsQueryTree, hdisjuncts]
    refine ⟨fun c hc => (hgroup c hc).1, fun l hl => ?_⟩
    obtain ⟨c, hc, hl⟩ := List.mem_flatMap.mp hl
    exact (hgroup c hc).2 l hl
  · rintro ⟨htree, hnorm⟩
    rw [hleaves] at hnorm
    have htexts : ∀ c ∈ t.disjuncts, ∃ g, '+' ∉ g ∧ parseGroup n g = some c := by
      intro c hc
      refine exists_parseGroup_eq_iff.mpr ⟨htree c hc, fun l hl => ?_⟩
      exact hnorm l (List.mem_flatMap.mpr ⟨c, hc, hl⟩)
    obtain ⟨gs, hplus, hgs⟩ := exists_filterMap_parseGroup htexts
    refine ⟨Text.joinWith [' ', '+', ' '] gs, ?_⟩
    rw [parse_eq_fold_alternatives, alternatives_joinWith n hplus, hgs, Node.fold_disjuncts]

/-- **Exactly the query trees are trees of queries**, up to their normalizers. -/
theorem exists_parse_erase_eq_iff (n : μ) (t : Node ν) :
    (∃ q, (parse n q).map Node.erase = some t.erase) ↔ t.IsQueryTree := by
  constructor
  · rintro ⟨q, hq⟩
    obtain ⟨s, hs, herase⟩ := Option.map_eq_some_iff.mp hq
    have htree : s.IsQueryTree := (exists_parse_eq_iff.mp ⟨q, hs⟩).1
    rwa [← Node.isQueryTree_erase, ← herase, Node.isQueryTree_erase]
  · intro h
    -- the tree with the parser's normalizer at every literal is what a query gives
    have htree : (t.map fun _ => n).IsQueryTree := (Node.isQueryTree_map _ t).mpr h
    have hnorm : ∀ l ∈ (t.map fun _ => n).leaves, l.normalizer = n := by
      rw [Node.leaves_map, List.forall_mem_map]
      exact fun _ _ => rfl
    obtain ⟨q, hq⟩ := exists_parse_eq_iff.mpr ⟨htree, hnorm⟩
    refine ⟨q, ?_⟩
    rw [hq, Option.map_some, Node.erase, Node.map_map]
    rfl

end Query
end QueryTree
