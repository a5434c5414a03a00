import QueryTree.Proofs.Alternatives

/-!
# The shape of parsed trees

A query has no parentheses, so its tree has two levels at most: literals, conjunctions of
literals, and disjunctions of these.  The texts of its literals are limited too: a word has no
space, quote or `+` in it, and a phrase is its quotes and what stands between.  Only one literal
comes out of a query and cannot be written: the empty term of a quote without a partner.

## Main definitions

* `Literal.IsGood` — the literals that their written form reads as.
* `Literal.isEmptyTerm` — the one other literal that a query can have.
* `Node.IsGroupOf P`, `Node.IsDisjunctive P` — the shapes of groups and of queries, with literals
  that satisfy `P`.
* `Node.IsCanonical` — trees of that shape with good literals.

## Main results

* `Query.Reads.isParsed` — every literal of a group is good or the empty term.
* `Query.isDisjunctive_of_parse` — **the tree of a query is a disjunction of conjunctions of such
  literals.**
-/

namespace QueryTree

variable {ν μ : Type}

namespace Literal

/-- Whether a literal is a term without text that is not negated. -/
def isEmptyTerm (l : Literal ν) : Bool := l.kind = .term && l.text.isEmpty && !l.negated

/-- A literal that stands for itself in a query.  A term or a wildcard is a word, and if it is
not negated no dash makes it so; a wildcard has a `*`, a term has none and is not nothing.  A
phrase is not negated and stands between its only quotes. -/
def IsGood (l : Literal ν) : Prop :=
  match l.kind with
  | .term =>
    (' ' ∉ l.text ∧ '+' ∉ l.text ∧ '"' ∉ l.text ∧ '*' ∉ l.text) ∧
      (l.negated = true ∨ l.text ≠ [] ∧ l.text.head? ≠ some '-')
  | .wildcard =>
    ('*' ∈ l.text ∧ ' ' ∉ l.text ∧ '+' ∉ l.text ∧ '"' ∉ l.text) ∧
      (l.negated = true ∨ l.text.head? ≠ some '-')
  | .phrase =>
    l.negated = false ∧ ∃ w, l.text = '"' :: (w ++ ['"']) ∧ '"' ∉ w ∧ '+' ∉ w

/-- A literal as parsing with the normalizer `n` makes it. -/
def IsParsed (n : ν) (l : Literal ν) : Prop :=
  (l.IsGood ∨ l.isEmptyTerm = true) ∧ l.normalizer = n

theorem isEmptyTerm_iff {l : Literal ν} :
    l.isEmptyTerm = true ↔ l.kind = .term ∧ l.text = [] ∧ l.negated = false := by
  simp [isEmptyTerm, and_assoc]

/-- A good literal is not the empty term. -/
theorem IsGood.isEmptyTerm_eq_false {l : Literal ν} (h : l.IsGood) : l.isEmptyTerm = false := by
  rw [Bool.eq_false_iff, ne_eq, isEmptyTerm_iff]
  rintro ⟨hkind, htext, hneg⟩
  simp [IsGood, hkind, htext, hneg] at h

/-- Terms and wildcards are told apart by a `*`, and otherwise have the same rules. -/
theorem isGood_iff_of_ne_phrase {l : Literal ν} (hkind : l.kind ≠ .phrase) :
    l.IsGood ↔ (l.kind = if '*' ∈ l.text then .wildcard else .term) ∧
      (' ' ∉ l.text ∧ '+' ∉ l.text ∧ '"' ∉ l.text) ∧
      (l.negated = true ∨ l.text ≠ [] ∧ l.text.head? ≠ some '-') := by
  obtain ⟨kind, text, negated, normalizer⟩ := l
  cases kind with
  | phrase => exact absurd rfl hkind
  | term =>
    by_cases hstar : '*' ∈ text
    · simp [IsGood, hstar]
    · simp [IsGood, hstar, and_assoc]
  | wildcard =>
    -- a wildcard has a `*`, so it is never empty
    by_cases hstar : '*' ∈ text
    · have hne : text ≠ [] := List.ne_nil_of_mem hstar
      simp [IsGood, hstar, hne, and_assoc]
    · simp [IsGood, hstar]

theorem isGood_phrase_iff {l : Literal ν} (hkind : l.kind = .phrase) :
    l.IsGood ↔ l.negated = false ∧ ∃ w, l.text = '"' :: (w ++ ['"']) ∧ '"' ∉ w ∧ '+' ∉ w := by
  simp only [IsGood, hkind]

end Literal

namespace Node

/-! ### Shapes -/

/-- A group: a literal, or a conjunction of literals, each with property `P`. -/
def IsGroupOf (P : Literal ν → Prop) : Node ν → Prop
  | .literal l => P l
  | .branch .and a b rest => ∀ c ∈ a :: b :: rest, ∃ l, c = .literal l ∧ P l
  | .branch .or _ _ _ => False

/-- The tree of a query: a group, or a disjunction of groups. -/
def IsDisjunctive (P : Literal ν → Prop) : Node ν → Prop
  | .branch .or a b rest => ∀ c ∈ a :: b :: rest, c.IsGroupOf P
  | t => t.IsGroupOf P

/-- A tree that its written form reads as. -/
def IsCanonical (t : Node ν) : Prop := t.IsDisjunctive Literal.IsGood

/-- Children that are all literals. -/
theorem exists_map_literal {P : Literal ν → Prop} {cs : List (Node ν)}
    (h : ∀ c ∈ cs, ∃ l, c = .literal l ∧ P l) :
    ∃ ls : List (Literal ν), cs = ls.map .literal ∧ ∀ l ∈ ls, P l := by
  induction cs with
  | nil => exact ⟨[], rfl, by simp⟩
  | cons c cs ih =>
    rw [List.forall_mem_cons] at h
    obtain ⟨l, rfl, hl⟩ := h.1
    obtain ⟨ls, rfl, hls⟩ := ih h.2
    exact ⟨l :: ls, rfl, List.forall_mem_cons.mpr ⟨hl, hls⟩⟩

/-- A group is a fold of literals. -/
theorem isGroupOf_iff {P : Literal ν → Prop} {t : Node ν} :
    t.IsGroupOf P ↔
      ∃ ls : List (Literal ν), fold .and (ls.map .literal) = some t ∧ ∀ l ∈ ls, P l := by
  constructor
  · intro h
    match t with
    | .literal l => exact ⟨[l], rfl, List.forall_mem_singleton.mpr h⟩
    | .branch .and a b rest =>
      obtain ⟨ls, hcs, hls⟩ := exists_map_literal h
      exact ⟨ls, by rw [← hcs]; rfl, hls⟩
  · rintro ⟨ls, hfold, hls⟩
    match ls with
    | [] => cases hfold
    | [l] =>
      cases hfold
      exact hls l List.mem_cons_self
    | l :: m :: ls =>
      cases hfold
      intro c hc
      rw [← List.map_cons, ← List.map_cons] at hc
      obtain ⟨k, hk, rfl⟩ := List.mem_map.mp hc
      exact ⟨k, rfl, hls k hk⟩

/-- The tree of a query is a fold of groups. -/
theorem isDisjunctive_iff {P : Literal ν → Prop} {t : Node ν} :
    t.IsDisjunctive P ↔ ∃ ts : List (Node ν), fold .or ts = some t ∧ ∀ c ∈ ts, c.IsGroupOf P := by
  constructor
  · intro h
    match t with
    | .literal l => exact ⟨[.literal l], rfl, List.forall_mem_singleton.mpr h⟩
    | .branch .and a b rest => exact ⟨[.branch .and a b rest], rfl, List.forall_mem_singleton.mpr h⟩
    | .branch .or a b rest => exact ⟨a :: b :: rest, rfl, h⟩
  · rintro ⟨ts, hfold, hts⟩
    match ts with
    | [] => cases hfold
    | [c] =>
      cases hfold
      have hc := List.forall_mem_singleton.mp hts
      match t with
      | .literal l => exact hc
      | .branch .and a b rest => exact hc
      | .branch .or a b rest => exact hc.elim
    | a :: b :: rest =>
      cases hfold
      exact hts

theorem leaves_of_fold_literal {op : Connective} {ls : List (Literal ν)} {t : Node ν}
    (h : fold op (ls.map .literal) = some t) : t.leaves = ls := by
  rw [leaves_of_fold h, List.flatMap_map]
  simp [leaves]

/-- The property of the literals of a group, to be changed where its literals are. -/
theorem isGroupOf_congr {P Q : Literal ν → Prop} {t : Node ν}
    (hPQ : ∀ l ∈ t.leaves, P l → Q l) (h : t.IsGroupOf P) : t.IsGroupOf Q := by
  obtain ⟨ls, hfold, hls⟩ := isGroupOf_iff.mp h
  rw [leaves_of_fold_literal hfold] at hPQ
  exact isGroupOf_iff.mpr ⟨ls, hfold, fun l hl => hPQ l hl (hls l hl)⟩

theorem isDisjunctive_congr {P Q : Literal ν → Prop} {t : Node ν}
    (hPQ : ∀ l ∈ t.leaves, P l → Q l) (h : t.IsDisjunctive P) : t.IsDisjunctive Q := by
  obtain ⟨ts, hfold, hts⟩ := isDisjunctive_iff.mp h
  rw [leaves_of_fold hfold] at hPQ
  refine isDisjunctive_iff.mpr ⟨ts, hfold, fun c hc => isGroupOf_congr (fun l hl => ?_) (hts c hc)⟩
  exact hPQ l (List.mem_flatMap.mpr ⟨c, hc, hl⟩)

/-- The literals of the tree of a query have the property. -/
theorem IsDisjunctive.forall_leaves {P : Literal ν → Prop} {t : Node ν} (h : t.IsDisjunctive P) :
    ∀ l ∈ t.leaves, P l := by
  obtain ⟨ts, hfold, hts⟩ := isDisjunctive_iff.mp h
  intro l hl
  rw [leaves_of_fold hfold, List.mem_flatMap] at hl
  obtain ⟨c, hc, hlc⟩ := hl
  obtain ⟨ls, hfold', hls⟩ := isGroupOf_iff.mp (hts c hc)
  rw [leaves_of_fold_literal hfold'] at hlc
  exact hls l hlc

theorem isGroupOf_map (f : ν → μ) (P : Literal μ → Prop) (t : Node ν) :
    (t.map f).IsGroupOf P ↔ t.IsGroupOf fun l => P (l.map f) := by
  have hchild : ∀ c : Node ν, (∃ l, c.map f = .literal l ∧ P l) ↔
      ∃ l, c = .literal l ∧ P (l.map f) := by
    intro c
    cases c with
    | literal l =>
      constructor
      · rintro ⟨m, hm, hP⟩
        cases hm
        exact ⟨l, rfl, hP⟩
      · rintro ⟨m, hm, hP⟩
        cases hm
        exact ⟨l.map f, rfl, hP⟩
    | branch op a b rest =>
      constructor
      · rintro ⟨m, hm, -⟩
        cases hm
      · rintro ⟨m, hm, -⟩
        cases hm
  match t with
  | .literal l => exact Iff.rfl
  | .branch .or a b rest => exact Iff.rfl
  | .branch .and a b rest =>
    rw [map_branch]
    simp only [IsGroupOf, List.forall_mem_cons, List.forall_mem_map, hchild]

/-- The shape of a tree does not depend on its normalizers. -/
theorem isDisjunctive_map (f : ν → μ) (P : Literal μ → Prop) (t : Node ν) :
    (t.map f).IsDisjunctive P ↔ t.IsDisjunctive fun l => P (l.map f) := by
  match t with
  | .literal l => exact Iff.rfl
  | .branch .and a b rest => exact isGroupOf_map f P (.branch .and a b rest)
  | .branch .or a b rest =>
    rw [map_branch]
    simp only [IsDisjunctive, List.forall_mem_cons, List.forall_mem_map, isGroupOf_map]

theorem isCanonical_erase {t : Node ν} : t.erase.IsCanonical ↔ t.IsCanonical :=
  isDisjunctive_map _ _ t

end Node

namespace Query

/-! ### Parsed trees -/

/-- The literal of a run is a good literal or the empty term. -/
theorem isParsed_ofRun (n : ν) {w : Text} (hw : ∀ c ∈ w, isWordChar c = true) (hplus : '+' ∉ w) :
    (ofRun n w).IsParsed n := by
  obtain ⟨hneg, htext, hkind, hnorm⟩ := isWordLiteral_iff.mpr (rfl : ofRun n w = ofRun n w)
  generalize ofRun n w = l at hneg htext hkind hnorm
  have hword : l.kind ≠ .phrase := by
    rw [hkind]
    split <;> simp
  -- the text of the literal is the run, or what follows its dash
  have hsub : ∀ c ∈ l.text, c ∈ w := by
    intro c hc
    rw [htext]
    split
    · exact List.mem_cons_of_mem _ hc
    · exact hc
  have hchars : ' ' ∉ l.text ∧ '+' ∉ l.text ∧ '"' ∉ l.text :=
    ⟨fun h => ne_space_of_mem hw (hsub _ h), fun h => hplus (hsub _ h),
      fun h => ne_quote_of_mem hw (hsub _ h)⟩
  refine ⟨?_, hnorm⟩
  rw [Literal.isGood_iff_of_ne_phrase hword, Literal.isEmptyTerm_iff]
  cases hn : l.negated with
  | true => exact Or.inl ⟨hkind, hchars, Or.inl rfl⟩
  | false =>
    rw [hn, if_neg (by simp)] at htext
    have hdash : l.text.head? ≠ some '-' := fun h => by simp [hn, htext, h] at hneg
    by_cases hne : l.text = []
    · exact Or.inr ⟨by simpa [hne] using hkind, hne, rfl⟩
    · exact Or.inl ⟨hkind, hchars, Or.inr ⟨hne, hdash⟩⟩

/-- **Every literal of a group is good or the empty term.** -/
theorem Reads.isParsed {n : ν} {g : Text} {ls : List (Literal ν)} (h : Reads n g ls)
    (hplus : '+' ∉ g) : ∀ l ∈ ls, l.IsParsed n := by
  induction h with
  | nil => simp
  | blank _ ih => exact ih fun hmem => hplus (List.mem_cons_of_mem _ hmem)
  | @phrase w s ls hw _ ih =>
    simp only [List.mem_cons, List.mem_append, not_or] at hplus
    rw [List.forall_mem_cons]
    exact ⟨⟨Or.inl ⟨rfl, w, rfl, hw, hplus.2.1⟩, rfl⟩, ih hplus.2.2.2⟩
  | @word w s ls _ hw _ _ ih =>
    rw [List.mem_append, not_or] at hplus
    rw [List.forall_mem_cons]
    exact ⟨isParsed_ofRun n hw hplus.1, ih hplus.2⟩
  | @dangling w s ls hw _ _ _ ih =>
    simp only [List.mem_cons, List.mem_append, not_or] at hplus
    rw [List.forall_mem_cons]
    exact ⟨isParsed_ofRun n hw hplus.2.1, ih hplus.2.2⟩

/-- **The tree of a query is a disjunction of conjunctions** of good literals and empty terms. -/
theorem isDisjunctive_of_parse {n : ν} {q : Text} {t : Node ν} (h : parse n q = some t) :
    t.IsDisjunctive (Literal.IsParsed n) := by
  rw [parse_eq_fold_alternatives] at h
  refine Node.isDisjunctive_iff.mpr ⟨_, h, fun c hc => ?_⟩
  obtain ⟨g, hg, hc⟩ := List.mem_filterMap.mp hc
  obtain ⟨ls, hls⟩ := exists_reads n g
  rw [hls.parseGroup_eq] at hc
  exact Node.isGroupOf_iff.mpr ⟨ls, hc, hls.isParsed (Text.notMem_of_mem_pieces hg)⟩

end Query
end QueryTree
