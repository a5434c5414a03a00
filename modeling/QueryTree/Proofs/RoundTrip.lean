import QueryTree.Proofs.NormalForm

/-!
# Writing a tree and reading it back

A good literal, written before the end of a group or before a space, is read back as itself; the
empty term is written as nothing.  So a tree of the shape that queries have is read back without
its empty terms, and nothing else is lost.  Trees of another shape never come back, since no query
has them.

## Main definitions

* `Node.prune` — a tree without its empty terms, folded again.
* `Query.canonicalText n q` — a query written again from its tree.

## Main results

* `Query.reads_joinWith_print` — what the written form of a group reads as.
* `Query.parse_print` — **a tree of the shape of queries is read back pruned.**
* `Query.parse_print_eq_iff` — **exactly the canonical trees are read back as themselves.**
* `Query.parse_canonicalText_eq` — **writing and reading a query prunes its tree**, and a second
  time changes nothing.
-/

namespace QueryTree

variable {ν μ : Type}

namespace Node

/-! ### Pruning -/

mutual

/-- The tree without its empty terms; a branch is folded again from what is left of its
children. -/
def prune : Node ν → Option (Node ν)
  | .literal l => if l.isEmptyTerm then none else some (.literal l)
  | .branch op a b rest => fold op (a.prune.toList ++ (b.prune.toList ++ pruneAll rest))

/-- What is left of the trees of a list. -/
def pruneAll : List (Node ν) → List (Node ν)
  | [] => []
  | t :: ts => t.prune.toList ++ pruneAll ts

end

theorem pruneAll_eq_filterMap (ts : List (Node ν)) : pruneAll ts = ts.filterMap prune := by
  rw [List.filterMap_eq_flatMap_toList]
  induction ts with
  | nil => rfl
  | cons t ts ih => rw [pruneAll, ih, List.flatMap_cons]

theorem prune_branch (op : Connective) (a b : Node ν) (rest : List (Node ν)) :
    (branch op a b rest).prune = fold op ((a :: b :: rest).filterMap prune) := by
  rw [prune, pruneAll_eq_filterMap, List.filterMap_eq_flatMap_toList,
    List.filterMap_eq_flatMap_toList, List.flatMap_cons, List.flatMap_cons]

/-- A fold is pruned tree by tree. -/
theorem prune_of_fold {op : Connective} {ts : List (Node ν)} {t : Node ν}
    (h : fold op ts = some t) : t.prune = fold op (ts.filterMap prune) := by
  match ts with
  | [] => cases h
  | [c] =>
    cases h
    rw [List.filterMap_eq_flatMap_toList, List.flatMap_singleton, fold_toList]
  | a :: b :: rest =>
    cases h
    exact prune_branch op a b rest

/-- Pruning removes the empty terms and keeps the other literals in their order. -/
theorem leavesOption_prune (t : Node ν) :
    leavesOption t.prune = t.leaves.filter fun l => !l.isEmptyTerm := by
  induction t using inductionOn with
  | literal l =>
    rw [prune, leaves, List.filter_cons]
    cases l.isEmptyTerm <;> rfl
  | branch op a b rest ih =>
    -- the fold forgets which children are left, but not their literals
    have hoption : ∀ c : Node ν, c.prune.toList.flatMap leaves = leavesOption c.prune := by
      intro c
      cases c.prune with
      | none => rfl
      | some d => exact List.flatMap_singleton leaves d
    rw [prune_branch, leavesOption_fold, leaves_branch, List.filter_flatMap,
      List.filterMap_eq_flatMap_toList, List.flatMap_assoc]
    exact List.flatMap_congr fun c hc => (hoption c).trans (ih c hc)

/-- A tree without empty terms is left as it is. -/
theorem prune_eq_self {t : Node ν} (h : ∀ l ∈ t.leaves, l.isEmptyTerm = false) :
    t.prune = some t := by
  induction t using inductionOn with
  | literal l =>
    rw [prune, if_neg]
    simpa [leaves] using h
  | branch op a b rest ih =>
    have hchild : ∀ c ∈ a :: b :: rest, c.prune = some c := by
      intro c hc
      refine ih c hc fun l hl => h l ?_
      rw [leaves_branch]
      exact List.mem_flatMap.mpr ⟨c, hc, hl⟩
    have hfilter : (a :: b :: rest).filterMap prune = a :: b :: rest := by
      rw [List.filterMap_congr hchild, List.filterMap_some]
    rw [prune_branch, hfilter]
    rfl

/-- A tree that pruning leaves as it is has no empty term. -/
theorem forall_leaves_of_prune {t : Node ν} (h : t.prune = some t) :
    ∀ l ∈ t.leaves, l.isEmptyTerm = false := by
  have hleaves := leavesOption_prune t
  rw [h] at hleaves
  have hself := List.filter_eq_self.mp hleaves.symm
  simpa using hself

/-- Pruning a second time changes nothing. -/
theorem prune_of_prune {t s : Node ν} (h : t.prune = some s) : s.prune = some s := by
  have hleaves := leavesOption_prune t
  rw [h] at hleaves
  refine prune_eq_self fun l hl => ?_
  have hl' : l ∈ t.leaves.filter fun l => !l.isEmptyTerm := hleaves ▸ hl
  simpa using (List.mem_filter.mp hl').2

end Node

namespace Query

/-! ### Written literals -/

/-- A good word is written as a run that reads as itself. -/
theorem isWordLiteral_print {l : Literal ν} (h : l.IsGood) (hkind : l.kind ≠ .phrase) :
    l.print ≠ [] ∧ (∀ c ∈ l.print, isWordChar c = true) ∧
      IsWordLiteral l.normalizer l.print l := by
  obtain ⟨hstar, ⟨hspace, -, hquote⟩, hsign⟩ := (Literal.isGood_iff_of_ne_phrase hkind).mp h
  have htext : ∀ c ∈ l.text, isWordChar c = true := by
    intro c hc
    rw [isWordChar_eq_true]
    exact ⟨fun h => hspace (h ▸ hc), fun h => hquote (h ▸ hc)⟩
  cases hneg : l.negated with
  | true =>
    have hprint : l.print = '-' :: l.text := by rw [Literal.print, hneg, if_pos rfl]
    rw [hprint, List.forall_mem_cons]
    exact ⟨by simp, ⟨by decide, htext⟩, by simp [hneg], by simp [hneg], hstar, rfl⟩
  | false =>
    have hprint : l.print = l.text := by rw [Literal.print, hneg, if_neg (by simp)]
    obtain ⟨hne, hdash⟩ := hsign.resolve_left (by simp [hneg])
    rw [hprint]
    exact ⟨hne, htext, by simp [hneg, hdash], by simp [hneg], hstar, rfl⟩

/-- A good phrase is written with its quotes. -/
theorem exists_print_phrase {l : Literal ν} (h : l.IsGood) (hkind : l.kind = .phrase) :
    ∃ w, l.print = '"' :: (w ++ ['"']) ∧ '"' ∉ w ∧ '+' ∉ w ∧ l = ofInner l.normalizer w := by
  obtain ⟨hneg, w, htext, hquote, hplus⟩ := (Literal.isGood_phrase_iff hkind).mp h
  obtain ⟨kind, text, negated, normalizer⟩ := l
  subst hkind hneg htext
  exact ⟨w, rfl, hquote, hplus, rfl⟩

theorem print_of_isEmptyTerm {l : Literal ν} (h : l.isEmptyTerm = true) : l.print = [] := by
  obtain ⟨-, htext, hneg⟩ := Literal.isEmptyTerm_iff.mp h
  rw [Literal.print, hneg, htext, if_neg (by simp)]

/-- A literal is written without a `+`. -/
theorem plus_notMem_print {n : ν} {l : Literal ν} (h : l.IsParsed n) : '+' ∉ l.print := by
  obtain ⟨hgood | hempty, -⟩ := h
  · by_cases hkind : l.kind = .phrase
    · obtain ⟨w, hprint, -, hplus, -⟩ := exists_print_phrase hgood hkind
      rw [hprint]
      simpa using hplus
    · obtain ⟨-, ⟨-, hplus, -⟩, -⟩ := (Literal.isGood_iff_of_ne_phrase hkind).mp hgood
      rw [Literal.print]
      split
      · simpa using hplus
      · exact hplus
  · rw [print_of_isEmptyTerm hempty]
    exact List.not_mem_nil

/-- A good literal is read back before a stop. -/
theorem Reads.good_append {l : Literal ν} {s : Text} {ls : List (Literal ν)} (hl : l.IsGood)
    (hs : Text.Stops isWordChar s) (h : Reads l.normalizer s ls) :
    Reads l.normalizer (l.print ++ s) (l :: ls) := by
  by_cases hkind : l.kind = .phrase
  · obtain ⟨w, hprint, hquote, -, heq⟩ := exists_print_phrase hl hkind
    have hphrase := Reads.phrase hquote h
    rw [← heq] at hphrase
    rwa [hprint, List.cons_append, List.append_assoc]
  · obtain ⟨hne, hrun, hword⟩ := isWordLiteral_print hl hkind
    have hword' := Reads.word hne hrun hs h
    rwa [← isWordLiteral_iff.mp hword] at hword'

/-- A literal is read back before a stop, unless it is the empty term. -/
theorem Reads.print_append {n : ν} {l : Literal ν} {s : Text} {ls : List (Literal ν)}
    (hl : l.IsParsed n) (hs : Text.Stops isWordChar s)
    (h : Reads n s (ls.filter fun l => !l.isEmptyTerm)) :
    Reads n (l.print ++ s) ((l :: ls).filter fun l => !l.isEmptyTerm) := by
  obtain ⟨hgood | hempty, rfl⟩ := hl
  · rw [List.filter_cons_of_pos (by simp [hgood.isEmptyTerm_eq_false])]
    exact .good_append hgood hs h
  · rw [List.filter_cons_of_neg (by simp [hempty]), print_of_isEmptyTerm hempty]
    exact h

/-- The written form of a group reads as its literals without the empty terms. -/
theorem reads_joinWith_print {n : ν} {ls : List (Literal ν)} (h : ∀ l ∈ ls, l.IsParsed n) :
    Reads n (Text.joinWith [' '] (ls.map Literal.print)) (ls.filter fun l => !l.isEmptyTerm) := by
  match ls with
  | [] => exact .nil
  | [l] =>
    have hnil : Reads n [] (([] : List (Literal ν)).filter fun l => !l.isEmptyTerm) := .nil
    have hl := Reads.print_append (h l List.mem_cons_self) (Text.stops_nil _) hnil
    rwa [List.append_nil] at hl
  | l :: m :: ls =>
    rw [List.forall_mem_cons] at h
    rw [List.map_cons, List.map_cons, Text.joinWith_cons_cons, ← List.map_cons, List.append_assoc]
    exact Reads.print_append h.1 (by simp) (.blank (reads_joinWith_print h.2))

/-! ### Written trees -/

/-- A group is written without a `+`, and read back pruned. -/
theorem parseGroup_print {n : ν} {t : Node ν} (h : t.IsGroupOf (Literal.IsParsed n)) :
    '+' ∉ t.print ∧ parseGroup n t.print = t.prune := by
  obtain ⟨ls, hfold, hls⟩ := Node.isGroupOf_iff.mp h
  have hprint : t.print = Text.joinWith [' '] (ls.map Literal.print) := by
    have h := Node.printOption_fold .and (ls.map Node.literal)
    rw [hfold, List.map_map] at h
    exact h
  -- pruning a group is filtering its literals
  have hprune : (ls.map Node.literal).filterMap Node.prune
      = (ls.filter fun l => !l.isEmptyTerm).map Node.literal := by
    rw [List.filterMap_map, ← List.filterMap_eq_map, List.filterMap_filter]
    refine List.filterMap_congr fun l _ => ?_
    cases hl : l.isEmptyTerm <;> simp [Node.prune, hl]
  constructor
  · rw [hprint]
    refine Text.notMem_joinWith (by decide) fun u hu => ?_
    obtain ⟨l, hl, rfl⟩ := List.mem_map.mp hu
    exact plus_notMem_print (hls l hl)
  · rw [hprint, (reads_joinWith_print hls).parseGroup_eq, Node.prune_of_fold hfold, hprune]

/-- **A tree of the shape of queries is read back pruned.** -/
theorem parse_print {n : ν} {t : Node ν} (h : t.IsDisjunctive (Literal.IsParsed n)) :
    parse n t.print = t.prune := by
  obtain ⟨ts, hfold, hts⟩ := Node.isDisjunctive_iff.mp h
  have hprint : t.print = Text.joinWith [' ', '+', ' '] (ts.map Node.print) := by
    have h := Node.printOption_fold .or ts
    rw [hfold] at h
    exact h
  have hplus : ∀ u ∈ ts.map Node.print, '+' ∉ u := by
    rw [List.forall_mem_map]
    exact fun c hc => (parseGroup_print (hts c hc)).1
  have hgroups : (ts.map Node.print).filterMap (parseGroup n) = ts.filterMap Node.prune := by
    rw [List.filterMap_map]
    exact List.filterMap_congr fun c hc => (parseGroup_print (hts c hc)).2
  rw [parse_eq_fold_alternatives, hprint, alternatives_joinWith n hplus, hgroups,
    Node.prune_of_fold hfold]

/-- **Exactly the canonical trees are read back as themselves**, up to their normalizers. -/
theorem parse_print_eq_iff (n : μ) (t : Node ν) :
    (parse n t.print).map Node.erase = some t.erase ↔ t.IsCanonical := by
  constructor
  · intro h
    obtain ⟨s, hs, herase⟩ := Option.map_eq_some_iff.mp h
    -- the tree that comes back is written the same way, so it is read back unpruned
    have hprint : s.print = t.print := by
      rw [← Node.print_erase s, herase, Node.print_erase]
    have hshape := isDisjunctive_of_parse hs
    have hprune : s.prune = some s := by rw [← parse_print hshape, hprint, hs]
    have hcanonical : s.IsCanonical := by
      refine Node.isDisjunctive_congr (fun l hl hparsed => hparsed.1.resolve_right ?_) hshape
      rw [Node.forall_leaves_of_prune hprune l hl]
      simp
    rwa [← Node.isCanonical_erase, ← herase, Node.isCanonical_erase]
  · -- the tree with the parser's normalizer at every literal is what comes back
    intro h
    have hshape : (t.map fun _ => n).IsDisjunctive (Literal.IsParsed n) := by
      rw [Node.isDisjunctive_map]
      exact Node.isDisjunctive_congr (fun l _ hl => ⟨Or.inl hl, rfl⟩) h
    have hprune : (t.map fun _ => n).prune = some (t.map fun _ => n) := by
      refine Node.prune_eq_self fun l hl => ?_
      rw [Node.leaves_map] at hl
      obtain ⟨m, hm, rfl⟩ := List.mem_map.mp hl
      exact Literal.IsGood.isEmptyTerm_eq_false (l := m) (h.forall_leaves m hm)
    have hparse := parse_print hshape
    rw [Node.print_map, hprune] at hparse
    rw [hparse, Option.map_some, Node.erase, Node.map_map]
    rfl

/-! ### Canonical texts -/

/-- A query written again from its tree. -/
def canonicalText (n : ν) (q : Text) : Text := Node.printOption (parse n q)

theorem parse_canonicalText (n : ν) (q : Text) :
    parse n (canonicalText n q) = (parse n q).bind Node.prune := by
  rw [canonicalText]
  cases h : parse n q with
  | none => rw [Node.printOption, parse_of_notMem n List.not_mem_nil]; rfl
  | some t => exact parse_print (isDisjunctive_of_parse h)

theorem bind_prune_bind_prune (o : Option (Node ν)) :
    (o.bind Node.prune).bind Node.prune = o.bind Node.prune := by
  cases o with
  | none => rfl
  | some t =>
    cases h : t.prune with
    | none => simp [h]
    | some s => simp [h, Node.prune_of_prune h]

/-- A tree keeps its shape under pruning, up to normalizers, exactly when it has no empty term. -/
theorem map_erase_prune_eq_iff (t : Node ν) :
    t.prune.map Node.erase = some t.erase ↔ ∀ l ∈ t.leaves, l.isEmptyTerm = false := by
  constructor
  · intro h
    obtain ⟨s, hs, herase⟩ := Option.map_eq_some_iff.mp h
    have hleaves := Node.leavesOption_prune t
    rw [hs] at hleaves
    -- the erased trees have the same number of literals, so no literal was removed
    have hlength : s.leaves.length = t.leaves.length := by
      have h := congrArg (fun u => u.leaves.length) herase
      simpa [Node.erase, Node.leaves_map] using h
    rw [show s.leaves = _ from hleaves, List.length_filter_eq_length_iff] at hlength
    simpa using hlength
  · intro h
    rw [Node.prune_eq_self h, Option.map_some]

/-- **Writing and reading a query prunes its tree.**  The tree comes back unchanged exactly when it
has no empty term, and a text that was written twice is written the same from then on. -/
theorem parse_canonicalText_eq (n : ν) (q : Text) :
    parse n (canonicalText n q) = (parse n q).bind Node.prune ∧
      ((parse n (canonicalText n q)).map Node.erase = (parse n q).map Node.erase ↔
        ∀ l ∈ Node.leavesOption (parse n q), l.isEmptyTerm = false) ∧
      canonicalText n (canonicalText n (canonicalText n q))
        = canonicalText n (canonicalText n q) := by
  refine ⟨parse_canonicalText n q, ?_, ?_⟩
  · rw [parse_canonicalText]
    cases parse n q with
    | none => simp [Node.leavesOption]
    | some t => exact map_erase_prune_eq_iff t
  · rw [canonicalText, parse_canonicalText, parse_canonicalText, bind_prune_bind_prune,
      ← parse_canonicalText]
    rfl

end Query
end QueryTree
