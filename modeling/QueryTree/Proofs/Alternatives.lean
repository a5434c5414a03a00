import Mathlib.Data.List.Basic
import QueryTree.Proofs.Splitting

/-!
# A query is the disjunction of its pieces

The tree of a query is what cutting the query at every `+`, parsing the pieces and leaving out
those without a literal gives.  Nothing protects a `+` from the cut, not even quotes around it.

Everything about the alternatives of a query follows from two equations: a `+` cuts the list of
alternatives, and a space at either end of a query changes nothing.

## Main definitions

* `Query.alternatives n q` — the trees of the pieces of `q` that have one.

## Main results

* `Query.alternatives_append_plus` — a `+` cuts the alternatives of a query.
* `Query.Splits.filterMap_parseGroup` — the groups of a query give its alternatives.
* `Query.parse_eq_fold_pieces` — **a query is parsed piece by piece.**
-/

namespace QueryTree

variable {ν : Type}

namespace Query

open Scan

/-- The trees of the pieces of a query between the `+`, without the pieces that have none. -/
def alternatives (n : ν) (q : Text) : List (Node ν) :=
  (Text.pieces (· = '+') q).filterMap (parseGroup n)

/-! ### Separators -/

/-- A `+` cuts the alternatives of a query. -/
theorem alternatives_append_plus (n : ν) (u v : Text) :
    alternatives n (u ++ '+' :: v) = alternatives n u ++ alternatives n v := by
  have hcut := Text.pieces_append_cons (p := (· = '+')) (c := '+') (by simp) u v
  rw [alternatives, hcut, List.filterMap_append]
  rfl

/-- A text without `+` is a single alternative, if it has a tree. -/
theorem alternatives_of_notMem (n : ν) {g : Text} (h : '+' ∉ g) :
    alternatives n g = (parseGroup n g).toList := by
  rw [alternatives, Text.pieces_of_forall (ne_plus_of_notMem h), List.filterMap_cons,
    List.filterMap_nil]
  cases parseGroup n g <;> rfl

theorem alternatives_nil (n : ν) : alternatives n [] = [] := by
  rw [alternatives_of_notMem n (by simp), parseGroup_eq_none_iff.mpr (by simp)]
  rfl

theorem alternatives_cons_space (n : ν) (s : Text) :
    alternatives n (' ' :: s) = alternatives n s := by
  -- the space belongs to the piece before the first `+`
  by_cases hplus : '+' ∈ s
  · obtain ⟨u, v, rfl, hu⟩ := List.eq_append_cons_of_mem hplus
    have hu' : '+' ∉ ' ' :: u := by simpa using hu
    rw [← List.cons_append, alternatives_append_plus, alternatives_append_plus,
      alternatives_of_notMem n hu', alternatives_of_notMem n hu, parseGroup_cons_space]
  · have hplus' : '+' ∉ ' ' :: s := by simpa using hplus
    rw [alternatives_of_notMem n hplus', alternatives_of_notMem n hplus, parseGroup_cons_space]

theorem alternatives_append_space (n : ν) (s : Text) :
    alternatives n (s ++ [' ']) = alternatives n s := by
  -- the space belongs to the piece behind the last `+`
  induction hk : s.length using Nat.strongRecOn generalizing s with
  | _ k ih =>
    subst hk
    by_cases hplus : '+' ∈ s
    · obtain ⟨u, v, rfl, -⟩ := List.eq_append_cons_of_mem hplus
      have hlt : v.length < (u ++ '+' :: v).length := by
        rw [List.length_append, List.length_cons]
        omega
      have hv := ih v.length hlt v rfl
      rw [List.append_assoc, List.cons_append, alternatives_append_plus,
        alternatives_append_plus, hv]
    · have hplus' : '+' ∉ s ++ [' '] := by simpa using hplus
      rw [alternatives_of_notMem n hplus', alternatives_of_notMem n hplus,
        parseGroup_append_space]

/-- Separators before a query change nothing. -/
theorem alternatives_separators_append (n : ν) {w : Text}
    (hw : ∀ c ∈ w, isGroupSeparator c = true) (s : Text) :
    alternatives n (w ++ s) = alternatives n s := by
  induction w with
  | nil => rfl
  | cons c w ih =>
    rw [List.forall_mem_cons] at hw
    have hc : c = ' ' ∨ c = '+' := by simpa [isGroupSeparator] using hw.1
    rcases hc with rfl | rfl
    · rw [List.cons_append, alternatives_cons_space, ih hw.2]
    · have h := alternatives_append_plus n [] (w ++ s)
      rw [List.nil_append, alternatives_nil, List.nil_append] at h
      rw [List.cons_append, h, ih hw.2]

/-- Separators behind a query change nothing. -/
theorem alternatives_append_separators (n : ν) {w : Text}
    (hw : ∀ c ∈ w, isGroupSeparator c = true) (s : Text) :
    alternatives n (s ++ w) = alternatives n s := by
  induction w generalizing s with
  | nil => rw [List.append_nil]
  | cons c w ih =>
    rw [List.forall_mem_cons] at hw
    have hc : c = ' ' ∨ c = '+' := by simpa [isGroupSeparator] using hw.1
    rw [List.append_cons, ih hw.2]
    rcases hc with rfl | rfl
    · exact alternatives_append_space n s
    · rw [alternatives_append_plus, alternatives_nil, List.append_nil]

theorem alternatives_eq_nil_iff {n : ν} {q : Text} :
    alternatives n q = [] ↔ ∀ c ∈ q, c = ' ' ∨ c = '+' := by
  rw [alternatives, List.filterMap_eq_nil_iff]
  constructor
  · -- a character other than `+` stands in a piece, and the pieces are blank
    intro h c hc
    by_cases hplus : c = '+'
    · exact Or.inr hplus
    have hmem : c ∈ (Text.pieces (· = '+') q).flatten := by
      rw [Text.flatten_pieces, List.mem_filter]
      exact ⟨hc, by simpa using hplus⟩
    obtain ⟨p, hp, hcp⟩ := List.mem_flatten.mp hmem
    exact Or.inl (parseGroup_eq_none_iff.mp (h p hp) c hcp)
  · intro h p hp
    rw [parseGroup_eq_none_iff]
    intro c hc
    have hmem : c ∈ (Text.pieces (· = '+') q).flatten := List.mem_flatten.mpr ⟨p, hp, hc⟩
    rw [Text.flatten_pieces, List.mem_filter] at hmem
    exact (h c hmem.1).resolve_right (by simpa using hmem.2)

/-- The alternatives of texts that are joined by a `+` with a space on both sides. -/
theorem alternatives_joinWith (n : ν) {ts : List Text} (h : ∀ t ∈ ts, '+' ∉ t) :
    alternatives n (Text.joinWith [' ', '+', ' '] ts) = ts.filterMap (parseGroup n) := by
  rw [List.filterMap_eq_flatMap_toList]
  match ts with
  | [] => exact alternatives_nil n
  | [t] =>
    rw [Text.joinWith_singleton, alternatives_of_notMem n (h t List.mem_cons_self),
      List.flatMap_singleton]
  | t :: u :: ts =>
    rw [List.forall_mem_cons] at h
    have hcut : Text.joinWith [' ', '+', ' '] (t :: u :: ts)
        = (t ++ [' ']) ++ '+' :: (' ' :: Text.joinWith [' ', '+', ' '] (u :: ts)) := by
      simp
    have hrest := alternatives_joinWith n h.2
    rw [List.filterMap_eq_flatMap_toList] at hrest
    rw [hcut, alternatives_append_plus, alternatives_append_space, alternatives_cons_space, hrest,
      alternatives_of_notMem n h.1]
    rfl

/-! ### The tree of a query -/

/-- The trees of the groups of a query are its alternatives. -/
theorem Splits.filterMap_parseGroup (n : ν) {q : Text} {gs : List Text} (h : Splits q gs) :
    gs.filterMap (parseGroup n) = alternatives n q := by
  rw [List.filterMap_eq_flatMap_toList]
  induction h with
  | @nil w hw =>
    rw [← List.append_nil w, alternatives_separators_append n hw, alternatives_nil]
    rfl
  | @last w g hw _ _ hplus =>
    rw [List.flatMap_singleton, alternatives_separators_append n hw, alternatives_of_notMem n hplus]
  | @inner w g b s gs hw _ _ _ hplus hb _ ih =>
    have hsep := isGroupSeparator_of_eq_space hb
    -- the rest of the query starts with what ended the group
    have hskip : alternatives n (b ++ '+' :: s) = alternatives n s := by
      rw [List.append_cons, alternatives_separators_append]
      intro c hc
      rw [List.mem_append, List.mem_singleton] at hc
      rcases hc with hc | rfl
      · exact hsep c hc
      · exact isGroupSeparator_plus
    rw [List.flatMap_cons, ih, hskip, alternatives_separators_append n hw, ← List.append_assoc,
      alternatives_append_plus, alternatives_append_separators n hsep,
      alternatives_of_notMem n hplus]

theorem parse_eq_fold_alternatives (n : ν) (q : Text) :
    parse n q = Node.fold .or (alternatives n q) := by
  have h := (map_snd_groups_eq_iff.mp rfl : Splits q _).filterMap_parseGroup n
  rw [List.filterMap_map] at h
  rw [parse, ← h]
  rfl

/-- A text without `+` is parsed as a group. -/
theorem parse_of_notMem (n : ν) {g : Text} (h : '+' ∉ g) : parse n g = parseGroup n g := by
  rw [parse_eq_fold_alternatives, alternatives_of_notMem n h, Node.fold_toList]

/-- The tree of a group is no disjunction. -/
theorem parseGroup_ne_or (n : ν) (g : Text) (a b : Node ν) (rest : List (Node ν)) :
    parseGroup n g ≠ some (.branch .or a b rest) := by
  rw [parseGroup]
  cases literals n g with
  | nil => exact fun h => by cases h
  | cons l ls =>
    cases ls with
    | nil => exact fun h => by cases h
    | cons m ls => exact fun h => by cases h

/-- **A query is parsed piece by piece.**  Its tree is the disjunction of the trees of its pieces
between the `+`, the pieces without a tree left out.  A piece has no tree exactly when it is
blank, and its tree is no disjunction.  So a run of separators with a `+` in it acts as a single
`+`, and a query has no tree exactly when it consists of separators. -/
theorem parse_eq_fold_pieces (n : ν) (q : Text) :
    parse n q = Node.fold .or ((Text.pieces (· = '+') q).filterMap (parse n)) ∧
      (∀ p : Text, '+' ∉ p →
        (parse n p = none ↔ ∀ c ∈ p, c = ' ') ∧
          ∀ a b rest, parse n p ≠ some (.branch .or a b rest)) ∧
      (∀ u w v : Text, (∀ c ∈ w, c = ' ' ∨ c = '+') → '+' ∈ w →
        parse n (u ++ (w ++ v)) = parse n (u ++ '+' :: v)) ∧
      (parse n q = none ↔ ∀ c ∈ q, c = ' ' ∨ c = '+') := by
  refine ⟨?_, ?_, ?_, ?_⟩
  · rw [parse_eq_fold_alternatives, alternatives]
    congr 1
    exact List.filterMap_congr fun p hp =>
      (parse_of_notMem n (Text.notMem_of_mem_pieces hp)).symm
  · intro p hp
    rw [parse_of_notMem n hp]
    exact ⟨parseGroup_eq_none_iff, parseGroup_ne_or n p⟩
  · intro u w v hw hplus
    -- the run is separators, a `+` and separators
    have hsep : ∀ c ∈ w, isGroupSeparator c = true := by
      intro c hc
      simpa [isGroupSeparator] using hw c hc
    obtain ⟨a, b, rfl, -⟩ := List.eq_append_cons_of_mem hplus
    rw [List.forall_mem_append, List.forall_mem_cons] at hsep
    have hcut : u ++ ((a ++ '+' :: b) ++ v) = (u ++ a) ++ '+' :: (b ++ v) := by simp
    rw [parse_eq_fold_alternatives, parse_eq_fold_alternatives, hcut, alternatives_append_plus,
      alternatives_append_plus, alternatives_append_separators n hsep.1,
      alternatives_separators_append n hsep.2.2]
  · rw [parse_eq_fold_alternatives, Node.fold_eq_none_iff, alternatives_eq_nil_iff]

/-- The law at a query with a `+` between quotes, and at a piece with an open quote. -/
theorem parse_eq_fold_pieces_quoted :
    parse () ['a', '"', 'b', ' ', '+', 'c', '"']
        = Node.fold .or ([['a', '"', 'b', ' '], ['c', '"']].filterMap (parse ())) ∧
      ('+' ∉ [' ', '"'] ∧ parse () [' ', '"'] ≠ none) ∧
      parse () ['a', '"', 'b', '+', ' ', '+', 'c', '"']
        = parse () ['a', '"', 'b', '+', 'c', '"'] := by
  refine ⟨(parse_eq_fold_pieces () _).1, ⟨by decide, ?_⟩, ?_⟩
  · rw [ne_eq, ((parse_eq_fold_pieces () []).2.1 [' ', '"'] (by decide)).1]
    simp
  · exact (parse_eq_fold_pieces () []).2.2.1 ['a', '"', 'b'] ['+', ' ', '+'] ['c', '"']
      (by simp) (by simp)

end Query
end QueryTree
