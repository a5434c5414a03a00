import Mathlib.Data.List.Forall2
import QueryTree.Proofs.Composition
import QueryTree.Proofs.Offsets
import QueryTree.Query.Trace

/-!
# The account of a parse is faithful

A parse is observed twice, by the tree it returns and by the steps it records on the way.  The
steps speak of offsets, of a group in the query and of a literal in its group; the tree has none.
Here the two observers are shown to agree.

The account has one record for each piece of the query that is not blank, with the place where the
group of the piece stands, and behind it one record for each literal of the tree of the piece.  The
record of a literal speaks of the group, which is the piece without its outer spaces, and these
make no difference to the literals.  Its place is where the text of the literal stands, so a
negated literal has the place behind its dash, and a literal whose quote was dropped the place
behind the quote.

## Main definitions

* `Query.AccountsFor`: what is recorded of a piece.

## Main results

* `Query.slice_of_mem_literals`: the text of a literal stands at its place.
* `Query.pairwise_literals`: the literals of a group stand one behind the other.
* `Query.trace_accounts`: **the account has a part for each piece that is not blank, and nothing
  else.**
-/

namespace QueryTree

variable {ν : Type}

namespace Scan

/-! ### What a scanner has found -/

theorem exists_of_mem_runs {β : Type} {find : Int → Option β} {stop : β → Int} {limit : Nat}
    {start : Int} {x : β} (hx : x ∈ runs find stop limit start) : ∃ i, find i = some x := by
  induction limit generalizing start with
  | zero => simp [runs] at hx
  | succ limit ih =>
    rw [runs] at hx
    cases hy : find start with
    | none => simp [hy] at hx
    | some y =>
      simp only [hy, List.mem_cons] at hx
      rcases hx with rfl | hx
      · exact ⟨start, hy⟩
      · exact ih hx

/-- What a scanner finds lies in order, if it never finds anything before its offset. -/
theorem Exhausts.pairwise {β : Type} {scan : Int → Except OffsetError (Option β)}
    {bounds : β → Bounds} {start : Int} {xs : List β}
    (h : Exhausts scan (fun x => (bounds x).stop) start xs)
    (hscan : ∀ i x, scan i = .ok (some x) →
      i ≤ (bounds x).start ∧ (bounds x).start ≤ (bounds x).stop) :
    (∀ x ∈ xs, start ≤ (bounds x).start) ∧
      xs.Pairwise fun x y => (bounds x).stop ≤ (bounds y).start := by
  induction h with
  | done _ => exact ⟨by simp, .nil⟩
  | @found start x xs hx _ ih =>
    obtain ⟨hlater, hpairs⟩ := ih
    obtain ⟨hstart, hstop⟩ := hscan start x hx
    refine ⟨?_, .cons hlater hpairs⟩
    rw [List.forall_mem_cons]
    refine ⟨hstart, ?_⟩
    intro y hy
    have hle := hlater y hy
    omega

theorem slice_eq_text {n : ν} {g : Text} {i : Int} {b : Bounds} {l : Literal ν}
    (h : literalAt n g i = some (b, l)) : b.slice g = l.text := by
  rw [literalAt] at h
  split at h
  · cases h
  · split at h
    all_goals
      obtain ⟨rfl, rfl⟩ := Prod.mk.inj (Option.some.inj h)
      rfl

end Scan

namespace Query

open Scan

/-! ### The literals of a group -/

/-- The text of a literal stands at its place in the group. -/
theorem slice_of_mem_literals {n : ν} {g : Text} {x : Bounds × Literal ν}
    (hx : x ∈ literals n g) : x.1.slice g = x.2.text := by
  obtain ⟨i, hi⟩ := exists_of_mem_runs hx
  exact slice_eq_text hi

/-- The literals of a group stand one behind the other. -/
theorem pairwise_literals (n : ν) (g : Text) :
    (literals n g).Pairwise fun x y => x.1.stop ≤ y.1.start := by
  refine ((exhausts_literals n g).pairwise ?_).2
  intro i x hx
  have hwithin := (findsWithin_literal n g).endsWithin hx
  exact ⟨hwithin.start_le, hwithin.start_le_stop⟩

/-- The literals found in a group are those of its tree. -/
theorem map_snd_literals (n : ν) (g : Text) :
    (literals n g).map Prod.snd = Node.leavesOption (parseGroup n g) := by
  have hreads : Reads n g ((literals n g).map Prod.snd) := map_snd_literals_eq_iff.mp rfl
  rw [hreads.leavesOption_parseGroup]

theorem parseGroup_dropWhile_space (n : ν) (t : Text) :
    parseGroup n (t.dropWhile (· = ' ')) = parseGroup n t := by
  induction t with
  | nil => rfl
  | cons c t ih =>
    by_cases hc : c = ' '
    · subst hc
      rw [parseGroup_cons_space, ← ih]
      rfl
    · rw [List.dropWhile_cons_of_neg (by simpa using hc)]

theorem parseGroup_rdropWhile_space (n : ν) (t : Text) :
    parseGroup n (t.rdropWhile (· = ' ')) = parseGroup n t := by
  induction t using List.reverseRecOn with
  | nil => rfl
  | append_singleton t c ih =>
    by_cases hc : c = ' '
    · subst hc
      rw [parseGroup_append_space, ← ih, List.rdropWhile_concat_pos _ _ _ (by simp)]
    · rw [List.rdropWhile_concat_neg _ _ _ (by simpa using hc)]

/-- A piece and its group have the same tree. -/
theorem parseGroup_group (n : ν) (p : Piece) : parseGroup n p.group = parseGroup n p.text := by
  unfold Piece.group
  dsimp only
  split
  · rw [parseGroup_rdropWhile_space, parseGroup_dropWhile_space]
  · exact parseGroup_dropWhile_space n p.text

/-! ### The pieces of a query -/

theorem notMem_text_of_mem_written {q : Text} {p : Piece} (hp : p ∈ written q) : '+' ∉ p.text := by
  have hmem : p.text ∈ (placed 0 (Text.pieces (· = '+') q)).map Piece.text :=
    List.mem_map_of_mem (List.mem_of_mem_filter hp)
  rw [map_text_placed] at hmem
  exact Text.notMem_of_mem_pieces hmem

/-- The group of a piece stands at its place in the query. -/
theorem slice_of_mem_written {q : Text} {p : Piece} (hp : p ∈ written q) :
    p.bounds.slice q = p.group := by
  have hmem : (p.bounds, p.group) ∈ groups q := by
    rw [groups_eq_places]
    exact List.mem_map_of_mem hp
  obtain ⟨b, -, hb⟩ := List.mem_map.mp hmem
  obtain ⟨hbounds, hgroup⟩ := Prod.mk.inj hb
  rw [← hbounds, hgroup]

/-- A query has no tree exactly if all its pieces are blank. -/
theorem parse_eq_none_iff_written {n : ν} {q : Text} : parse n q = none ↔ written q = [] := by
  have hblank : ∀ p : Piece, parseGroup n p.text = none ↔ p.isBlank = true := by
    intro p
    rw [parseGroup_eq_none_iff, Piece.isBlank_eq_true]
  rw [parse_eq_fold_alternatives, Node.fold_eq_none_iff, alternatives, List.filterMap_eq_nil_iff,
    ← map_text_placed 0 (Text.pieces (· = '+') q), List.forall_mem_map]
  simp [hblank, written, writtenFrom]

/-! ### The account -/

/-- What is recorded of a piece: its group with the place where that stands in the query, and then
the literals of the tree of the piece, in order, each with a place in the group where its text
stands, and each behind the one before. -/
def AccountsFor (n : ν) (q : Text) (p : Piece) (events : List (TraceEvent ν)) : Prop :=
  p.bounds.slice q = p.group ∧
    ∃ found : List (Bounds × Literal ν),
      events = .group p.group p.bounds :: found.map (fun x => .literal p.group x.1 x.2) ∧
        found.map Prod.snd = Node.leavesOption (parse n p.text) ∧
        (∀ x ∈ found, x.1.slice p.group = x.2.text) ∧
        found.Pairwise fun x y => x.1.stop ≤ y.1.start

/-- The steps that the group of a piece takes account for the piece. -/
theorem accountsFor_traceGroup (n : ν) {q : Text} {p : Piece} (hp : p ∈ written q) :
    AccountsFor n q p (traceGroup n p.bounds p.group) := by
  refine ⟨slice_of_mem_written hp, literals n p.group, rfl, ?_, ?_, pairwise_literals n p.group⟩
  · rw [map_snd_literals, parseGroup_group, parse_of_notMem n (notMem_text_of_mem_written hp)]
  · intro x hx
    exact slice_of_mem_literals hx

/-- The steps of a parse, piece by piece. -/
theorem trace_eq_flatten (n : ν) (q : Text) :
    trace n q = if written q = [] then [.noLiterals q]
      else ((written q).map fun p => traceGroup n p.bounds p.group).flatten := by
  have hgroups : (groups q).flatMap (fun g => traceGroup n g.1 g.2)
      = ((written q).map fun p => traceGroup n p.bounds p.group).flatten := by
    rw [groups_eq_places, places, List.flatMap_map, List.flatMap_def]
    rfl
  rw [trace, hgroups]
  split
  · next hnone =>
    have hblank := parse_eq_none_iff_written.mp hnone
    rw [if_pos hblank, hblank]
    rfl
  · next hsome =>
    have hwritten : written q ≠ [] := by
      intro hblank
      rw [parse_eq_none_iff_written.mpr hblank] at hsome
      cases hsome
    rw [if_neg hwritten, List.append_nil]

theorem noLiterals_notMem_traceGroup (n : ν) (b : Bounds) (g r : Text) :
    TraceEvent.noLiterals r ∉ traceGroup n b g := by
  simp [traceGroup]

/-- **The account of a parse is faithful.**  It has a part for each piece of the query that is not
blank, in order; a query without such a piece has only the word that there is no literal, and no
other query has that word in its account. -/
theorem trace_accounts (n : ν) (q : Text) :
    (∃ accounts, List.Forall₂ (AccountsFor n q) (written q) accounts ∧
        trace n q = if written q = [] then [.noLiterals q] else accounts.flatten) ∧
      ∀ r, TraceEvent.noLiterals r ∈ trace n q ↔ written q = [] ∧ r = q := by
  constructor
  · refine ⟨_, ?_, trace_eq_flatten n q⟩
    rw [List.forall₂_map_right_iff, List.forall₂_same]
    intro p hp
    exact accountsFor_traceGroup n hp
  · intro r
    rw [trace_eq_flatten]
    split
    · next hblank => simp [hblank]
    · next hwritten =>
      have hnone : TraceEvent.noLiterals r
          ∉ ((written q).map fun p => traceGroup n p.bounds p.group).flatten := by
        rw [List.mem_flatten]
        rintro ⟨events, hevents, hr⟩
        obtain ⟨p, -, rfl⟩ := List.mem_map.mp hevents
        exact noLiterals_notMem_traceGroup n p.bounds p.group r hr
      simp [hnone, hwritten]

-- the spaces around the first group are left out, and the last group keeps its trailing one
example : trace () [' ', '-', 'a', ' ', '+', '"', 'b', ' ']
    = [.group ['-', 'a'] ⟨1, 2⟩, .literal ['-', 'a'] ⟨1, 1⟩ ⟨.term, ['a'], true, ()⟩,
      .group ['"', 'b', ' '] ⟨5, 3⟩,
      .literal ['"', 'b', ' '] ⟨1, 1⟩ ⟨.term, ['b'], false, ()⟩] := by
  decide

end Query
end QueryTree
