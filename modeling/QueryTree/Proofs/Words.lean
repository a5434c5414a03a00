import Mathlib.Data.List.Basic
import QueryTree.Proofs.Text
import QueryTree.Text.Blank

/-!
# Words as maximal runs

The words of a text are computed as its pieces between white space, the empty ones left out.  Here
they are described by where they stand: a word is a run of characters that are not white space, with
white space or an end of the text on both sides.  The description is for any class of characters.

A run does not see what lies beyond a place where it stops, so the runs of a text behind such a
place are those of its rest, moved along.  From this the runs of a text follow from left to right:
a separator is passed over, and a run is put in front of the runs behind it.

## Main definitions

* `Text.IsRun p t k w`: `w` is a maximal run of characters of class `p`, at position `k` of `t`.
* `Text.RunsOf p t runs`: `runs` lists the maximal runs of `t` with their positions, in order.

## Main results

* `Text.isRun_append_iff`: the runs behind a place where no run crosses.
* `Text.pieces_filter`, `Text.pieces_map`: pieces of a text with characters deleted or replaced.
* `Text.exists_runsOf` — **the pieces of a text that are not empty are its maximal runs, in order.**
-/

namespace QueryTree.Text

variable {p : Char → Bool}

/-! ### Maximal runs -/

/-- `w` is a maximal run of characters of class `p`, at position `k` of `t`. -/
structure IsRun (p : Char → Bool) (t : Text) (k : Nat) (w : Text) : Prop where
  ne_nil : w ≠ []
  all : ∀ c ∈ w, p c = true
  maximal : ∃ u v, t = u ++ (w ++ v) ∧ u.length = k ∧ Stops p u.reverse ∧ Stops p v

/-- A run that is not empty does not stop before its first character. -/
theorem not_stops_append {w : Text} (hne : w ≠ []) (hw : ∀ c ∈ w, p c = true) (v : Text) :
    ¬ Stops p (w ++ v) := by
  cases w with
  | nil => exact absurd rfl hne
  | cons c w =>
    rw [List.cons_append, stops_cons, hw c List.mem_cons_self]
    simp

/-- The runs behind a place where no run crosses are those of the rest of the text. -/
theorem isRun_append_iff {u s w : Text} {k : Nat} (hcut : Stops p u.reverse ∨ Stops p s) :
    IsRun p (u ++ s) (u.length + k) w ↔ IsRun p s k w := by
  constructor
  · rintro ⟨hne, hw, u', v, heq, hlen, hbefore, hafter⟩
    obtain ⟨x, rfl, rfl⟩ : ∃ x, u' = u ++ x ∧ s = x ++ (w ++ v) := by
      rcases List.append_eq_append_iff.mp heq with ⟨x, hu', hs⟩ | ⟨x, hu, hrest⟩
      · exact ⟨x, hu', hs⟩
      · -- a longer cut is too long
        have hx : x.length = 0 := by
          rw [hu, List.length_append] at hlen
          omega
        obtain rfl := List.length_eq_zero_iff.mp hx
        exact ⟨[], by simpa using hu.symm, by simpa using hrest.symm⟩
    rw [List.length_append] at hlen
    rw [List.reverse_append] at hbefore
    refine ⟨hne, hw, x, v, rfl, by omega, ?_, hafter⟩
    cases x with
    | nil => exact stops_nil p
    | cons c x => exact (stops_append_iff (by simp) _).mp hbefore
  · rintro ⟨hne, hw, x, v, rfl, rfl, hbefore, hafter⟩
    refine ⟨hne, hw, u ++ x, v, (List.append_assoc ..).symm, List.length_append, ?_, hafter⟩
    rw [List.reverse_append]
    cases x with
    | nil => exact hcut.resolve_right (not_stops_append hne hw v)
    | cons c x => exact (stops_append_iff (by simp) _).mpr hbefore

/-- No run starts at a character outside the class. -/
theorem not_isRun_zero {s w : Text} (hs : Stops p s) : ¬ IsRun p s 0 w := by
  rintro ⟨hne, hw, u, v, rfl, hlen, -, -⟩
  obtain rfl := List.length_eq_zero_iff.mp hlen
  exact not_stops_append hne hw v hs

/-- A run up to where it stops is the one maximal run that starts in it. -/
theorem isRun_iff_of_lt {u s w : Text} {k : Nat} (hu : ∀ c ∈ u, p c = true) (hs : Stops p s)
    (hk : k < u.length) : IsRun p (u ++ s) k w ↔ k = 0 ∧ w = u := by
  constructor
  · rintro ⟨hne, hw, u', v, heq, rfl, hbefore, hafter⟩
    rcases List.eq_nil_or_concat u' with rfl | ⟨u', c, rfl⟩
    · refine ⟨rfl, ?_⟩
      rw [List.nil_append] at heq
      rw [← takeWhile_append hw hafter, ← heq, takeWhile_append hu hs]
    · -- the run would start behind another character of the class
      have hc : c ∈ u := by
        rw [List.concat_eq_append] at heq hk
        rcases List.append_eq_append_iff.mp heq with ⟨x, hx, -⟩ | ⟨x, rfl, -⟩
        · rw [hx, List.length_append] at hk
          omega
        · simp
      rw [List.concat_eq_append, List.reverse_append, List.reverse_singleton, List.singleton_append,
        stops_cons, hu c hc] at hbefore
      cases hbefore
  · rintro ⟨rfl, rfl⟩
    have hne : w ≠ [] := List.length_pos_iff.mp hk
    exact ⟨hne, hu, [], s, rfl, rfl, stops_nil p, hs⟩

/-! ### All runs of a text -/

/-- `runs` lists the maximal runs of `t` with their positions, in order. -/
structure RunsOf (p : Char → Bool) (t : Text) (runs : List (Nat × Text)) : Prop where
  sorted : runs.Pairwise fun a b => a.1 < b.1
  mem_iff : ∀ k w, (k, w) ∈ runs ↔ IsRun p t k w

theorem RunsOf.mem_shift {s : Text} {runs : List (Nat × Text)} (h : RunsOf p s runs) (n k : Nat)
    (w : Text) : (k, w) ∈ runs.map (fun r => (n + r.1, r.2)) ↔ ∃ j, k = n + j ∧ IsRun p s j w := by
  rw [List.mem_map]
  constructor
  · rintro ⟨⟨j, w'⟩, hmem, heq⟩
    obtain ⟨rfl, rfl⟩ := Prod.mk.inj heq
    exact ⟨j, rfl, (h.mem_iff j w').mp hmem⟩
  · rintro ⟨j, rfl, hrun⟩
    exact ⟨(j, w), (h.mem_iff j w).mpr hrun, rfl⟩

theorem RunsOf.sorted_shift {s : Text} {runs : List (Nat × Text)} (h : RunsOf p s runs) (n : Nat) :
    (runs.map fun r => (n + r.1, r.2)).Pairwise fun a b => a.1 < b.1 := by
  rw [List.pairwise_map]
  exact h.sorted.imp fun hlt => by simpa using hlt

/-- A character outside the class is passed over. -/
theorem RunsOf.cons {s : Text} {c : Char} {runs : List (Nat × Text)} (h : RunsOf p s runs)
    (hc : p c = false) : RunsOf p (c :: s) (runs.map fun r => (1 + r.1, r.2)) := by
  refine ⟨h.sorted_shift 1, ?_⟩
  intro k w
  rw [h.mem_shift]
  constructor
  · rintro ⟨j, rfl, hrun⟩
    exact (isRun_append_iff (u := [c]) (Or.inl (by simpa using hc))).mpr hrun
  · intro hrun
    cases k with
    | zero => exact absurd hrun (not_isRun_zero (stops_cons.mpr hc))
    | succ k =>
      refine ⟨k, by omega, ?_⟩
      rw [Nat.add_comm] at hrun
      exact (isRun_append_iff (u := [c]) (Or.inl (by simpa using hc))).mp hrun

/-- A run is put in front of those behind it. -/
theorem RunsOf.append {u s : Text} {runs : List (Nat × Text)} (h : RunsOf p s runs) (hne : u ≠ [])
    (hu : ∀ c ∈ u, p c = true) (hs : Stops p s) :
    RunsOf p (u ++ s) ((0, u) :: runs.map fun r => (u.length + r.1, r.2)) := by
  have hpos : 0 < u.length := List.length_pos_iff.mpr hne
  constructor
  · rw [List.pairwise_cons]
    refine ⟨?_, h.sorted_shift u.length⟩
    rintro ⟨k, w⟩ hmem
    obtain ⟨j, rfl, -⟩ := (h.mem_shift u.length k w).mp hmem
    exact Nat.lt_of_lt_of_le hpos (Nat.le_add_right _ _)
  · intro k w
    rw [List.mem_cons, h.mem_shift, Prod.mk.injEq]
    constructor
    · rintro (⟨rfl, rfl⟩ | ⟨j, rfl, hrun⟩)
      · exact (isRun_iff_of_lt hu hs hpos).mpr ⟨rfl, rfl⟩
      · exact (isRun_append_iff (Or.inr hs)).mpr hrun
    · intro hrun
      by_cases hk : k < u.length
      · exact Or.inl ((isRun_iff_of_lt hu hs hk).mp hrun)
      · obtain ⟨j, rfl⟩ : ∃ j, k = u.length + j := ⟨k - u.length, by omega⟩
        exact Or.inr ⟨j, rfl, (isRun_append_iff (Or.inr hs)).mp hrun⟩

/-! ### Pieces -/

/-- Deleting characters that are no separators deletes them from each piece. -/
theorem pieces_filter {α : Type} {p keeps : α → Bool} (h : ∀ c, p c = true → keeps c = true)
    (t : List α) : pieces p (t.filter keeps) = (pieces p t).map (List.filter keeps) := by
  induction t with
  | nil => rfl
  | cons c t ih =>
    cases hp : p c with
    | true =>
      rw [List.filter_cons_of_pos (h c hp), pieces, pieces, hp, if_pos rfl, if_pos rfl, ih]
      rfl
    | false =>
      rw [pieces, hp]
      cases ht : pieces p t with
      | nil => exact absurd ht (pieces_ne_nil p t)
      | cons q qs =>
        rw [ht] at ih
        cases hc : keeps c with
        | true =>
          rw [List.filter_cons_of_pos hc, pieces, hp, ih]
          simp [hc]
        | false =>
          rw [List.filter_cons_of_neg (by simp [hc]), ih]
          simp [hc]

/-- Replacing characters but keeping what is a separator replaces them in each piece. -/
theorem pieces_map {α β : Type} {p : α → Bool} {q : β → Bool} {f : α → β}
    (h : ∀ c, q (f c) = p c) (t : List α) : pieces q (t.map f) = (pieces p t).map (List.map f) := by
  induction t with
  | nil => rfl
  | cons c t ih =>
    rw [List.map_cons, pieces, pieces, h, ih]
    cases p c with
    | true => rfl
    | false =>
      cases ht : pieces p t with
      | nil => exact absurd ht (pieces_ne_nil p t)
      | cons w ws => rfl

/-- The words of a text hold its characters that are not white space. -/
theorem flatten_words (t : Text) : t.words.flatten = t.filter fun c => !isBlank c := by
  rw [words, List.flatten_filter_not_isEmpty, flatten_pieces]

/-- A run of other characters is the first piece of a text, if it goes on with a separator. -/
theorem filter_pieces_append {sep : Char → Bool} {w s : Text} (hne : w ≠ [])
    (hw : ∀ c ∈ w, sep c = false) (hs : Stops (fun c => !sep c) s) :
    (pieces sep (w ++ s)).filter (fun x => !x.isEmpty)
      = w :: (pieces sep s).filter fun x => !x.isEmpty := by
  cases s with
  | nil =>
    rw [List.append_nil, pieces_of_forall hw]
    simp [pieces, hne]
  | cons c s =>
    have hc : sep c = true := by simpa using hs
    rw [pieces_append_cons hc, pieces_of_forall hw, pieces, if_pos hc]
    simp [hne]

/-- **The pieces of a text that are not empty are its maximal runs, in order.** -/
theorem exists_runsOf (sep : Char → Bool) (t : Text) :
    ∃ runs, RunsOf (fun c => !sep c) t runs ∧
      (pieces sep t).filter (fun w => !w.isEmpty) = runs.map Prod.snd := by
  -- a separator is passed over, and otherwise a whole run is read
  induction hn : t.length using Nat.strongRecOn generalizing t with
  | ind n ih =>
    cases t with
    | nil =>
      refine ⟨[], ⟨List.Pairwise.nil, ?_⟩, rfl⟩
      intro k w
      refine ⟨fun hmem => absurd hmem List.not_mem_nil, ?_⟩
      rintro ⟨hne, -, u, v, heq, -, -⟩
      simp [hne] at heq
    | cons c t =>
      cases hc : sep c with
      | true =>
        rw [List.length_cons] at hn
        obtain ⟨runs, hruns, heq⟩ := ih t.length (by omega) t rfl
        refine ⟨_, hruns.cons (by simp [hc]), ?_⟩
        rw [pieces, if_pos hc, List.filter_cons_of_neg (by simp), heq, List.map_map]
        rfl
      | false =>
        obtain ⟨w, s, heq, hw, hs⟩ := exists_run (fun c => !sep c) (c :: t)
        have hne : w ≠ [] := by
          rintro rfl
          rw [← List.nil_append s, ← heq, stops_cons, hc] at hs
          cases hs
        have hpos : 0 < w.length := List.length_pos_iff.mpr hne
        rw [heq, List.length_append] at hn
        obtain ⟨runs, hruns, hrest⟩ := ih s.length (by omega) s rfl
        refine ⟨_, heq ▸ hruns.append hne hw hs, ?_⟩
        rw [heq, filter_pieces_append hne (fun c hc => by simpa using hw c hc) hs, hrest,
          List.map_cons, List.map_map]
        rfl

end QueryTree.Text
