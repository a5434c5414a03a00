import Mathlib.Order.Bounds.Basic
import QueryTree.Proofs.Offsets

/-!
# What the searches of a scanner find

A scanner runs over characters of a class, on or back, and looks for the next occurrence of a
character.  Each of the three is a search for an extremal offset: the first one from a place on
that holds a character outside the class, the last one up to a place that does, and the first one
that holds the character.  Here they are stated in this way, so that a scanner made of them can be
described by the offsets alone.

## Main results

* `Text.mem_slice_iff`, `Text.mem_drop_iff`: the characters of a part by their offsets.
* `Text.isLeast_findFrom?`: the next occurrence of a character.
* `Scan.isLeast_skip`, `Scan.length_le_skip_iff`: running on over a class.
* `Scan.isGreatest_skipBack`: running back over a class.
-/

namespace QueryTree

namespace Text

variable {t : Text} {c : Char}

/-! ### The characters of a part -/

/-- A part between two positions holds the characters at the offsets between them. -/
theorem mem_slice_iff {lo hi : Int} (hlo : 0 ≤ lo) (hhi : 0 ≤ hi) :
    c ∈ t.slice lo hi ↔ ∃ j, lo ≤ j ∧ j < hi ∧ t.at? j = some c := by
  obtain ⟨m, rfl⟩ := Int.eq_ofNat_of_zero_le hlo
  obtain ⟨n, rfl⟩ := Int.eq_ofNat_of_zero_le hhi
  rw [slice, clip_natCast, clip_natCast, List.mem_iff_getElem?]
  constructor
  · rintro ⟨k, hk⟩
    rw [List.getElem?_drop, List.getElem?_take] at hk
    split at hk
    · next hlt =>
      have hlen := (List.getElem?_eq_some_iff.mp hk).1
      refine ⟨(m + k : Nat), by omega, by omega, ?_⟩
      rw [at?_natCast, ← hk]
      congr 1
      omega
    · cases hk
  · rintro ⟨j, hm, hn, hj⟩
    have hlen := lt_length_of_at?_eq_some hj
    obtain ⟨k, rfl⟩ := Int.eq_ofNat_of_zero_le (Int.le_trans hlo hm)
    rw [at?_natCast] at hj
    refine ⟨k - m, ?_⟩
    rw [List.getElem?_drop, List.getElem?_take_of_lt (by omega), ← hj]
    congr 1
    omega

/-- A text from a position on. -/
theorem slice_length (t : Text) (n : Nat) : t.slice n t.length = t.drop n := by
  rw [slice, clip_natCast, clip_natCast, Nat.min_self, List.take_length]
  rcases Nat.le_total n t.length with h | h
  · rw [Nat.min_eq_left h]
  · rw [Nat.min_eq_right h, List.drop_length, List.drop_eq_nil_of_le h]

theorem mem_drop_iff {n : Nat} : c ∈ t.drop n ↔ ∃ j : Int, n ≤ j ∧ t.at? j = some c := by
  rw [← slice_length, mem_slice_iff (by omega) (by omega)]
  constructor
  · rintro ⟨j, hn, -, hj⟩
    exact ⟨j, hn, hj⟩
  · rintro ⟨j, hn, hj⟩
    exact ⟨j, hn, lt_length_of_at?_eq_some hj, hj⟩

/-- A character cuts the part that it stands in. -/
theorem slice_length_of_at? {lo j : Int} (hlo : 0 ≤ lo) (hle : lo ≤ j) (hj : t.at? j = some c) :
    t.slice lo t.length = t.slice lo j ++ c :: t.slice (j + 1) t.length := by
  have hlen := lt_length_of_at?_eq_some hj
  obtain ⟨m, rfl⟩ := Int.eq_ofNat_of_zero_le hlo
  obtain ⟨n, rfl⟩ := Int.eq_ofNat_of_zero_le (Int.le_trans hlo hle)
  rw [at?_natCast] at hj
  have hcut : t = t.take n ++ c :: t.drop (n + 1) := by
    obtain ⟨hn, rfl⟩ := List.getElem?_eq_some_iff.mp hj
    rw [← List.drop_eq_getElem_cons hn, List.take_append_drop]
  have hnext : ((n : Int) + 1) = (n + 1 : Nat) := by omega
  have hpart : t.slice m n = (t.take n).drop m := by
    rw [slice, clip_natCast, clip_natCast, Nat.min_eq_left (by omega), Nat.min_eq_left (by omega)]
  rw [hnext, slice_length, slice_length, hpart]
  nth_rewrite 1 [hcut]
  rw [List.drop_append_of_le_length (by rw [List.length_take]; omega)]

/-! ### The next occurrence of a character -/

/-- A search finds the first occurrence from its offset on. -/
theorem isLeast_findFrom? {i : Int} {k : Nat} (hi : 0 ≤ i) (h : t.findFrom? c i = some k) :
    IsLeast {j : Int | i ≤ j ∧ t.at? j = some c} k := by
  have hat := at?_of_findFrom? h
  have hclip := clip_le_of_findFrom? h
  obtain ⟨n, rfl⟩ := Int.eq_ofNat_of_zero_le hi
  obtain ⟨m, hm, rfl⟩ := Option.map_eq_some_iff.mp h
  obtain ⟨u, v, hcut, rfl, hu⟩ := exists_append_of_indexOf? hm
  have hlen := lt_length_of_at?_eq_some hat
  rw [clip_natCast] at hcut hclip hat hlen ⊢
  refine ⟨⟨by omega, hat⟩, ?_⟩
  rintro j ⟨hj, hc⟩
  -- an earlier occurrence would stand in front of the one that was found
  by_contra hlt
  apply hu
  obtain ⟨l, rfl⟩ := Int.eq_ofNat_of_zero_le (Int.le_trans hi hj)
  have hget : (u ++ c :: v)[l - min n t.length]? = some c := by
    rw [← hcut, List.getElem?_drop, ← hc, at?_natCast]
    congr 1
    omega
  rw [List.getElem?_append_left (by omega)] at hget
  exact List.mem_of_getElem? hget

/-- A search that finds nothing has no occurrence before it. -/
theorem at?_ne_of_findFrom?_eq_none {i j : Int} (hi : 0 ≤ i) (h : t.findFrom? c i = none)
    (hj : i ≤ j) : t.at? j ≠ some c := by
  intro hc
  obtain ⟨n, rfl⟩ := Int.eq_ofNat_of_zero_le hi
  have hlen := lt_length_of_at?_eq_some hc
  have hmem : c ∈ t.drop n := mem_drop_iff.mpr ⟨j, hj, hc⟩
  obtain ⟨u, v, hcut, hu⟩ := List.eq_append_cons_of_mem hmem
  rw [findFrom?, clip_natCast, Nat.min_eq_left (by omega), hcut, indexOf?_append hu,
    indexOf?_cons_self] at h
  cases h

end Text

namespace Scan

variable {p : Char → Bool} {t : Text} {i : Int} {c : Char}

/-! ### Running on -/

/-- What is run over belongs to the class. -/
theorem of_lt_skip {j : Int} (hlo : -(t.length : Int) ≤ i) (hij : i ≤ j) (hj : j < skip p t i)
    (hc : t.at? j = some c) : p c = true := by
  have hget : (t.fromOffset i)[(j - i).toNat]? = some c := by
    rw [Text.getElem?_fromOffset hlo, ← hc]
    congr 1
    omega
  by_contra hp
  have hle := Text.length_takeWhile_le hget (Bool.eq_false_iff.mpr hp)
  unfold skip at hj
  omega

/-- A run over a class that does not reach the end of the text stops at the first offset that holds
another character. -/
theorem isLeast_skip (hlo : -(t.length : Int) ≤ i) (hlt : skip p t i < t.length) :
    IsLeast {j : Int | i ≤ j ∧ ∃ c, t.at? j = some c ∧ p c = false} (skip p t i) := by
  refine ⟨⟨le_skip p t i, exists_at?_skip hlo hlt⟩, ?_⟩
  rintro j ⟨hij, c, hc, hp⟩
  by_contra hj
  rw [of_lt_skip hlo hij (Int.not_le.mp hj) hc] at hp
  cases hp

/-- A run over a class reaches the end of the text exactly if no other character follows. -/
theorem length_le_skip_iff {n : Nat} :
    t.length ≤ skip p t n ↔ ∀ c ∈ t.drop n, p c = true := by
  constructor
  · intro hend c hc
    obtain ⟨j, hj, hat⟩ := Text.mem_drop_iff.mp hc
    have hlen := Text.lt_length_of_at?_eq_some hat
    exact of_lt_skip (by omega) hj (by omega) hat
  · intro h
    by_contra hlt
    obtain ⟨c, hc, hp⟩ := exists_at?_skip (p := p) (t := t) (i := n) (by omega) (Int.not_le.mp hlt)
    rw [h c (Text.mem_drop_iff.mpr ⟨_, le_skip p t n, hc⟩)] at hp
    cases hp

/-! ### Running back -/

/-- A run back over a class stops at the last offset that holds another character. -/
theorem isGreatest_skipBack {n : Nat} {j : Int} (hn : n < t.length) (hj : t.at? j = some c)
    (hc : p c = false) (hle : j ≤ n) :
    IsGreatest {k : Int | k ≤ n ∧ ∃ d, t.at? k = some d ∧ p d = false} (skipBack p t n) := by
  have hlower := le_skipBack hn hj hc hle
  have hupper := skipBack_le p t n
  have hneg := Text.neg_length_le_of_at?_eq_some hj
  obtain ⟨d, hd⟩ := Text.exists_at?_eq_some (t := t) (i := skipBack p t n) (by omega) (by omega)
  have hstop : p d = false := by
    apply Text.of_getElem?_length_takeWhile (t := t.upToOffset n)
    rw [Text.getElem?_upToOffset hn]
    exact hd
  refine ⟨⟨hupper, d, hd, hstop⟩, ?_⟩
  rintro k ⟨hk, e, he, hpe⟩
  exact le_skipBack hn he hpe hk

end Scan
end QueryTree
