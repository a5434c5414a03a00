import QueryTree.Proofs.Searches
import QueryTree.Proofs.Splitting

/-!
# Where a group starts and where it ends

The group scanner is made of three searches: it runs on over separators, looks for the next `+`, and
runs back from there over separators.  Stated by offsets, a group starts at the first character that
is no separator and ends behind the last character other than a space before the next `+`.

The run back has no bound of its own.  What ends it is the first character of the group, which the
run on has shown to be no separator: no walk that reads back over separators gets past it.  For the
same reason a group is never blank, so every group of a query has a literal.

## Main definitions

* `Scan.WalksBack`: the offsets that a walk back comes to.
* `Scan.IsNextGroup`: where the next group from a position on lies.
* `Scan.IsTrimmed`: what a group and the text around it look like.

## Main results

* `Scan.isNextGroup_of_groupAt`: the scanner finds the next group.
* `Scan.IsNextGroup.isTrimmed`: the next group is trimmed.
* `Scan.group_finds_next`: **the contract of the group scanner.**
-/

namespace QueryTree

variable {ν : Type}

namespace Scan

open Query

/-! ### Walking back -/

/-- `WalksBack p t i j` says that a walk back over the class `p` from offset `i` comes to `j`. -/
inductive WalksBack (p : Char → Bool) (t : Text) : Int → Int → Prop
  /-- The offset where the walk starts. -/
  | here {i : Int} : WalksBack p t i i
  /-- From a character of the class the walk goes on to the offset before. -/
  | back {i j : Int} {c : Char} : charAt t i = .ok c → p c = true → WalksBack p t (i - 1) j →
      WalksBack p t i j

section

variable {p : Char → Bool} {t : Text} {i j : Int} {c : Char}

/-- A walk back comes to where it ends. -/
theorem walksBack_of_passBack (h : passBack p t i = .ok j) : WalksBack p t i j := by
  fun_induction passBack p t i with
  | case1 i e he => cases h
  | case2 i c hc hp ih => exact .back hc hp (ih h)
  | case3 i c hc hp =>
    obtain rfl := Except.ok.inj h
    exact .here

/-- A walk back does not get past a character outside the class. -/
theorem WalksBack.le {k : Int} (h : WalksBack p t i j) (hk : t.at? k = some c) (hc : p c = false)
    (hle : k ≤ i) : k ≤ j := by
  induction h with
  | here => exact hle
  | @back i j d hd hp _ ih =>
    -- the walk is behind `k`, since it would have ended at `k`
    have hne : k ≠ i := by
      rintro rfl
      rw [charAt_eq_ok_iff, hk] at hd
      rw [Option.some.inj hd, hp] at hc
      cases hc
    exact ih (by omega)

end

/-! ### The place of a group -/

theorem isGroupSeparator_eq_false {c : Char} :
    isGroupSeparator c = false ↔ c ≠ ' ' ∧ c ≠ '+' := by
  simp [isGroupSeparator]

theorem isGroupSeparator_eq_true {c : Char} :
    isGroupSeparator c = true ↔ c = ' ' ∨ c = '+' := by
  simp [isGroupSeparator]

/-- `IsNextGroup q start b` says that the next group of `q` from `start` on lies at `b`. -/
structure IsNextGroup (q : Text) (start : Int) (b : Bounds) : Prop where
  /-- It starts with the first character that is neither a space nor a `+`. -/
  isLeast_start :
    IsLeast {i : Int | start ≤ i ∧ ∃ c, q.at? i = some c ∧ c ≠ ' ' ∧ c ≠ '+'} b.start
  /-- It runs to the end of the query if no `+` follows its start. -/
  stop_eq_length : (∀ i, b.start < i → q.at? i ≠ some '+') → b.stop = q.length
  /-- Otherwise its last character is the last one other than a space before the first `+` that
  follows. -/
  isGreatest_last : ∀ plus, IsLeast {i : Int | b.start < i ∧ q.at? i = some '+'} plus →
    IsGreatest {i : Int | 0 ≤ i ∧ i < plus ∧ ∃ c, q.at? i = some c ∧ c ≠ ' '} (b.stop - 1)

/-- What a group at `b` and the text around it look like, for a scan from `start` on. -/
structure IsTrimmed (q : Text) (start : Int) (b : Bounds) : Prop where
  one_le_length : 1 ≤ b.length
  plus_notMem : '+' ∉ b.slice q
  /-- Only separators are passed over. -/
  before : ∀ c ∈ q.slice start b.start, c = ' ' ∨ c = '+'
  /-- Behind the group the query ends, or spaces and a `+` follow. -/
  behind : q.slice b.stop q.length = [] ∨
    ∃ w s, q.slice b.stop q.length = w ++ '+' :: s ∧ ∀ c ∈ w, c = ' '

/-- The walk back from the `+` behind a group ends at the last character of the group, and nowhere
on the way does it come to an offset before the group. -/
def StaysInGroup (q : Text) (b : Bounds) : Prop :=
  ∀ plus : Nat, q.findFrom? '+' (b.start + 1) = some plus →
    passBack isGroupSeparator q plus = .ok (b.stop - 1) ∧
      WalksBack isGroupSeparator q plus (b.stop - 1) ∧
      ∀ j, WalksBack isGroupSeparator q plus j → b.start ≤ j

variable {q : Text} {start : Int} {b : Bounds}

/-- The run back from the `+` behind a group stops at the last character other than a space: what
stands between the first character of the group and that `+` is no `+`. -/
theorem isGreatest_last_of_skipBack {first : Int} {plus : Nat} {c : Char} (hfirst : 0 ≤ first)
    (hc : q.at? first = some c) (hsep : isGroupSeparator c = false)
    (hplus : q.findFrom? '+' (first + 1) = some plus) :
    IsGreatest {i : Int | 0 ≤ i ∧ i < plus ∧ ∃ c, q.at? i = some c ∧ c ≠ ' '}
      (skipBack isGroupSeparator q plus) := by
  obtain ⟨⟨hbehind, hat⟩, hleast⟩ := Text.isLeast_findFrom? (by omega) hplus
  have hlen := Text.lt_length_of_findFrom? hplus
  have hlower := le_skipBack hlen hc hsep (by omega)
  obtain ⟨⟨hle, d, hd, hstop⟩, hupper⟩ := isGreatest_skipBack hlen hc hsep (by omega)
  rw [isGroupSeparator_eq_false] at hstop
  constructor
  · have hne : skipBack isGroupSeparator q plus ≠ plus := by
      intro heq
      rw [heq, hat] at hd
      exact hstop.2 (Option.some.inj hd).symm
    exact ⟨by omega, by omega, d, hd, hstop.1⟩
  · rintro j ⟨-, hj, e, he, hspace⟩
    by_contra hlt
    have hnoPlus : e ≠ '+' := by
      rintro rfl
      have hle := hleast ⟨by omega, he⟩
      omega
    exact hlt (hupper ⟨by omega, e, he, isGroupSeparator_eq_false.mpr ⟨hspace, hnoPlus⟩⟩)

/-- **The group scanner finds the next group.** -/
theorem isNextGroup_of_groupAt (h0 : 0 ≤ start) (h : groupAt q start = some b) :
    IsNextGroup q start b := by
  rw [groupAt] at h
  split at h
  · cases h
  · next hend =>
    have hfirst := isLeast_skip (p := isGroupSeparator) (by omega) (Int.not_le.mp hend)
    obtain ⟨hle, c, hc, hsep⟩ := hfirst.1
    simp only [isGroupSeparator_eq_false] at hfirst
    split at h
    · next hnone =>
      obtain rfl := Option.some.inj h
      refine ⟨hfirst, ?_, ?_⟩
      · intro _
        simp only [Bounds.stop_mk]
        omega
      · rintro plus ⟨⟨hlt, hplus⟩, -⟩
        exact absurd hplus (Text.at?_ne_of_findFrom?_eq_none (by omega) hnone hlt)
    · next plus hplus =>
      obtain rfl := Option.some.inj h
      have hleast := Text.isLeast_findFrom? (by omega) hplus
      refine ⟨hfirst, ?_, ?_⟩
      · intro hno
        exact absurd hleast.1.2 (hno plus hleast.1.1)
      · intro k hk
        obtain rfl : k = plus := hk.unique hleast
        have hstop : ∀ i last : Int, i + (last + 1 - i) - 1 = last := by omega
        rw [Bounds.stop_mk, hstop]
        exact isGreatest_last_of_skipBack (by omega) hc hsep hplus

namespace IsNextGroup

variable (h : IsNextGroup q start b) (h0 : 0 ≤ start)

include h h0

/-- A group has a first character, which is no separator. -/
theorem exists_first : 0 ≤ b.start ∧ ∃ c, q.at? b.start = some c ∧ isGroupSeparator c = false := by
  obtain ⟨hle, c, hc, hne⟩ := h.isLeast_start.1
  exact ⟨Int.le_trans h0 hle, c, hc, isGroupSeparator_eq_false.mpr hne⟩

/-- Where a group ends: there is no `+` in it, and behind it the query ends or only spaces stand
before the next `+`. -/
theorem ends : b.start < b.stop ∧ (∀ j, b.start ≤ j → j < b.stop → q.at? j ≠ some '+') ∧
    (b.stop = q.length ∨ ∃ plus, b.stop ≤ plus ∧ q.at? plus = some '+' ∧
      ∀ j c, b.stop ≤ j → j < plus → q.at? j = some c → c = ' ') := by
  obtain ⟨hnonneg, c, hc, hsep⟩ := h.exists_first h0
  rw [isGroupSeparator_eq_false] at hsep
  have hhead : q.at? b.start ≠ some '+' := by
    rw [hc]
    simpa using hsep.2
  cases hfind : q.findFrom? '+' (b.start + 1) with
  | none =>
    have hnone : ∀ j, b.start < j → q.at? j ≠ some '+' := fun j hj =>
      Text.at?_ne_of_findFrom?_eq_none (by omega) hfind hj
    have hstop := h.stop_eq_length hnone
    have hlen := Text.lt_length_of_at?_eq_some hc
    refine ⟨by omega, ?_, Or.inl hstop⟩
    intro j hj _
    rcases Int.lt_or_eq_of_le hj with hlt | rfl
    · exact hnone j hlt
    · exact hhead
  | some plus =>
    have hleast := Text.isLeast_findFrom? (by omega) hfind
    obtain ⟨⟨-, hlt, -⟩, hupper⟩ := h.isGreatest_last plus hleast
    have hfirst := hupper ⟨hnonneg, hleast.1.1, c, hc, hsep.1⟩
    refine ⟨by omega, ?_, Or.inr ⟨plus, by omega, hleast.1.2, ?_⟩⟩
    · intro j hj hjstop hplus
      rcases Int.lt_or_eq_of_le hj with hj | rfl
      · have hle := hleast.2 ⟨hj, hplus⟩
        omega
      · exact hhead hplus
    · intro j d hj hjplus hd
      by_contra hspace
      have hle := hupper ⟨by omega, hjplus, d, hd, hspace⟩
      omega

/-- **The next group is trimmed.** -/
theorem isTrimmed : IsTrimmed q start b := by
  obtain ⟨hnonneg, -⟩ := h.exists_first h0
  obtain ⟨hlt, hnoPlus, hbehind⟩ := h.ends h0
  refine ⟨?_, ?_, ?_, ?_⟩
  · unfold Bounds.stop at hlt
    omega
  · intro hmem
    obtain ⟨j, hj, hjstop, hplus⟩ := (Text.mem_slice_iff hnonneg (by omega)).mp hmem
    exact hnoPlus j hj hjstop hplus
  · intro c hmem
    obtain ⟨j, hj, hjstart, hc⟩ := (Text.mem_slice_iff h0 hnonneg).mp hmem
    by_contra hsep
    have hle := h.isLeast_start.2 ⟨hj, c, hc, not_or.mp hsep⟩
    omega
  · rcases hbehind with hstop | ⟨plus, hle, hplus, hspaces⟩
    · left
      rw [hstop, Text.slice_length, List.drop_length]
    · right
      refine ⟨_, _, Text.slice_length_of_at? (by omega) hle hplus, ?_⟩
      intro c hmem
      obtain ⟨j, hj, hjplus, hc⟩ := (Text.mem_slice_iff (by omega) (by omega)).mp hmem
      exact hspaces j c hj hjplus hc

/-- **The walk back stays in the group**, since it ends there and the first character stops it. -/
theorem staysInGroup : StaysInGroup q b := by
  intro plus hplus
  obtain ⟨hnonneg, c, hc, hsep⟩ := h.exists_first h0
  have hleast := Text.isLeast_findFrom? (by omega) hplus
  have hlast := (isGreatest_last_of_skipBack hnonneg hc hsep hplus).unique
    (h.isGreatest_last plus hleast)
  have hpass := (passBack_of_findFrom? hc hsep hplus).1
  rw [hlast] at hpass
  refine ⟨hpass, walksBack_of_passBack hpass, ?_⟩
  intro j hj
  exact hj.le hc hsep (Int.le_of_lt hleast.1.1)

/-- A group is not blank, so it has a tree. -/
theorem parseGroup_slice_ne_none (n : ν) : parseGroup n (b.slice q) ≠ none := by
  obtain ⟨hnonneg, c, hc, hsep⟩ := h.exists_first h0
  have hlt := (h.ends h0).1
  have hmem : c ∈ b.slice q :=
    (Text.mem_slice_iff hnonneg (by omega)).mpr ⟨b.start, Int.le_refl _, hlt, hc⟩
  rw [Ne, parseGroup_eq_none_iff]
  intro hblank
  exact (isGroupSeparator_eq_false.mp hsep).1 (hblank c hmem)

theorem literals_slice_ne_nil (n : ν) : literals n (b.slice q) ≠ [] := by
  intro hnil
  apply h.parseGroup_slice_ne_none h0 n
  rw [parseGroup, hnil]
  rfl

end IsNextGroup

/-! ### The scanner and its runs -/

theorem groupAt_eq_none_iff {start : Nat} :
    groupAt q start = none ↔ ∀ c ∈ q.drop start, c = ' ' ∨ c = '+' := by
  have hend := length_le_skip_iff (p := isGroupSeparator) (t := q) (n := start)
  simp only [isGroupSeparator_eq_true] at hend
  rw [← hend, groupAt]
  constructor
  · intro h
    by_contra hlt
    rw [if_neg hlt] at h
    split at h <;> cases h
  · exact fun h => if_pos h

/-- What holds of every find from a position on holds of all finds of a run. -/
theorem Exhausts.forall_mem {β : Type} {scan : Int → Except OffsetError (Option β)}
    {stop : β → Int} {P : β → Prop} {start : Int} {xs : List β} (h : Exhausts scan stop start xs)
    (h0 : 0 ≤ start)
    (hfind : ∀ i x, 0 ≤ i → scan i = .ok (some x) → 0 ≤ stop x ∧ P x) : ∀ x ∈ xs, P x := by
  induction h with
  | done _ => simp
  | @found start x xs hx _ ih =>
    obtain ⟨hstop, hP⟩ := hfind start x h0 hx
    rw [List.forall_mem_cons]
    exact ⟨hP, ih hstop⟩

end Scan

namespace Query

open Scan

/-- Every group of a query has a tree. -/
theorem parseGroup_ne_none_of_mem_groups (n : ν) {q : Text} {x : Bounds × Text}
    (hx : x ∈ groups q) : parseGroup n x.2 ≠ none := by
  have hfind : ∀ i b, 0 ≤ i → group q i = .ok (some b) →
      0 ≤ b.stop ∧ parseGroup n (b.slice q) ≠ none := by
    intro i b hi hb
    have hfound := ((findsWithin_group q).of_eq_ok hb).2
    have hnext := isNextGroup_of_groupAt hi hfound
    exact ⟨((findsWithin_group q).endsWithin hb).stop_nonneg, hnext.parseGroup_slice_ne_none hi n⟩
  have hall := (exhausts_groups q).forall_mem (Int.le_refl 0) hfind
  obtain ⟨b, -, rfl⟩ := List.mem_map.mp hx
  exact hall b (List.mem_map_of_mem hx)

end Query

namespace Scan

open Query

/-- **The contract of the group scanner.**  From a position on it finds nothing exactly if only
separators are left.  Otherwise it finds the next group, which is trimmed; the walk back stays in
the group, and the group has a literal.  So every group that the parser comes to has a tree, and
the parser comes to the end of every query, in no more steps than the query has characters. -/
theorem group_finds_next (n : ν) (q : Text) (start : Nat) :
    (group q start = .ok none ↔ ∀ c ∈ q.drop start, c = ' ' ∨ c = '+') ∧
      (group q start = .ok none ∨
        ∃ b, group q start = .ok (some b) ∧ IsNextGroup q start b ∧ IsTrimmed q start b ∧
          StaysInGroup q b ∧ literals n (b.slice q) ≠ []) ∧
      (∀ g ∈ groups q, parseGroup n g.2 ≠ none) ∧
      Exhausts (group q) Bounds.stop 0 ((groups q).map Prod.fst) ∧
      (groups q).length ≤ q.length := by
  have hread : group q start = .ok (groupAt q start) := group_eq (by omega)
  refine ⟨?_, ?_, ?_, exhausts_groups q, length_groups_le q⟩
  · rw [hread, Except.ok.injEq, groupAt_eq_none_iff]
  · rw [hread]
    cases hfound : groupAt q start with
    | none => exact Or.inl rfl
    | some b =>
      have h0 : (0 : Int) ≤ start := by omega
      have hnext := isNextGroup_of_groupAt h0 hfound
      exact Or.inr ⟨b, rfl, hnext, hnext.isTrimmed h0, hnext.staysInGroup h0,
        hnext.literals_slice_ne_nil h0 n⟩
  · intro g hg
    exact parseGroup_ne_none_of_mem_groups n hg

-- the separators in front are passed over and the spaces before the `+` are left out
example : group ['a', ' ', '+', ' ', 'b', ' ', 'c', ' ', '+'] 1 = .ok (some ⟨4, 3⟩) := by cbv

end Scan
end QueryTree
