import Mathlib.Data.List.Basic
import QueryTree.Proofs.Text
import QueryTree.Query.Parser

/-!
# Scanning from every offset

The scanners read with signed offsets and check nothing.  From a negative offset on the text is
run through by the negative names of its characters and then once more from its start; a search
starts at the position the offset means; and the walk back from a `+` can pass the start of the
text and go on from its end.  Here all of that is shown to stay inside the text: a read is refused
only at an offset that lies before the text, and every other scan gives an answer.

Both walks are walks along a list, `Text.fromOffset` or `Text.upToOffset`, whose entries are the
characters at the offsets in question.  The walk on ends with the text at the latest.  The walk
back has no such bound; what ends it is the first character of the group, which stands before the
`+`.  For a group that starts at a negative offset that character has a second name, counted from
the start, and it is the second one the walk comes to.  Only the last character of the text can
stand behind the `+` by that name; then the walk back goes past the start of the text and meets
it at `-1`.

## Main definitions

* `Scan.EndsWithin`: where a find ends.
* `Scan.Exhausts`: what a scanner finds until it finds nothing more.
* `Scan.WorksAnywhere`: the contract of a scanner from every offset.
* `Scan.FindsWithin`: what makes a scanner keep that contract.

## Main results

* `Scan.group_eq`, `Scan.literal_eq`: reading character by character gives what `groupAt` and
  `literalAt` say.
* `Scan.FindsWithin.exists_exhausts`: a scanner whose finds end within a text comes to an end.
* `Scan.scanners_work_anywhere`: **both scanners work from every offset.**
* `Scan.Exhausts.scans_eq`: with steps to spare, a limit on the finds is not felt.
* `Query.exhausts_groups`, `Query.exhausts_literals`: the parser finds all there is to find.
* `Query.length_groups_le`, `Query.length_literals_le`: in no more steps than there are characters.
-/

namespace QueryTree

namespace Text

/-! ### The characters at offsets -/

theorem at?_eq_none_iff {t : Text} {i : Int} :
    t.at? i = none ↔ i < -(t.length : Int) ∨ t.length ≤ i := by
  unfold at?
  split
  · rw [List.getElem?_eq_none_iff]
    omega
  · split
    · rw [List.getElem?_eq_none_iff]
      omega
    · simp only [true_iff]
      omega

theorem exists_at?_eq_some {t : Text} {i : Int} (hlo : -(t.length : Int) ≤ i)
    (hhi : i < t.length) : ∃ c, t.at? i = some c := by
  apply Option.ne_none_iff_exists'.mp
  rw [Ne, at?_eq_none_iff]
  omega

theorem lt_length_of_at?_eq_some {t : Text} {i : Int} {c : Char} (h : t.at? i = some c) :
    i < t.length := by
  by_contra hle
  rw [at?_eq_none_iff.mpr (Or.inr (Int.not_lt.mp hle))] at h
  cases h

/-- Offsets name the characters of the text written twice. -/
theorem at?_eq_getElem?_append {t : Text} {i : Int} (hlo : -(t.length : Int) ≤ i) :
    t.at? i = (t ++ t)[(i + t.length).toNat]? := by
  unfold at?
  split
  · rw [List.getElem?_append_right (by omega)]
    congr 1
    omega
  · rw [List.getElem?_append_left (by omega)]

/-- What is read from an offset on are the characters at the offsets that follow. -/
theorem getElem?_fromOffset {t : Text} {i : Int} (hlo : -(t.length : Int) ≤ i) (k : Nat) :
    (t.fromOffset i)[k]? = t.at? (i + k) := by
  rw [fromOffset, List.getElem?_drop, at?_eq_getElem?_append (by omega)]
  congr 1
  omega

/-- What is read from a position back are the characters at the offsets before it. -/
theorem getElem?_upToOffset {t : Text} {n : Nat} (hn : n < t.length) (k : Nat) :
    (t.upToOffset n)[k]? = t.at? (n - k) := by
  have htake : t ++ t.take (n + 1) = (t ++ t).take (t.length + (n + 1)) := by
    rw [List.take_length_add_append]
  have hlen : (t ++ t.take (n + 1)).length = t.length + (n + 1) := by
    rw [List.length_append, List.length_take]
    omega
  by_cases hk : k < t.length + (n + 1)
  · rw [upToOffset, List.getElem?_reverse (by omega), hlen, htake,
      List.getElem?_take_of_lt (by omega), at?_eq_getElem?_append (by omega)]
    congr 1
    omega
  · rw [at?_eq_none_iff.mpr (by omega), List.getElem?_eq_none_iff, upToOffset,
      List.length_reverse, hlen]
    omega

/-- What a search finds cuts the text behind the position where the search starts. -/
theorem exists_drop_of_findFrom? {t : Text} {c : Char} {i : Int} {k : Nat}
    (h : t.findFrom? c i = some k) :
    ∃ u v, t.drop (t.clip i) = u ++ c :: v ∧ k = t.clip i + u.length := by
  obtain ⟨j, hj, rfl⟩ := Option.map_eq_some_iff.mp h
  obtain ⟨u, v, hcut, rfl, -⟩ := exists_append_of_indexOf? hj
  exact ⟨u, v, hcut, Nat.add_comm _ _⟩

theorem clip_le_of_findFrom? {t : Text} {c : Char} {i : Int} {k : Nat}
    (h : t.findFrom? c i = some k) : t.clip i ≤ k := by
  obtain ⟨u, v, -, rfl⟩ := exists_drop_of_findFrom? h
  exact Nat.le_add_right _ _

theorem at?_of_findFrom? {t : Text} {c : Char} {i : Int} {k : Nat}
    (h : t.findFrom? c i = some k) : t.at? k = some c := by
  obtain ⟨u, v, hcut, rfl⟩ := exists_drop_of_findFrom? h
  rw [at?_natCast, ← List.getElem?_drop, hcut]
  simp

theorem lt_length_of_findFrom? {t : Text} {c : Char} {i : Int} {k : Nat}
    (h : t.findFrom? c i = some k) : k < t.length := by
  exact_mod_cast lt_length_of_at?_eq_some (at?_of_findFrom? h)

/-- What a search finds stands at its offset or behind it. -/
theorem le_of_findFrom? {t : Text} {c : Char} {i : Int} {k : Nat}
    (h : t.findFrom? c i = some k) (hi : i ≤ t.length) : i ≤ k := by
  have hclip := clip_le_of_findFrom? h
  unfold clip at hclip
  split at hclip <;> omega

/-! ### Where a run stops -/

theorem length_takeWhile_le {p : Char → Bool} {t : Text} {k : Nat} {c : Char}
    (h : t[k]? = some c) (hc : p c = false) : (t.takeWhile p).length ≤ k := by
  obtain ⟨w, s, rfl, hw, hs⟩ := exists_run p t
  rw [takeWhile_append hw hs]
  by_contra hlt
  rw [List.getElem?_append_left (Nat.not_le.mp hlt)] at h
  simp [hw c (List.mem_of_getElem? h)] at hc

theorem of_getElem?_length_takeWhile {p : Char → Bool} {t : Text} {c : Char}
    (h : t[(t.takeWhile p).length]? = some c) : p c = false := by
  obtain ⟨w, s, rfl, hw, hs⟩ := exists_run p t
  rw [takeWhile_append hw hs, List.getElem?_append_right (Nat.le_refl _), Nat.sub_self,
    ← List.head?_eq_getElem?] at h
  exact hs c h

end Text

namespace Scan

variable {p : Char → Bool} {t : Text} {i : Int} {c : Char}

/-! ### One step of a walk -/

theorem exists_charAt_eq_error (h : i < -(t.length : Int)) : ∃ e, charAt t i = .error e := by
  simp only [charAt, Text.at?_eq_none_iff.mpr (Or.inl h)]
  split <;> exact ⟨_, rfl⟩

theorem pass_of_at? (hc : t.at? i = some c) :
    pass p t i = if p c then pass p t (i + 1) else .ok i := by
  rw [pass, if_pos (Text.lt_length_of_at?_eq_some hc), charAt_eq_ok_iff.mpr hc]
  rfl

theorem pass_of_length_le (h : t.length ≤ i) : pass p t i = .ok i := by
  rw [pass, if_neg (Int.not_lt.mpr h)]
  rfl

theorem exists_pass_eq_error (h : i < -(t.length : Int)) : ∃ e, pass p t i = .error e := by
  obtain ⟨e, he⟩ := exists_charAt_eq_error h
  refine ⟨e, ?_⟩
  rw [pass, if_pos (by omega), he]
  rfl

theorem passBack_of_at? (hc : t.at? i = some c) :
    passBack p t i = if p c then passBack p t (i - 1) else .ok i := by
  rw [passBack]
  split
  · next e he => rw [charAt_eq_ok_iff.mpr hc] at he; cases he
  · next d hd => rw [charAt_eq_ok_iff.mpr hc] at hd; cases hd; rfl

/-! ### The walks -/

/-- A walk on goes along the characters that follow. -/
theorem pass_eq_of_getElem? {s : Text} (hlo : -(t.length : Int) ≤ i)
    (hs : ∀ k : Nat, s[k]? = t.at? (i + k)) :
    pass p t i = .ok (i + (s.takeWhile p).length) := by
  induction s generalizing i with
  | nil =>
    have hend : t.at? (i + (0 : Nat)) = none := (hs 0).symm
    rw [Text.at?_eq_none_iff] at hend
    rw [pass_of_length_le (by omega)]
    simp
  | cons c s ih =>
    have hc : t.at? i = some c := by simpa using (hs 0).symm
    rw [pass_of_at? hc, List.takeWhile_cons]
    cases p c with
    | false => simp
    | true =>
      have hnext : ∀ k : Nat, s[k]? = t.at? (i + 1 + k) := by
        intro k
        have hk := hs (k + 1)
        rwa [List.getElem?_cons_succ, show i + (k + 1 : Nat) = i + 1 + k by omega] at hk
      rw [if_pos rfl, ih (by omega) hnext, if_pos rfl, List.length_cons]
      congr 1
      omega

theorem pass_eq (hlo : -(t.length : Int) ≤ i) : pass p t i = .ok (skip p t i) :=
  pass_eq_of_getElem? hlo (Text.getElem?_fromOffset hlo)

/-- A walk back goes along the characters before, as long as one of them stops it. -/
theorem passBack_eq_of_getElem? {s : Text} (hs : ∀ k : Nat, s[k]? = t.at? (i - k))
    (hstop : ∃ c ∈ s, p c = false) : passBack p t i = .ok (i - (s.takeWhile p).length) := by
  induction s generalizing i with
  | nil => simp at hstop
  | cons c s ih =>
    have hc : t.at? i = some c := by simpa using (hs 0).symm
    rw [passBack_of_at? hc, List.takeWhile_cons]
    cases hpc : p c with
    | false => simp
    | true =>
      have hnext : ∀ k : Nat, s[k]? = t.at? (i - 1 - k) := by
        intro k
        have hk := hs (k + 1)
        rwa [List.getElem?_cons_succ, show i - (k + 1 : Nat) = i - 1 - k by omega] at hk
      rw [if_pos rfl, ih hnext (by simpa [hpc] using hstop), if_pos rfl, List.length_cons]
      congr 1
      omega

/-- The character that a walk back comes to, from the names of its place. -/
theorem getElem?_upToOffset_toNat {n : Nat} {j : Int} (hn : n < t.length) (hj : t.at? j = some c)
    (hle : j ≤ n) : (t.upToOffset n)[(n - j).toNat]? = some c := by
  rw [Text.getElem?_upToOffset hn, show (n : Int) - (n - j).toNat = j by omega, hj]

theorem passBack_eq {n : Nat} {j : Int} (hn : n < t.length) (hj : t.at? j = some c)
    (hc : p c = false) (hle : j ≤ n) : passBack p t n = .ok (skipBack p t n) :=
  passBack_eq_of_getElem? (Text.getElem?_upToOffset hn)
    ⟨c, List.mem_of_getElem? (getElem?_upToOffset_toNat hn hj hle), hc⟩

theorem le_skip (p : Char → Bool) (t : Text) (i : Int) : i ≤ skip p t i := by
  unfold skip
  omega

/-- A walk on that does not run to the end of the text comes to a character outside the class. -/
theorem exists_at?_skip (hlo : -(t.length : Int) ≤ i) (hlt : skip p t i < t.length) :
    ∃ c, t.at? (skip p t i) = some c ∧ p c = false := by
  obtain ⟨c, hc⟩ := Text.exists_at?_eq_some (Int.le_trans hlo (le_skip p t i)) hlt
  refine ⟨c, hc, Text.of_getElem?_length_takeWhile (t := t.fromOffset i) ?_⟩
  rw [Text.getElem?_fromOffset hlo]
  exact hc

theorem skipBack_le (p : Char → Bool) (t : Text) (n : Nat) : skipBack p t n ≤ n := by
  unfold skipBack
  omega

/-- A walk back does not pass a character outside the class. -/
theorem le_skipBack {n : Nat} {j : Int} (hn : n < t.length) (hj : t.at? j = some c)
    (hc : p c = false) (hle : j ≤ n) : j ≤ skipBack p t n := by
  have hrun := Text.length_takeWhile_le (getElem?_upToOffset_toNat hn hj hle) hc
  unfold skipBack
  omega

/-! ### Where a find ends -/

/-- Where a find from an offset on lies: not before the offset, and it ends behind the offset and
inside the text. -/
structure EndsWithin (t : Text) (start : Int) (b : Bounds) : Prop where
  start_le : start ≤ b.start
  start_le_stop : b.start ≤ b.stop
  lt_stop : start < b.stop
  stop_nonneg : 0 ≤ b.stop
  stop_le : b.stop ≤ t.length

theorem EndsWithin.of_le {start first : Int} {b : Bounds} (h : EndsWithin t first b)
    (hle : start ≤ first) : EndsWithin t start b where
  start_le := Int.le_trans hle h.start_le
  start_le_stop := h.start_le_stop
  lt_stop := Int.lt_of_le_of_lt hle h.lt_stop
  stop_nonneg := h.stop_nonneg
  stop_le := h.stop_le

/-- The first character of a group stops the walk back from the `+` behind the group: it stands
before that `+` by one of its names, and at `-1` at the furthest. -/
theorem exists_at?_before {first : Int} {plus : Nat} (hc : t.at? first = some c)
    (hplus : t.findFrom? '+' (first + 1) = some plus) :
    ∃ j, t.at? j = some c ∧ first ≤ j ∧ -1 ≤ j ∧ j ≤ plus := by
  by_cases hfirst : -1 ≤ first
  · have hlen := Text.lt_length_of_at?_eq_some hc
    have hle := Text.le_of_findFrom? hplus (by omega)
    exact ⟨first, hc, Int.le_refl _, hfirst, by omega⟩
  · -- the search starts behind the other name of the character
    have hlo := Text.neg_length_le_of_at?_eq_some hc
    have hclip := Text.clip_le_of_findFrom? hplus
    rw [Text.clip, if_neg (by omega)] at hclip
    have hname : t.at? (first + t.length) = some c := by
      rw [Text.at?, if_neg (by omega), if_pos hlo] at hc
      rw [Text.at?, if_pos (by omega), hc]
    exact ⟨first + t.length, hname, by omega, by omega, by omega⟩

/-- The walk back from the `+` behind a group ends in the group. -/
theorem passBack_of_findFrom? {first : Int} {plus : Nat} (hc : t.at? first = some c)
    (hsep : isGroupSeparator c = false) (hplus : t.findFrom? '+' (first + 1) = some plus) :
    passBack isGroupSeparator t plus = .ok (skipBack isGroupSeparator t plus) ∧
      first ≤ skipBack isGroupSeparator t plus ∧ -1 ≤ skipBack isGroupSeparator t plus ∧
      skipBack isGroupSeparator t plus < t.length := by
  obtain ⟨j, hj, hfirst, hlo, hle⟩ := exists_at?_before hc hplus
  have hlen := Text.lt_length_of_findFrom? hplus
  have hlower := le_skipBack hlen hj hsep hle
  have hupper := skipBack_le isGroupSeparator t plus
  exact ⟨passBack_eq hlen hj hsep hle, by omega, by omega, by omega⟩

/-! ### Groups -/

/-- **Reading a group character by character** from an offset that is not before the query. -/
theorem group_eq {start : Int} (hlo : -(t.length : Int) ≤ start) :
    group t start = .ok (groupAt t start) := by
  rw [group, pass_eq hlo, groupAt]
  by_cases hend : t.length ≤ skip isGroupSeparator t start
  · simp only [bind, Except.bind, if_pos hend]
    rfl
  · obtain ⟨c, hc, hsep⟩ := exists_at?_skip hlo (Int.not_le.mp hend)
    simp only [bind, Except.bind, if_neg hend]
    split
    · rfl
    · next plus hplus =>
      rw [(passBack_of_findFrom? hc hsep hplus).1]
      rfl

theorem exists_group_eq_error {start : Int} (hlow : start < -(t.length : Int)) :
    ∃ e, group t start = .error e := by
  obtain ⟨e, he⟩ := exists_pass_eq_error hlow
  exact ⟨e, by rw [group, he]; rfl⟩

theorem endsWithin_groupAt {start : Int} {b : Bounds} (hlo : -(t.length : Int) ≤ start)
    (h : groupAt t start = some b) : EndsWithin t start b := by
  rw [groupAt] at h
  split at h
  · cases h
  · next hend =>
    obtain ⟨c, hc, hsep⟩ := exists_at?_skip hlo (Int.not_le.mp hend)
    refine EndsWithin.of_le ?_ (le_skip isGroupSeparator t start)
    split at h
    · obtain rfl := Option.some.inj h
      constructor <;> simp only [Bounds.stop] <;> omega
    · next plus hplus =>
      obtain ⟨-, hfirst, hback, hlen⟩ := passBack_of_findFrom? hc hsep hplus
      obtain rfl := Option.some.inj h
      constructor <;> simp only [Bounds.stop] <;> omega

/-! ### Literals -/

theorem readExtent_eq {first : Int} (hc : t.at? first = some c) :
    readExtent t first = .ok (extent t first) := by
  unfold readExtent extent
  simp only [charAt_eq_ok_iff.mpr hc, hc, Option.some.injEq, ne_eq, bind, Except.bind, pure,
    Except.pure]
  repeat' split
  all_goals rfl

theorem readNegation_eq {b : Bounds} (h : 0 < b.length → ∃ c, t.at? b.start = some c) :
    readNegation t b = .ok (negation t b) := by
  unfold readNegation negation
  by_cases hpos : 0 < b.length
  · obtain ⟨c, hc⟩ := h hpos
    simp only [charAt_eq_ok_iff.mpr hc, hc, hpos, true_and, Option.some.injEq, if_true, bind,
      Except.bind, pure, Except.pure]
    split <;> rfl
  · simp only [hpos, false_and, if_false]
    rfl

theorem lt_of_findFrom? {first : Int} {d : Char} {k : Nat} (hc : t.at? first = some c)
    (hk : t.findFrom? d first = some k) (hne : c ≠ d) : first < k := by
  have hlen := Text.lt_length_of_at?_eq_some hc
  have hle := Text.le_of_findFrom? hk (by omega)
  have hneq : first ≠ k := by
    rintro rfl
    rw [Text.at?_of_findFrom? hk] at hc
    exact hne (Option.some.inj hc).symm
  omega

/-- A part that ends at a position of the text. -/
theorem EndsWithin.of_stop {first start : Int} {e : Nat} (hfirst : first ≤ start)
    (hstart : start ≤ e) (hle : e ≤ t.length) (hlt : first < e) :
    EndsWithin t first ⟨start, e - start⟩ := by
  constructor <;> simp only [Bounds.stop] <;> omega

/-- What a literal covers ends at a space, at a quote, behind a quote or with the group. -/
theorem endsWithin_extent {first : Int} (hc : t.at? first = some c) (hspace : c ≠ ' ') :
    EndsWithin t first (extent t first).2 := by
  obtain ⟨hle, hlt⟩ : (t.findFrom? ' ' first).getD t.length ≤ t.length ∧
      first < ((t.findFrom? ' ' first).getD t.length : Nat) := by
    cases hk : t.findFrom? ' ' first with
    | none => exact ⟨Nat.le_refl _, Text.lt_length_of_at?_eq_some hc⟩
    | some k =>
      exact ⟨Nat.le_of_lt (Text.lt_length_of_findFrom? hk), lt_of_findFrom? hc hk hspace⟩
  unfold extent
  dsimp only
  split
  · exact .of_stop (Int.le_refl _) (Int.le_of_lt hlt) hle hlt
  · next quote hquote =>
    have hlen := Text.lt_length_of_findFrom? hquote
    split
    · exact .of_stop (Int.le_refl _) (Int.le_of_lt hlt) hle hlt
    · split
      · next hne =>
        rw [hc, Ne, Option.some.injEq] at hne
        have hbefore := lt_of_findFrom? hc hquote hne
        exact .of_stop (Int.le_refl _) (Int.le_of_lt hbefore) (Nat.le_of_lt hlen) hbefore
      · split
        · next closing hclosing =>
          have hlast := Text.lt_length_of_findFrom? hclosing
          have hbehind := Text.le_of_findFrom? hclosing (by omega)
          have hbefore := Text.le_of_findFrom? hquote
            (Int.le_of_lt (Text.lt_length_of_at?_eq_some hc))
          exact .of_stop (e := closing + 1) (Int.le_refl _) (by omega) hlast (by omega)
        · exact .of_stop (by omega) hlt hle hlt

/-- A dash moves the start of a literal and not its end. -/
theorem EndsWithin.negation {first : Int} {b : Bounds} (h : EndsWithin t first b) :
    EndsWithin t first (negation t b).2 := by
  unfold Scan.negation
  split
  · next hdash =>
    obtain ⟨hstart, -, hlt, hnonneg, hle⟩ := h
    unfold Bounds.stop at hlt hnonneg hle
    constructor <;> simp only [Bounds.stop] <;> omega
  · exact h

/-- **Reading a literal character by character** from an offset that is not before the group. -/
theorem literal_eq {ν : Type} (n : ν) {start : Int} (hlo : -(t.length : Int) ≤ start) :
    literal n t start = .ok (literalAt n t start) := by
  rw [literal, pass_eq hlo, literalAt]
  by_cases hend : t.length ≤ skip (· = ' ') t start
  · simp only [bind, Except.bind, if_pos hend]
    rfl
  · obtain ⟨c, hc, hspace⟩ := exists_at?_skip hlo (Int.not_le.mp hend)
    have hwithin := endsWithin_extent hc (by simpa using hspace)
    simp only [bind, Except.bind, if_neg hend, readExtent_eq hc]
    split
    · rfl
    · next b hb =>
      replace hwithin : EndsWithin t (skip (· = ' ') t start) b := by rwa [hb] at hwithin
      -- a dash is looked for only where the literal has a character
      have hdash : 0 < b.length → ∃ c, t.at? b.start = some c := by
        intro hpos
        obtain ⟨hstart, -, -, -, hle⟩ := hwithin
        have hskip := le_skip (· = ' ') t start
        unfold Bounds.stop at hle
        exact Text.exists_at?_eq_some (by omega) (by omega)
      rw [readNegation_eq hdash]
      rfl

theorem exists_literal_eq_error {ν : Type} (n : ν) {start : Int}
    (hlow : start < -(t.length : Int)) : ∃ e, literal n t start = .error e := by
  obtain ⟨e, he⟩ := exists_pass_eq_error hlow
  exact ⟨e, by rw [literal, he]; rfl⟩

theorem endsWithin_literalAt {ν : Type} {n : ν} {start : Int} {b : Bounds} {l : Literal ν}
    (hlo : -(t.length : Int) ≤ start) (h : literalAt n t start = some (b, l)) :
    EndsWithin t start b := by
  rw [literalAt] at h
  split at h
  · cases h
  · next hend =>
    obtain ⟨c, hc, hspace⟩ := exists_at?_skip hlo (Int.not_le.mp hend)
    have hwithin := endsWithin_extent hc (by simpa using hspace)
    refine EndsWithin.of_le ?_ (le_skip (· = ' ') t start)
    split at h
    · next b' hb =>
      obtain ⟨rfl, -⟩ := Prod.mk.inj (Option.some.inj h)
      rwa [hb] at hwithin
    · next b' hb =>
      obtain ⟨rfl, -⟩ := Prod.mk.inj (Option.some.inj h)
      rw [hb] at hwithin
      exact hwithin.negation

/-! ### Scanning again and again -/

section Exhaustion

variable {β : Type}

/-- `Exhausts scan stop start found` says that a scanner, applied from `start` on and again and
again from where the last find stopped, finds `found` and then nothing more. -/
inductive Exhausts (scan : Int → Except OffsetError (Option β)) (stop : β → Int) :
    Int → List β → Prop
  /-- Nothing is found. -/
  | done {start : Int} : scan start = .ok none → Exhausts scan stop start []
  /-- Something is found, and the scanner goes on behind it. -/
  | found {start : Int} {x : β} {xs : List β} : scan start = .ok (some x) →
      Exhausts scan stop (stop x) xs → Exhausts scan stop start (x :: xs)

/-- The contract of a scanner of `t`.  An offset is refused exactly if it lies before the text,
every find ends inside the text, and there are no more finds than offsets to end at. -/
structure WorksAnywhere (t : Text) (scan : Int → Except OffsetError (Option β))
    (stop : β → Int) : Prop where
  refused_iff (start : Int) : (∃ e, scan start = .error e) ↔ start < -(t.length : Int)
  stop_mem (start : Int) (x : β) :
    scan start = .ok (some x) → 0 ≤ stop x ∧ stop x ≤ t.length
  exhausts (start : Int) : -(t.length : Int) ≤ start →
    ∃ found, Exhausts scan stop start found ∧ found.length ≤ t.length + 1

variable {scan : Int → Except OffsetError (Option β)} {stop : β → Int}

/-- With steps to spare, a limit on the finds is not felt. -/
theorem Exhausts.scans_eq {start : Int} {xs : List β} (h : Exhausts scan stop start xs)
    {limit : Nat} (hlimit : xs.length < limit) : scans scan stop limit start = .ok xs := by
  induction h generalizing limit with
  | done hscan =>
    obtain ⟨limit, rfl⟩ : ∃ k, limit = k + 1 := ⟨limit - 1, by omega⟩
    rw [scans, hscan]
    rfl
  | @found start x xs hscan _ ih =>
    rw [List.length_cons] at hlimit
    obtain ⟨limit, rfl⟩ : ∃ k, limit = k + 1 := ⟨limit - 1, by omega⟩
    rw [scans, hscan]
    simp only [bind, Except.bind, ih (Nat.lt_of_succ_lt_succ hlimit)]
    rfl

/-- The same for a scanner that is never refused. -/
theorem Exhausts.runs_eq {start : Int} {xs : List β} (h : Exhausts scan stop start xs)
    {find : Int → Option β} (hfind : ∀ i r, scan i = .ok r → find i = r) {limit : Nat}
    (hlimit : xs.length < limit) : runs find stop limit start = xs := by
  induction h generalizing limit with
  | done hscan =>
    obtain ⟨limit, rfl⟩ : ∃ k, limit = k + 1 := ⟨limit - 1, by omega⟩
    rw [runs, hfind _ _ hscan]
  | @found start x xs hscan _ ih =>
    rw [List.length_cons] at hlimit
    obtain ⟨limit, rfl⟩ : ∃ k, limit = k + 1 := ⟨limit - 1, by omega⟩
    rw [runs, hfind _ _ hscan]
    simp only [ih (Nat.lt_of_succ_lt_succ hlimit)]

/-- A scanner of `t` that reads character by character: it is refused before the text, otherwise it
gives the answer of `find`, and what it finds ends within the text. -/
structure FindsWithin (t : Text) (scan : Int → Except OffsetError (Option β))
    (find : Int → Option β) (bounds : β → Bounds) : Prop where
  refused : ∀ i, i < -(t.length : Int) → ∃ e, scan i = .error e
  answered : ∀ i, -(t.length : Int) ≤ i → scan i = .ok (find i)
  within : ∀ i x, -(t.length : Int) ≤ i → find i = some x → EndsWithin t i (bounds x)

namespace FindsWithin

variable {find : Int → Option β} {bounds : β → Bounds} (h : FindsWithin t scan find bounds)

include h

/-- An answer shows that the scanner was not refused. -/
theorem of_eq_ok {r : Option β} (hr : scan i = .ok r) : -(t.length : Int) ≤ i ∧ find i = r := by
  by_cases hlo : -(t.length : Int) ≤ i
  · rw [h.answered i hlo] at hr
    exact ⟨hlo, Except.ok.inj hr⟩
  · obtain ⟨e, he⟩ := h.refused i (Int.not_le.mp hlo)
    rw [he] at hr
    cases hr

theorem endsWithin {x : β} (hx : scan i = .ok (some x)) : EndsWithin t i (bounds x) := by
  obtain ⟨hlo, hfind⟩ := h.of_eq_ok hx
  exact h.within i x hlo hfind

/-- The runs of a scanner from a position on come to an end: each find moves the position, and
none moves it out of the text. -/
theorem exists_exhausts_of_nonneg {start : Int} (h0 : 0 ≤ start) :
    ∃ found, Exhausts scan (fun x => (bounds x).stop) start found ∧
      found.length ≤ (t.length - start).toNat := by
  induction hk : (t.length - start).toNat using Nat.strongRecOn generalizing start with
  | _ k ih =>
    subst hk
    have hscan := h.answered start (by omega)
    cases hx : find start with
    | none =>
      rw [hx] at hscan
      exact ⟨[], .done hscan, Nat.zero_le _⟩
    | some x =>
      rw [hx] at hscan
      obtain ⟨-, -, hmoved, hnonneg, hle⟩ := h.endsWithin hscan
      obtain ⟨found, hfound, hlen⟩ := ih _ (by omega) hnonneg rfl
      refine ⟨x :: found, .found hscan hfound, ?_⟩
      rw [List.length_cons]
      omega

/-- From any offset, one find leads to a position of the text. -/
theorem exists_exhausts {start : Int} (hlo : -(t.length : Int) ≤ start) :
    ∃ found, Exhausts scan (fun x => (bounds x).stop) start found ∧
      found.length ≤ t.length + 1 := by
  have hscan := h.answered start hlo
  cases hx : find start with
  | none =>
    rw [hx] at hscan
    exact ⟨[], .done hscan, Nat.zero_le _⟩
  | some x =>
    rw [hx] at hscan
    have hnonneg := (h.endsWithin hscan).stop_nonneg
    obtain ⟨found, hfound, hlen⟩ := h.exists_exhausts_of_nonneg hnonneg
    refine ⟨x :: found, .found hscan hfound, ?_⟩
    rw [List.length_cons]
    omega

theorem worksAnywhere : WorksAnywhere t scan fun x => (bounds x).stop where
  refused_iff start := by
    refine ⟨?_, h.refused start⟩
    rintro ⟨e, he⟩
    by_contra hlo
    rw [h.answered start (Int.not_lt.mp hlo)] at he
    cases he
  stop_mem start x hx := ⟨(h.endsWithin hx).stop_nonneg, (h.endsWithin hx).stop_le⟩
  exhausts start hlo := h.exists_exhausts hlo

/-- As many steps as there are characters, and one more, are enough from the start of the text. -/
theorem exhausts_runs : Exhausts scan (fun x => (bounds x).stop) 0
    (runs find (fun x => (bounds x).stop) (t.length + 1) 0) := by
  obtain ⟨found, hfound, hlen⟩ := h.exists_exhausts_of_nonneg (Int.le_refl 0)
  rwa [hfound.runs_eq (fun _ _ hr => (h.of_eq_ok hr).2) (by omega)]

/-- There are no more finds from the start of the text than it has characters. -/
theorem length_runs_le :
    (runs find (fun x => (bounds x).stop) (t.length + 1) 0).length ≤ t.length := by
  obtain ⟨found, hfound, hlen⟩ := h.exists_exhausts_of_nonneg (Int.le_refl 0)
  rw [hfound.runs_eq (fun _ _ hr => (h.of_eq_ok hr).2) (by omega)]
  omega

end FindsWithin

end Exhaustion

theorem findsWithin_group (t : Text) : FindsWithin t (group t) (groupAt t) fun b => b where
  refused _ hlow := exists_group_eq_error hlow
  answered _ hlo := group_eq hlo
  within _ _ hlo hb := endsWithin_groupAt hlo hb

theorem findsWithin_literal {ν : Type} (n : ν) (t : Text) :
    FindsWithin t (literal n t) (literalAt n t) Prod.fst where
  refused _ hlow := exists_literal_eq_error n hlow
  answered _ hlo := literal_eq n hlo
  within _ _ hlo hb := endsWithin_literalAt hlo hb

/-- **Both scanners work from every offset.** -/
theorem scanners_work_anywhere {ν : Type} (n : ν) (t : Text) :
    WorksAnywhere t (group t) Bounds.stop ∧
      WorksAnywhere t (literal n t) fun found => found.1.stop := by
  constructor
  · exact (findsWithin_group t).worksAnywhere
  · exact (findsWithin_literal n t).worksAnywhere

-- the walk back from the `+` passes the start of the text and ends at its last character
example : groupsFrom 500 ['+', 'b'] (-1) = .ok [⟨-1, 1⟩, ⟨1, 1⟩] := by cbv

end Scan

namespace Query

open Scan

/-- The groups of a query are all the group scanner finds. -/
theorem exhausts_groups (q : Text) :
    Exhausts (group q) Bounds.stop 0 ((groups q).map Prod.fst) := by
  have hgroups : (groups q).map Prod.fst = runs (groupAt q) Bounds.stop (q.length + 1) 0 := by
    rw [groups, List.map_map]
    exact List.map_id _
  rw [hgroups]
  exact (findsWithin_group q).exhausts_runs

/-- The literals of a group are all the literal scanner finds. -/
theorem exhausts_literals {ν : Type} (n : ν) (g : Text) :
    Exhausts (literal n g) (·.1.stop) 0 (literals n g) :=
  (findsWithin_literal n g).exhausts_runs

theorem length_groups_le (q : Text) : (groups q).length ≤ q.length := by
  rw [groups, List.length_map]
  exact (findsWithin_group q).length_runs_le

theorem length_literals_le {ν : Type} (n : ν) (g : Text) : (literals n g).length ≤ g.length :=
  (findsWithin_literal n g).length_runs_le

end Query
end QueryTree
