import QueryTree.Query.Terms

/-!
# Lower-casing and ASCII

Lower-casing looks at the text around a character, may write two characters for one, and maps
letters of all scripts.  Index terms hold ASCII characters only, and for them two facts matter.  An
ASCII text is lower-cased letter by letter.  And the ASCII characters of a lower-cased text come
from ASCII characters, with two exceptions: the capital I with dot above becomes an i and a separate
dot, and the Kelvin sign becomes a k.

The second fact is read off the table: behind the run of the ASCII letters, every run maps code
points outside ASCII to such code points, but for the runs of these two.

## Main definitions

* `Text.asciiForm`: the ASCII letter that one of the two exceptions is lower-cased like.

## Main results

* `Text.lower_eq_nil_iff`: lower-casing leaves something of every text but the empty one.
* `Text.lower_of_ascii`, `Text.lower_filter`: an ASCII text is lower-cased letter by letter.
* `Text.filter_lower` — **the wildcard characters of a lower-cased text.**
-/

namespace QueryTree.Text

/-! ### ASCII characters -/

/-- A property of the ASCII characters, checked one by one. -/
theorem ascii_forall {P : Char → Prop} (h : ∀ n < 128, P (Char.ofNat n)) {c : Char}
    (hc : c.toNat < 128) : P c := by
  have hn := h c.toNat hc
  rwa [Char.ofNat_toNat] at hn

theorem toNat_lt_of_isAsciiLetter {c : Char} (h : isAsciiLetter c = true) : c.toNat < 128 := by
  simp only [isAsciiLetter, Bool.or_eq_true, Bool.and_eq_true, decide_eq_true_eq, Char.le_def,
    UInt32.le_iff_toNat_le] at h
  rcases h with ⟨-, hz⟩ | ⟨-, hz⟩
  · exact Nat.lt_of_le_of_lt hz (by decide)
  · exact Nat.lt_of_le_of_lt hz (by decide)

theorem toNat_lt_of_isAsciiDigit {c : Char} (h : isAsciiDigit c = true) : c.toNat < 128 := by
  simp only [isAsciiDigit, Bool.and_eq_true, decide_eq_true_eq, Char.le_def,
    UInt32.le_iff_toNat_le] at h
  exact Nat.lt_of_le_of_lt h.2 (by decide)

theorem toNat_lt_of_isAsciiWord {c : Char} (h : isAsciiWord c = true) : c.toNat < 128 := by
  simp only [isAsciiWord, Bool.or_eq_true, decide_eq_true_eq] at h
  rcases h with (h | h) | rfl
  · exact toNat_lt_of_isAsciiLetter h
  · exact toNat_lt_of_isAsciiDigit h
  · decide

theorem toNat_lt_of_isWildcardChar {c : Char} (h : isWildcardChar c = true) : c.toNat < 128 := by
  simp only [isWildcardChar, Bool.or_eq_true, decide_eq_true_eq] at h
  rcases h with (h | h) | rfl
  · exact toNat_lt_of_isAsciiLetter h
  · exact toNat_lt_of_isAsciiDigit h
  · decide

/-- Lower-casing moves letters among letters. -/
theorem isWildcardChar_lowerAscii {c : Char} (hc : c.toNat < 128) :
    isWildcardChar (lowerAscii c) = isWildcardChar c :=
  ascii_forall (P := fun c => isWildcardChar (lowerAscii c) = isWildcardChar c) (by decide) hc

/-! ### The table -/

theorem lowerRuns_eq_cons : lowerRuns = ⟨65, 90, 1, 97⟩ :: lowerRuns.tail := rfl

/-- Behind the run of the ASCII letters no run starts in ASCII, and two lead into it: those of the
capital I with dot above and of the Kelvin sign. -/
theorem forall_lowerRuns_tail :
    ∀ r ∈ lowerRuns.tail, 128 ≤ r.first ∧
      (128 ≤ r.target ∨ r.first = 304 ∧ r.last = 304 ∨ r.first = 8490 ∧ r.last = 8490) := by
  decide +kernel

/-! ### Lower-casing an ASCII text -/

theorem lowerChar_ne_nil (before after : Text) (c : Char) : lowerChar before after c ≠ [] := by
  unfold lowerChar
  split
  · simp
  · split <;> simp

/-- Lower-casing leaves something of every text but the empty one. -/
theorem lower_eq_nil_iff {t : Text} : lower t = [] ↔ t = [] := by
  cases t with
  | nil => simp [lower, lowerFrom]
  | cons c t => simp [lower, lowerFrom, lowerChar_ne_nil]

/-- An ASCII letter is looked up in the first run, and no later run starts in ASCII. -/
theorem lowerCode_of_lt {n : Nat} (hn : n < 128) :
    lowerCode n = if 65 ≤ n ∧ n ≤ 90 then n + 32 else n := by
  have htail : lowerRuns.tail.findSome? (·.map? n) = none := by
    rw [List.findSome?_eq_none_iff]
    intro r hr
    have := (forall_lowerRuns_tail r hr).1
    exact if_neg (by omega)
  have hhead : CaseRun.map? ⟨65, 90, 1, 97⟩ n
      = if 65 ≤ n ∧ n ≤ 90 then some (n + 32) else none := by
    simp only [CaseRun.map?, Nat.mod_one, and_true]
    split
    · exact congrArg some (by omega)
    · rfl
  rw [lowerCode, lowerRuns_eq_cons, List.findSome?_cons, htail, hhead]
  by_cases h : 65 ≤ n ∧ n ≤ 90
  · rw [if_pos h, if_pos h]
    rfl
  · rw [if_neg h, if_neg h]
    rfl

theorem ofNat_lowerCode {c : Char} (hc : c.toNat < 128) :
    Char.ofNat (lowerCode c.toNat) = lowerAscii c := by
  have hletter : 'A' ≤ c ∧ c ≤ 'Z' ↔ 65 ≤ c.toNat ∧ c.toNat ≤ 90 := by
    rw [Char.le_def, Char.le_def, UInt32.le_iff_toNat_le, UInt32.le_iff_toNat_le]
    rfl
  rw [lowerCode_of_lt hc, lowerAscii]
  simp only [hletter]
  split
  · rfl
  · exact Char.ofNat_toNat c

theorem lowerChar_of_ascii {c : Char} (hc : c.toNat < 128) (before after : Text) :
    lowerChar before after c = [lowerAscii c] := by
  have hsigma : c ≠ '\u03a3' := by rintro rfl; simp at hc
  have hdotted : c ≠ '\u0130' := by rintro rfl; simp at hc
  rw [lowerChar, if_neg hsigma, if_neg hdotted, ofNat_lowerCode hc]

theorem lowerFrom_of_ascii {t : Text} (ht : ∀ c ∈ t, c.toNat < 128) (before : Text) :
    lowerFrom before t = t.map lowerAscii := by
  induction t generalizing before with
  | nil => rfl
  | cons c t ih =>
    rw [List.forall_mem_cons] at ht
    rw [lowerFrom, lowerChar_of_ascii ht.1, ih ht.2, List.map_cons, List.singleton_append]

/-- An ASCII text is lower-cased letter by letter. -/
theorem lower_of_ascii {t : Text} (ht : ∀ c ∈ t, c.toNat < 128) : lower t = t.map lowerAscii :=
  lowerFrom_of_ascii ht []

/-- What is kept of a text is lower-cased letter by letter, if only ASCII characters are kept. -/
theorem lower_filter {keeps : Char → Bool} (hkeeps : ∀ c, keeps c = true → c.toNat < 128)
    (t : Text) : lower (t.filter keeps) = (t.filter keeps).map lowerAscii := by
  apply lower_of_ascii
  intro c hc
  exact hkeeps c (List.mem_filter.mp hc).2

/-! ### What becomes an ASCII character -/

/-- The code points with a lower-case form in ASCII. -/
theorem of_lowerCode_lt {n : Nat} (h : lowerCode n < 128) : n < 128 ∨ n = 304 ∨ n = 8490 := by
  rw [lowerCode] at h
  cases hfound : lowerRuns.findSome? (·.map? n) with
  | none =>
    rw [hfound] at h
    exact Or.inl h
  | some m =>
    rw [hfound, Option.getD_some] at h
    obtain ⟨r, hr, hmap⟩ := List.exists_of_findSome?_eq_some hfound
    rw [CaseRun.map?] at hmap
    split at hmap
    · next hrun =>
      have hm := Option.some.inj hmap
      rw [lowerRuns_eq_cons, List.mem_cons] at hr
      rcases hr with rfl | hr
      · simp only at hrun
        exact Or.inl (by omega)
      · have := (forall_lowerRuns_tail r hr).2
        omega
    · cases hmap

/-- A character given by a code point outside ASCII is no wildcard character, also when there is no
such character. -/
theorem isWildcardChar_ofNat {n : Nat} (hn : 128 ≤ n) : isWildcardChar (Char.ofNat n) = false := by
  by_cases hvalid : n.isValidChar
  · rw [Bool.eq_false_iff, Char.ofNat, dif_pos hvalid]
    intro hchar
    have hlt : n < 128 := toNat_lt_of_isWildcardChar hchar
    omega
  · rw [Char.ofNat, dif_neg hvalid]
    decide

/-- The capital I with dot above as an I and the Kelvin sign as a K; all else stays as it is. -/
def asciiForm (c : Char) : Char :=
  if c = '\u0130' then 'I' else if c = '\u212a' then 'K' else c

theorem asciiForm_eq_self_iff {c : Char} : asciiForm c = c ↔ c ≠ '\u0130' ∧ c ≠ '\u212a' := by
  constructor
  · intro h
    constructor
    · rintro rfl
      exact absurd h (by decide)
    · rintro rfl
      exact absurd h (by decide)
  · rintro ⟨hdotted, hkelvin⟩
    rw [asciiForm, if_neg hdotted, if_neg hkelvin]

theorem forall_asciiForm_eq_self_iff {t : Text} :
    (∀ c ∈ t, asciiForm c = c) ↔ '\u0130' ∉ t ∧ '\u212a' ∉ t := by
  simp only [asciiForm_eq_self_iff]
  constructor
  · intro h
    exact ⟨fun hmem => (h _ hmem).1 rfl, fun hmem => (h _ hmem).2 rfl⟩
  · rintro ⟨hdotted, hkelvin⟩ c hc
    exact ⟨fun heq => hdotted (heq ▸ hc), fun heq => hkelvin (heq ▸ hc)⟩

/-- The two exceptions are no wildcard characters, and their ASCII forms are. -/
theorem isWildcardChar_asciiForm {c : Char} (h : asciiForm c ≠ c) :
    isWildcardChar c = false ∧ isWildcardChar (asciiForm c) = true := by
  unfold asciiForm at h ⊢
  split at h
  · next hc =>
    rw [hc]
    decide
  · split at h
    · next hc =>
      rw [hc]
      decide
    · exact absurd rfl h

/-- Each of the two exceptions is one more wildcard character. -/
theorem countP_map_asciiForm (t : Text) :
    (t.map asciiForm).countP isWildcardChar
      = t.countP isWildcardChar + t.countP fun c => asciiForm c ≠ c := by
  induction t with
  | nil => rfl
  | cons c t ih =>
    rw [List.map_cons, List.countP_cons, List.countP_cons, List.countP_cons, ih]
    by_cases h : asciiForm c = c
    · simp only [h, ne_eq, not_true_eq_false, decide_false, Bool.false_eq_true, if_false]
      omega
    · obtain ⟨hnot, hform⟩ := isWildcardChar_asciiForm h
      simp only [h, hnot, hform, ne_eq, not_false_eq_true, decide_true, Bool.false_eq_true,
        if_true, if_false]
      omega

/-- The wildcard characters that a character becomes. -/
theorem filter_lowerChar (before after : Text) (c : Char) :
    (lowerChar before after c).filter isWildcardChar
      = ([asciiForm c].filter isWildcardChar).map lowerAscii := by
  by_cases hdotted : c = '\u0130'
  · subst hdotted
    rfl
  by_cases hkelvin : c = '\u212a'
  · subst hkelvin
    rfl
  rw [asciiForm_eq_self_iff.mpr ⟨hdotted, hkelvin⟩]
  by_cases hc : c.toNat < 128
  · rw [lowerChar_of_ascii hc, List.filter_cons, List.filter_cons, isWildcardChar_lowerAscii hc]
    cases isWildcardChar c <;> rfl
  have hnot : isWildcardChar c = false := by
    rw [Bool.eq_false_iff]
    exact fun h => hc (toNat_lt_of_isWildcardChar h)
  rw [List.filter_cons_of_neg (by simp [hnot]), lowerChar, if_neg hdotted]
  split
  · split <;> rfl
  · -- only the two exceptions become ASCII characters
    have hcode : 128 ≤ lowerCode c.toNat := by
      refine Nat.le_of_not_lt fun hlt => ?_
      rcases of_lowerCode_lt hlt with h | h | h
      · exact hc h
      · exact hdotted (by rw [← Char.ofNat_toNat c, h])
      · exact hkelvin (by rw [← Char.ofNat_toNat c, h])
    rw [List.filter_cons_of_neg (by simp [isWildcardChar_ofNat hcode])]
    rfl

theorem filter_lowerFrom (before t : Text) :
    (lowerFrom before t).filter isWildcardChar
      = ((t.map asciiForm).filter isWildcardChar).map lowerAscii := by
  induction t generalizing before with
  | nil => rfl
  | cons c t ih =>
    rw [lowerFrom, List.filter_append, filter_lowerChar, ih, ← List.map_append,
      ← List.filter_append, List.map_cons, List.singleton_append]

/-- **The wildcard characters of a lower-cased text** are those of the text with the ASCII forms of
the two exceptions, lower-cased letter by letter. -/
theorem filter_lower (t : Text) :
    (lower t).filter isWildcardChar
      = ((t.map asciiForm).filter isWildcardChar).map lowerAscii :=
  filter_lowerFrom [] t

end QueryTree.Text
