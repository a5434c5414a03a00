import QueryTree.Proofs.NormalForm
import QueryTree.Proofs.Stripping
import QueryTree.Proofs.Words

/-!
# The index terms of wildcards and phrases

Wildcards and phrases are cut into words, at the `*` and at white space, and of each word some
characters are kept in lower case.  A word without such characters gives nothing.  The standard
normalizer keeps the word characters of ASCII, and the fragments of a wildcard keep the letters and
digits among them.  So a wildcard asks for terms as they are in the index exactly when it has no
underscore.

The pattern of a wildcard is stripped before it is lower-cased.  The other order keeps what two
characters outside ASCII become, and gives another pattern exactly for texts with one of them.

## Main definitions

* `Text.termsOf keeps ws`: the terms of the words `ws`, of which the characters in `keeps` count.

## Main results

* `Text.flatten_termsOf`: terms hold all characters that count, in order.
* `Literal.fragments_eq_flatMap_iff` — **when the fragments of a wildcard are index terms.**
* `Literal.pattern_eq_filter_lower_iff` — **when lower-casing first gives the same pattern.**
* `Query.phrases_and_terms` — **the phrases of a query, and the terms of a phrase.**
-/

namespace QueryTree

variable {ν : Type}

/-! ### The terms of words -/

namespace Text

/-- The terms of the words `ws`: of each word the characters in `keeps` in lower case, and nothing
for a word that has none. -/
def termsOf (keeps : Char → Bool) (ws : List Text) : List Text :=
  (ws.filter (·.any keeps)).map fun w => lower (w.filter keeps)

theorem filter_eq_nil_iff_any {keeps : Char → Bool} {w : Text} :
    w.filter keeps = [] ↔ w.any keeps = false := by
  rw [List.filter_eq_nil_iff, List.any_eq_false]

/-- The terms are what is left of each word, if anything is. -/
theorem termsOf_eq_filter (keeps : Char → Bool) (ws : List Text) :
    termsOf keeps ws
      = (ws.map fun w => lower (w.filter keeps)).filter fun s => !s.isEmpty := by
  rw [List.filter_map, termsOf]
  congr 1
  apply List.filter_congr
  intro w _
  rw [Function.comp_apply, Bool.eq_iff_iff, Bool.not_eq_true', List.isEmpty_eq_false_iff, ne_eq,
    lower_eq_nil_iff, filter_eq_nil_iff_any, Bool.not_eq_false]

/-- A word is put in front with one term, or none. -/
theorem termsOf_cons (keeps : Char → Bool) (w : Text) (ws : List Text) :
    termsOf keeps (w :: ws)
      = (if w.filter keeps = [] then [] else [lower (w.filter keeps)]) ++ termsOf keeps ws := by
  by_cases hnil : w.filter keeps = []
  · rw [if_pos hnil, termsOf, List.filter_cons, filter_eq_nil_iff_any.mp hnil]
    rfl
  · have hw : w.any keeps = true := by
      rw [filter_eq_nil_iff_any] at hnil
      simpa using hnil
    rw [if_neg hnil, termsOf, List.filter_cons, hw]
    rfl

theorem termsOf_congr {keeps keeps' : Char → Bool} {ws : List Text}
    (h : ∀ w ∈ ws, ∀ c ∈ w, keeps c = keeps' c) : termsOf keeps ws = termsOf keeps' ws := by
  induction ws with
  | nil => rfl
  | cons w ws ih =>
    rw [List.forall_mem_cons] at h
    rw [termsOf_cons, termsOf_cons, ih h.2, List.filter_congr h.1]

/-- No term is empty. -/
theorem ne_nil_of_mem_termsOf {keeps : Char → Bool} {ws : List Text} {s : Text}
    (hs : s ∈ termsOf keeps ws) : s ≠ [] := by
  obtain ⟨w, hw, rfl⟩ := List.mem_map.mp hs
  rw [ne_eq, lower_eq_nil_iff, filter_eq_nil_iff_any, (List.mem_filter.mp hw).2]
  simp

/-- There is no term when there is nothing in the terms. -/
theorem flatten_termsOf_eq_nil_iff {keeps : Char → Bool} {ws : List Text} :
    (termsOf keeps ws).flatten = [] ↔ termsOf keeps ws = [] := by
  constructor
  · intro h
    rw [List.flatten_eq_nil_iff] at h
    rw [List.eq_nil_iff_forall_not_mem]
    intro s hs
    exact ne_nil_of_mem_termsOf hs (h s hs)
  · intro h
    rw [h, List.flatten_nil]

/-- Terms hold all characters that count, in order. -/
theorem flatten_termsOf {keeps : Char → Bool} (hkeeps : ∀ c, keeps c = true → c.toNat < 128)
    (ws : List Text) : (termsOf keeps ws).flatten = (ws.flatten.filter keeps).map lowerAscii := by
  induction ws with
  | nil => rfl
  | cons w ws ih =>
    rw [termsOf_cons, List.flatten_append, ih, List.flatten_cons, List.filter_append,
      List.map_append, ← lower_filter hkeeps w]
    split
    · next hnil => rw [hnil]; rfl
    · rw [List.flatten_singleton]

/-- No word character is white space. -/
theorem isBlank_of_isAsciiWord {c : Char} (h : isAsciiWord c = true) : isBlank c = false :=
  ascii_forall (P := fun c => isAsciiWord c = true → isBlank c = false) (by decide)
    (toNat_lt_of_isAsciiWord h) h

/-- The terms of the words of a text hold its word characters. -/
theorem flatten_termsOf_words (t : Text) :
    (termsOf isAsciiWord t.words).flatten = lower (t.filter isAsciiWord) := by
  have hfilter : (t.filter fun c => !isBlank c).filter isAsciiWord = t.filter isAsciiWord := by
    rw [List.filter_filter]
    apply List.filter_congr
    intro c _
    cases hc : isAsciiWord c with
    | true => simp [isBlank_of_isAsciiWord hc]
    | false => rfl
  rw [flatten_termsOf fun _ => toNat_lt_of_isAsciiWord, flatten_words, hfilter,
    lower_filter fun _ => toNat_lt_of_isAsciiWord]

end Text

/-! ### The standard normalizer -/

namespace Normalizer

theorem normalize_standard (token : Text) :
    standard.normalize token = Text.lower (token.filter Text.isAsciiWord) := by
  rw [← Pattern.strip_nonWord]
  rfl

/-- The standard normalizer keeps the word characters of ASCII. -/
theorem processToken_standard (token : Text) :
    standard.processToken token = Text.termsOf Text.isAsciiWord [token] := by
  rw [processToken_eq, normalize_standard, Text.termsOf_cons]
  simp only [Text.lower_eq_nil_iff]
  exact (List.append_nil _).symm

theorem flatMap_processToken_standard (ws : List Text) :
    ws.flatMap standard.processToken = Text.termsOf Text.isAsciiWord ws := by
  induction ws with
  | nil => rfl
  | cons w ws ih =>
    rw [List.flatMap_cons, ih, processToken_standard, Text.termsOf_cons, Text.termsOf_cons,
      List.append_assoc]
    rfl

end Normalizer

/-! ### Wildcards -/

theorem Text.lowerAscii_eq_star_iff {c : Char} : lowerAscii c = '*' ↔ c = '*' := by
  constructor
  · intro h
    have hlt : c.toNat < 128 := by
      rw [lowerAscii] at h
      split at h
      · next hletter => exact Nat.lt_of_le_of_lt (Char.le_def.mp hletter.2) (by decide)
      · rw [h]
        decide
    exact ascii_forall (P := fun c => lowerAscii c = '*' → c = '*') (by decide) hlt h
  · rintro rfl
    decide

namespace Literal

theorem pattern_eq_map (l : Literal ν) :
    l.pattern = (l.text.filter Text.isWildcardChar).map Text.lowerAscii :=
  Text.lower_filter (fun _ => Text.toNat_lt_of_isWildcardChar) l.text

/-- The fragments of a wildcard are the terms of its parts between the `*`, of which letters and
digits count. -/
theorem fragments_eq (l : Literal ν) :
    l.fragments = Text.termsOf Text.isWildcardChar (Text.pieces (· = '*') l.text) := by
  have hpieces : Text.pieces (· = '*') l.pattern
      = (Text.pieces (· = '*') l.text).map
          fun w => Text.lower (w.filter Text.isWildcardChar) := by
    simp only [Text.lower_filter fun _ => Text.toNat_lt_of_isWildcardChar]
    rw [pattern_eq_map, Text.pieces_map (p := (· = '*')), Text.pieces_filter, List.map_map]
    · rfl
    · intro c hc
      simp [Text.isWildcardChar, of_decide_eq_true hc]
    · intro c
      simp only [Text.lowerAscii_eq_star_iff]
  rw [fragments, hpieces, Text.termsOf_eq_filter]

/-- Among the letters, digits and the `*` there is no underscore. -/
theorem underscore_notMem_flatten_fragments (l : Literal ν) : '_' ∉ l.fragments.flatten := by
  rw [fragments_eq, Text.flatten_termsOf fun _ => Text.toNat_lt_of_isWildcardChar, List.mem_map]
  rintro ⟨c, hc, heq⟩
  have hkept := (List.mem_filter.mp hc).2
  rw [← Text.isWildcardChar_lowerAscii (Text.toNat_lt_of_isWildcardChar hkept), heq] at hkept
  exact absurd hkept (by decide)

/-- **When the fragments of a wildcard are index terms.**  The fragments are what the standard
normalizer makes of the parts between the `*`, exactly for a text without an underscore. -/
theorem fragments_eq_flatMap_iff (l : Literal ν) :
    l.fragments = (Text.pieces (· = '*') l.text).flatMap Normalizer.standard.processToken ↔
      '_' ∉ l.text := by
  rw [Normalizer.flatMap_processToken_standard]
  constructor
  · intro heq hmem
    apply l.underscore_notMem_flatten_fragments
    rw [heq, Text.flatten_termsOf fun _ => Text.toNat_lt_of_isAsciiWord, Text.flatten_pieces]
    exact List.mem_map.mpr ⟨'_', by simp [hmem, Text.isAsciiWord], by decide⟩
  · intro hnone
    rw [fragments_eq]
    apply Text.termsOf_congr
    intro w hw c hc
    have hstar : c ≠ '*' := by
      rintro rfl
      exact Text.notMem_of_mem_pieces hw hc
    have hunderscore : c ≠ '_' := by
      rintro rfl
      have hflat := List.mem_flatten.mpr ⟨w, hw, hc⟩
      rw [Text.flatten_pieces] at hflat
      exact hnone (List.mem_of_mem_filter hflat)
    simp [Text.isWildcardChar, Text.isAsciiWord, hstar, hunderscore]

/-- Lower-casing a text first and stripping it then gives the pattern of the text with an I for each
capital I with dot above and a K for each Kelvin sign. -/
theorem filter_lower_text (l : Literal ν) :
    (Text.lower l.text).filter Text.isWildcardChar
      = { l with text := l.text.map Text.asciiForm : Literal ν }.pattern := by
  rw [Text.filter_lower, pattern_eq_map]

theorem length_pattern (l : Literal ν) : l.pattern.length = l.text.countP Text.isWildcardChar := by
  rw [pattern_eq_map, List.length_map, List.countP_eq_length_filter]

/-- **When lower-casing first gives the same pattern.**  A pattern is stripped before it is
lower-cased.  The other order gives the same pattern exactly for a text without the capital I with
dot above and without the Kelvin sign. -/
theorem pattern_eq_filter_lower_iff (l : Literal ν) :
    l.pattern = (Text.lower l.text).filter Text.isWildcardChar ↔
      '\u0130' ∉ l.text ∧ '\u212a' ∉ l.text := by
  rw [filter_lower_text, ← Text.forall_asciiForm_eq_self_iff]
  constructor
  · intro heq
    have hlength := congrArg List.length heq
    rw [length_pattern, length_pattern, Text.countP_map_asciiForm] at hlength
    have hnone := List.countP_eq_zero.mp (Nat.left_eq_add.mp hlength)
    intro c hc
    simpa using hnone c hc
  · intro hself
    rw [List.map_congr_left hself, List.map_id']

/-- The pattern of a Kelvin sign and a `*` is the `*` alone, where lower-casing first gives `k*`. -/
theorem pattern_ne_filter_lower :
    let l : Literal Unit := ⟨.wildcard, ['\u212a', '*'], false, ()⟩
    l.pattern = ['*'] ∧ (Text.lower l.text).filter Text.isWildcardChar = ['k', '*'] ∧
      l.pattern ≠ (Text.lower l.text).filter Text.isWildcardChar := by
  decide

/-! ### Phrases -/

/-- Between two quotes stands the text of a phrase. -/
theorem phraseText_of_text_eq {l : Literal ν} {w : Text} (h : l.text = '"' :: (w ++ ['"'])) :
    l.phraseText = w := by
  rw [phraseText, h]
  simp [Text.dropOpeningQuote, Text.dropClosingQuote]

/-- The terms of a phrase are those of its words. -/
theorem terms_of_phrase {l : Literal Normalizer} (hkind : l.kind = .phrase)
    (hstandard : l.normalizer = .standard) :
    l.terms = Text.termsOf Text.isAsciiWord l.phraseText.words := by
  rw [terms, hkind, hstandard]
  exact Normalizer.flatMap_processToken_standard _

end Literal

namespace Query

/-- A phrase of a query stands between its only quotes. -/
theorem text_of_phrase {n : ν} {q : Text} {l : Literal ν} (hl : l ∈ Node.leavesOption (parse n q))
    (hkind : l.kind = .phrase) :
    l.text = '"' :: (l.phraseText ++ ['"']) ∧ '"' ∉ l.phraseText := by
  cases hparse : parse n q with
  | none =>
    rw [hparse] at hl
    cases hl
  | some t =>
    rw [hparse] at hl
    obtain ⟨hgood | hempty, -⟩ := (isDisjunctive_of_parse hparse).forall_leaves l hl
    · obtain ⟨-, w, htext, hquote, -⟩ := (Literal.isGood_phrase_iff hkind).mp hgood
      rw [Literal.phraseText_of_text_eq htext]
      exact ⟨htext, hquote⟩
    · rw [(Literal.isEmptyTerm_iff.mp hempty).1] at hkind
      cases hkind

/-- **The phrases of a query, and the terms of a phrase.**  A phrase of a query stands between its
only quotes.  By the standard normalizer a phrase, whatever its text, has one term for each maximal
run of characters other than white space between its quotes that has a word character, in order:
the word characters of the run in lower case.  Put together, the terms are the one term of what
stands between the quotes, if there is any. -/
theorem phrases_and_terms :
    (∀ (n : ν) (q : Text), ∀ l ∈ Node.leavesOption (parse n q), l.kind = .phrase →
      l.text = '"' :: (l.phraseText ++ ['"']) ∧ '"' ∉ l.phraseText) ∧
    ∀ l : Literal Normalizer, l.kind = .phrase → l.normalizer = .standard →
      ∃ runs, Text.RunsOf (fun c => !Text.isBlank c) l.phraseText runs ∧
        l.terms = ((runs.map Prod.snd).filter (·.any Text.isAsciiWord)).map
          (fun w => Text.lower (w.filter Text.isAsciiWord)) ∧
        Normalizer.standard.processToken l.phraseText
          = if l.terms = [] then [] else [l.terms.flatten] := by
  constructor
  · intro n q l hl hkind
    exact text_of_phrase hl hkind
  · intro l hkind hstandard
    obtain ⟨runs, hruns, hwords⟩ := Text.exists_runsOf Text.isBlank l.phraseText
    refine ⟨runs, hruns, ?_, ?_⟩
    · rw [Literal.terms_of_phrase hkind hstandard, Text.words, hwords]
      rfl
    · rw [Normalizer.processToken_eq, Normalizer.normalize_standard, ← Text.flatten_termsOf_words,
        Literal.terms_of_phrase hkind hstandard]
      simp only [Text.flatten_termsOf_eq_nil_iff]

/-- A phrase with a tab between two words, and with a word that has no word character, glued to the
word before it. -/
theorem phrases_and_terms_tab :
    let l : Literal Normalizer :=
      ⟨.phrase, ['"', 'B', '\t', 'c', '!', ' ', ',', '"'], false, .standard⟩
    l ∈ Node.leavesOption
        (parse .standard ['a', '"', 'B', '\t', 'c', '!', ' ', ',', '"', '+', 'd']) ∧
      (l.text = '"' :: (l.phraseText ++ ['"']) ∧ '"' ∉ l.phraseText) ∧
      (∃ runs, Text.RunsOf (fun c => !Text.isBlank c) l.phraseText runs ∧
        ((runs.map Prod.snd).filter (·.any Text.isAsciiWord)).map
          (fun w => Text.lower (w.filter Text.isAsciiWord)) = [['b'], ['c']]) ∧
      Normalizer.standard.processToken l.phraseText = [['b', 'c']] := by
  intro l
  have hl : l ∈ Node.leavesOption
      (parse .standard ['a', '"', 'B', '\t', 'c', '!', ' ', ',', '"', '+', 'd']) := by decide
  have hterms : l.terms = [['b'], ['c']] := by decide
  obtain ⟨hphrases, hall⟩ := phrases_and_terms (ν := Normalizer)
  obtain ⟨runs, hruns, hruns_terms, hjoined⟩ := hall l rfl rfl
  rw [hterms] at hruns_terms hjoined
  exact ⟨hl, hphrases _ _ l hl rfl, ⟨runs, hruns, hruns_terms.symm⟩, hjoined⟩

end Query
end QueryTree
