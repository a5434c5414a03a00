import QueryTree.Proofs.Text
import QueryTree.Proofs.Tree
import QueryTree.Query.Parser

/-!
# What a group reads as

The literal scanner decides where a literal ends from the next space and the next quote.  Here
the literals of a group are described without offsets, by a grammar: a group is blanks, phrases,
words and, after the last phrase, at most one quote that never closes.  The scanner run over a
group finds exactly the literals the grammar gives.

## Main definitions

* `Query.isWordChar` — the characters of words: all but the space and the quote.
* `Query.IsWordLiteral`, `Query.ofRun` — the literal of a run of such characters.
* `Query.Reads n g ls` — the group `g` reads as the literals `ls`.

## Main results

* `Scan.literalAt_phrase`, `Scan.literalAt_word`, `Scan.literalAt_dangling` — one step of the
  scanner, one statement for each way a literal can stand in a group.
* `Query.map_snd_literals_eq_iff` — **the literals found in a group are those it reads as.**
-/

namespace QueryTree

variable {ν : Type}

@[simp] theorem Bounds.stop_mk (i k : Int) : (⟨i, k⟩ : Bounds).stop = i + k := rfl

@[simp] theorem Bounds.slice_mk (i k : Int) (t : Text) :
    (⟨i, k⟩ : Bounds).slice t = t.slice i (i + k) := rfl

namespace Query

/-- Whether a character belongs to a word. -/
def isWordChar (c : Char) : Bool := c ≠ ' ' && c ≠ '"'

@[simp] theorem isWordChar_eq_true {c : Char} : isWordChar c = true ↔ c ≠ ' ' ∧ c ≠ '"' := by
  simp [isWordChar]

@[simp] theorem isWordChar_eq_false {c : Char} : isWordChar c = false ↔ c = ' ' ∨ c = '"' := by
  simp only [isWordChar, Bool.and_eq_false_iff, decide_eq_false_iff_not, ne_eq,
    Decidable.not_not]

/-- The literal of a run of word characters: a dash at its start negates it. -/
def ofRun (n : ν) : Text → Literal ν
  | '-' :: t => Scan.wordLiteral n t true
  | t => Scan.wordLiteral n t false

/-- Where the text of the literal of a run lies, for a run that starts at an offset. -/
def runBounds (start : Int) : Text → Bounds
  | '-' :: t => ⟨start + 1, t.length⟩
  | t => ⟨start, t.length⟩

/-- The literal of what stands between two quotes. -/
def ofInner (n : ν) (w : Text) : Literal ν := ⟨.phrase, '"' :: (w ++ ['"']), false, n⟩

/-- The literal of a run: a dash at its start negates it and is dropped, and a `*` in what is
left makes it a wildcard. -/
structure IsWordLiteral (n : ν) (run : Text) (l : Literal ν) : Prop where
  negated : l.negated = true ↔ run.head? = some '-'
  text : run = if l.negated then '-' :: l.text else l.text
  kind : l.kind = if '*' ∈ l.text then .wildcard else .term
  normalizer : l.normalizer = n

/-- `Reads n g ls` says that the group `g` reads as the literals `ls`, with the normalizer `n`
at each of them. -/
inductive Reads (n : ν) : Text → List (Literal ν) → Prop
  /-- Nothing is left to read. -/
  | nil : Reads n [] []
  /-- Blanks are passed over. -/
  | blank {s : Text} {ls : List (Literal ν)} : Reads n s ls → Reads n (' ' :: s) ls
  /-- A quote with another one after it opens a phrase. -/
  | phrase {w s : Text} {ls : List (Literal ν)} : '"' ∉ w → Reads n s ls →
      Reads n ('"' :: (w ++ '"' :: s)) (ofInner n w :: ls)
  /-- A word runs as far as it can. -/
  | word {w s : Text} {ls : List (Literal ν)} : w ≠ [] → (∀ c ∈ w, isWordChar c = true) →
      Text.Stops isWordChar s → Reads n s ls → Reads n (w ++ s) (ofRun n w :: ls)
  /-- The last quote is dropped when it has no partner, and the word after it, or no word at
  all, is a literal. -/
  | dangling {w s : Text} {ls : List (Literal ν)} : (∀ c ∈ w, isWordChar c = true) →
      Text.Stops isWordChar s → '"' ∉ s → Reads n s ls →
      Reads n ('"' :: (w ++ s)) (ofRun n w :: ls)

theorem ofRun_of_head?_ne {n : ν} {w : Text} (h : w.head? ≠ some '-') :
    ofRun n w = Scan.wordLiteral n w false := by
  unfold ofRun
  split
  · simp at h
  · rfl

theorem runBounds_of_head?_ne {i : Int} {w : Text} (h : w.head? ≠ some '-') :
    runBounds i w = ⟨i, w.length⟩ := by
  unfold runBounds
  split
  · simp at h
  · rfl

/-- `ofRun` is the one literal of a run. -/
theorem isWordLiteral_iff {n : ν} {w : Text} {l : Literal ν} :
    IsWordLiteral n w l ↔ l = ofRun n w := by
  constructor
  · rintro ⟨hneg, htext, hkind, hnorm⟩
    obtain ⟨kind, text, negated, normalizer⟩ := l
    simp only at hneg htext hkind hnorm
    rw [hkind, hnorm]
    cases negated with
    | true =>
      rw [if_pos rfl] at htext
      simp [htext, ofRun, Scan.wordLiteral]
    | false =>
      rw [if_neg (by simp)] at htext
      have hdash : w.head? ≠ some '-' := fun h => by simpa using hneg.mpr h
      rw [ofRun_of_head?_ne hdash, htext]
      simp [Scan.wordLiteral]
  · rintro rfl
    by_cases hdash : w.head? = some '-'
    · obtain ⟨t, rfl⟩ := List.head?_eq_some_iff.mp hdash
      constructor <;> simp [ofRun, Scan.wordLiteral]
    · rw [ofRun_of_head?_ne hdash]
      constructor <;> simp [Scan.wordLiteral, hdash]

@[simp] theorem stop_runBounds (i : Int) (w : Text) : (runBounds i w).stop = i + w.length := by
  unfold runBounds Bounds.stop
  split
  · simp only [List.length_cons, Int.natCast_add]; omega
  · rfl

theorem ne_space_of_mem {w : Text} (hw : ∀ c ∈ w, isWordChar c = true) : ' ' ∉ w :=
  fun h => by simpa using hw _ h

theorem ne_quote_of_mem {w : Text} (hw : ∀ c ∈ w, isWordChar c = true) : '"' ∉ w :=
  fun h => by simpa using hw _ h

end Query

namespace Scan

open Query

/-! ### Where a literal ends -/

/-- How far a word reaches in what is left of a group, if only spaces end it. -/
def wordLength (v : Text) : Nat := (Text.indexOf? ' ' v).getD v.length

/-- What a literal covers depends only on what is left of the group: the scanner at an offset
compares the first space and the first quote of the rest. -/
theorem extent_append {u v : Text} {i : Int} (hi : i = u.length) :
    extent (u ++ v) i = match Text.indexOf? '"' v with
      | none => (false, ⟨i, wordLength v⟩)
      | some q =>
        if (Text.indexOf? ' ' v).any (· < q) then (false, ⟨i, wordLength v⟩)
        else if v.head? ≠ some '"' then (false, ⟨i, q⟩)
        else match Text.indexOf? '"' (v.drop (q + 1)) with
          | some c => (true, ⟨i, (q + 1 + (c + 1) : Nat)⟩)
          | none => (false, ⟨i + 1, wordLength v - 1⟩) := by
  have hend : ((((u ++ v).findFrom? ' ' i).getD (u ++ v).length : Nat) : Int)
      = i + wordLength v := by
    rw [Text.findFrom?_append _ hi, wordLength]
    cases Text.indexOf? ' ' v with
    | none => rw [Option.map_none, Option.getD_none, Option.getD_none, List.length_append]; omega
    | some k => rw [Option.map_some, Option.getD_some, Option.getD_some]; omega
  have hany : ∀ q, ((u ++ v).findFrom? ' ' i).any (· < q + u.length)
      = (Text.indexOf? ' ' v).any (· < q) := by
    intro q
    rw [Text.findFrom?_append _ hi]
    cases Text.indexOf? ' ' v with
    | none => rfl
    | some k => simp
  -- the lengths are differences of offsets, and the offset of the cut cancels
  have hword : i + (wordLength v : Int) - i = wordLength v := by omega
  have hrest : i + (wordLength v : Int) - (i + 1) = wordLength v - 1 := by omega
  unfold extent
  simp only [hend, Text.findFrom?_append '"' hi, Text.at?_append hi, hword, hrest]
  cases hq : Text.indexOf? '"' v with
  | none => rfl
  | some q =>
    -- the closing quote is looked for behind the first one, so the text is cut there again
    obtain ⟨a, b, rfl, rfl, -⟩ := Text.exists_append_of_indexOf? hq
    have hdrop : (a ++ '"' :: b).drop (a.length + 1) = b := by
      rw [List.append_cons, List.drop_left' (by simp)]
    have hclosing : (u ++ (a ++ '"' :: b)).findFrom? '"' (a.length + u.length + 1 : Nat)
        = (Text.indexOf? '"' b).map (· + (a.length + u.length + 1)) := by
      have hcut : u ++ (a ++ '"' :: b) = (u ++ (a ++ ['"'])) ++ b := by simp
      have hlen : (u ++ (a ++ ['"'])).length = a.length + u.length + 1 := by
        simp only [List.length_append, List.length_singleton]
        omega
      rw [hcut, Text.findFrom?_append _ (by rw [hlen]), hlen]
    have hquote : ((a.length + u.length : Nat) : Int) - i = a.length := by omega
    simp only [Option.map_some, hany, hclosing, hdrop, hquote]
    cases Text.indexOf? '"' b with
    | none => rfl
    | some c =>
      have hphrase : ((c + (a.length + u.length + 1) : Nat) : Int) + 1 - i
          = (a.length + 1 + (c + 1) : Nat) := by omega
      simp only [Option.map_some, hphrase]

theorem extent_phrase {u w s : Text} {i : Int} (hi : i = u.length) (hw : '"' ∉ w) :
    extent (u ++ '"' :: (w ++ '"' :: s)) i = (true, ⟨i, (w.length + 2 : Nat)⟩) := by
  have hclosing : Text.indexOf? '"' (w ++ '"' :: s) = some w.length := by
    rw [Text.indexOf?_append hw, Text.indexOf?_cons_self, Option.map_some, Nat.zero_add]
  have hlen : 0 + 1 + (w.length + 1) = w.length + 2 := by omega
  rw [extent_append hi]
  -- a space before the first character is impossible
  simp [hclosing, hlen]

/-- A word with nothing but a stop behind it reaches that stop. -/
theorem wordLength_append {w s : Text} (hw : ' ' ∉ w) (hs : Text.Stops (· ≠ ' ') s) :
    wordLength (w ++ s) = w.length := by
  rw [wordLength, Text.indexOf?_append hw]
  cases s with
  | nil => simp [Text.indexOf?]
  | cons d s =>
    obtain rfl : d = ' ' := by simpa using hs
    simp

theorem extent_word {u w s : Text} {i : Int} (hi : i = u.length) (hne : w ≠ [])
    (hw : ∀ c ∈ w, isWordChar c = true) (hs : Text.Stops isWordChar s) :
    extent (u ++ (w ++ s)) i = (false, ⟨i, w.length⟩) := by
  have hhead : (w ++ s).head? ≠ some '"' := by
    cases w with
    | nil => exact absurd rfl hne
    | cons c w =>
      have hc := (isWordChar_eq_true.mp (hw c List.mem_cons_self)).2
      simpa using hc
  have hquote := Text.indexOf?_append (ne_quote_of_mem hw) s
  have hspace := Text.indexOf?_append (ne_space_of_mem hw) s
  rw [extent_append hi, hquote]
  -- the word stops at the end of the group, at a space or before a quote
  cases s with
  | nil =>
    rw [wordLength_append (ne_space_of_mem hw) (Text.stops_nil _)]
    rfl
  | cons d s =>
    rcases isWordChar_eq_false.mp (Text.stops_cons.mp hs) with rfl | rfl
    · rw [hspace, wordLength_append (ne_space_of_mem hw) (by simp), Text.indexOf?_cons_self,
        Text.indexOf?, if_neg (by decide)]
      cases Text.indexOf? '"' s with
      | none => rfl
      | some q => simp
    · have hany : ((Text.indexOf? ' ' ('"' :: s)).map (· + w.length)).any (· < w.length)
          = false := by
        cases Text.indexOf? ' ' ('"' :: s) <;> simp
      rw [hspace, Text.indexOf?_cons_self, Option.map_some, Nat.zero_add]
      simp only [hany, Bool.false_eq_true, if_false, if_pos hhead]

theorem extent_dangling {u w s : Text} {i : Int} (hi : i = u.length)
    (hw : ∀ c ∈ w, isWordChar c = true) (hs : Text.Stops isWordChar s) (hq : '"' ∉ s) :
    extent (u ++ '"' :: (w ++ s)) i = (false, ⟨i + 1, w.length⟩) := by
  have hclosing : Text.indexOf? '"' (w ++ s) = none := by
    apply Text.indexOf?_of_notMem
    rw [List.mem_append, not_or]
    exact ⟨ne_quote_of_mem hw, hq⟩
  have hstop : Text.Stops (· ≠ ' ') s := by
    cases s with
    | nil => exact Text.stops_nil _
    | cons d s =>
      rcases isWordChar_eq_false.mp (Text.stops_cons.mp hs) with rfl | rfl
      · simp
      · simp at hq
  have hlen : wordLength ('"' :: (w ++ s)) = w.length + 1 := by
    have hspace : ' ' ∉ '"' :: w := by
      simpa using ne_space_of_mem hw
    exact wordLength_append (w := '"' :: w) hspace hstop
  rw [extent_append hi, hlen]
  simp [hclosing]

/-! ### One literal -/

theorem skip_append {p : Char → Bool} {u w s : Text} {i : Int} (hi : i = u.length)
    (hw : ∀ c ∈ w, p c = true) (hs : Text.Stops p s) :
    skip p (u ++ (w ++ s)) i = i + w.length := by
  rw [skip, Text.fromOffset_append hi, Text.takeWhile_append hw hs]

/-- The literal of a run, with its bounds, from where the run stands in the group. -/
theorem negation_append (n : ν) {u w s : Text} {i : Int} (hi : i = u.length) :
    (match negation (u ++ (w ++ s)) ⟨i, w.length⟩ with
      | (negated, b) => some (b, wordLiteral n (b.slice (u ++ (w ++ s))) negated))
      = some (runBounds i w, ofRun n w) := by
  by_cases hdash : w.head? = some '-'
  · -- the dash is the first character of the run, and the bounds start behind it
    obtain ⟨t, rfl⟩ := List.head?_eq_some_iff.mp hdash
    have hat : (u ++ ('-' :: t ++ s)).at? i = some '-' := by
      rw [Text.at?_append hi]
      rfl
    have hlen : (('-' :: t).length : Int) = t.length + 1 := by
      rw [List.length_cons, Int.natCast_add, Int.natCast_one]
    have hslice : (u ++ ('-' :: t ++ s)).slice (i + 1) (i + 1 + t.length) = t := by
      rw [List.cons_append, List.append_cons]
      exact Text.slice_append (by rw [hi]; simp) rfl
    have hneg : negation (u ++ ('-' :: t ++ s)) ⟨i, ('-' :: t).length⟩
        = (true, ⟨i + 1, t.length⟩) := by
      have hpos : (0 : Int) < ('-' :: t).length := by omega
      have hrest : (('-' :: t).length : Int) - 1 = t.length := by omega
      rw [negation, if_pos ⟨hpos, hat⟩, hrest]
    rw [hneg]
    simp only [Bounds.slice_mk, hslice]
    rfl
  · -- an empty run may stand before a dash of the rest, so its length is asked first
    have hneg : negation (u ++ (w ++ s)) ⟨i, w.length⟩ = (false, ⟨i, w.length⟩) := by
      rw [negation, if_neg]
      rintro ⟨hpos, hat⟩
      rw [Text.at?_append hi] at hat
      cases w with
      | nil => simp at hpos
      | cons c t => exact hdash hat
    rw [hneg, runBounds_of_head?_ne hdash, ofRun_of_head?_ne hdash]
    simp only [Bounds.slice_mk, Text.slice_append hi rfl]

theorem literalAt_end (n : ν) {u : Text} {i : Int} (hi : i = u.length) :
    literalAt n u i = none := by
  have hskip : skip (· = ' ') u i = i := by
    have h := skip_append (p := (· = ' ')) (w := []) (s := []) hi (by simp) (Text.stops_nil _)
    simpa using h
  unfold literalAt
  rw [hskip, if_pos (by omega)]

theorem literalAt_blank (n : ν) {u s : Text} {i : Int} (hi : i = u.length) :
    literalAt n (u ++ ' ' :: s) i = literalAt n (u ++ ' ' :: s) (i + 1) := by
  have hskip : skip (· = ' ') (u ++ ' ' :: s) i = skip (· = ' ') (u ++ ' ' :: s) (i + 1) := by
    rw [skip, skip, Text.fromOffset_append hi, List.append_cons,
      Text.fromOffset_append (by rw [hi]; simp), List.takeWhile_cons]
    simp only [decide_true, if_true, List.length_cons]
    omega
  unfold literalAt
  rw [hskip]

/-- Where no blank stands, the literal starts at once. -/
theorem literalAt_of_ne_space (n : ν) {u s : Text} {c : Char} {i : Int} (hi : i = u.length)
    (hc : c ≠ ' ') :
    literalAt n (u ++ c :: s) i = match extent (u ++ c :: s) i with
      | (true, b) => some (b, ⟨.phrase, b.slice (u ++ c :: s), false, n⟩)
      | (false, b) =>
        match negation (u ++ c :: s) b with
        | (negated, b) => some (b, wordLiteral n (b.slice (u ++ c :: s)) negated) := by
  have hskip : skip (· = ' ') (u ++ c :: s) i = i := by
    have h := skip_append (p := (· = ' ')) (w := []) (s := c :: s) hi (by simp)
      (Text.stops_cons.mpr (by simpa using hc))
    simpa using h
  have hlt : ¬ (u ++ c :: s).length ≤ i := by
    rw [List.length_append, List.length_cons]
    omega
  unfold literalAt
  rw [hskip]
  exact if_neg hlt

/-- **A phrase is found with its quotes.** -/
theorem literalAt_phrase (n : ν) {u w s : Text} {i : Int} (hi : i = u.length) (hw : '"' ∉ w) :
    literalAt n (u ++ '"' :: (w ++ '"' :: s)) i
      = some (⟨i, (w.length + 2 : Nat)⟩, ofInner n w) := by
  have hcut : u ++ '"' :: (w ++ '"' :: s) = u ++ ('"' :: (w ++ ['"']) ++ s) := by simp
  have hslice : (u ++ '"' :: (w ++ '"' :: s)).slice i (i + (w.length + 2 : Nat))
      = '"' :: (w ++ ['"']) := by
    rw [hcut]
    have hlen : ('"' :: (w ++ ['"'])).length = w.length + 2 := by simp
    exact Text.slice_append hi (by rw [hlen])
  rw [literalAt_of_ne_space n hi (by decide), extent_phrase hi hw]
  simp only [Bounds.slice_mk, hslice]
  rfl

/-- **A word is found up to where its run stops.** -/
theorem literalAt_word (n : ν) {u w s : Text} {i : Int} (hi : i = u.length) (hne : w ≠ [])
    (hw : ∀ c ∈ w, isWordChar c = true) (hs : Text.Stops isWordChar s) :
    literalAt n (u ++ (w ++ s)) i = some (runBounds i w, ofRun n w) := by
  have hextent := extent_word hi hne hw hs
  rw [← negation_append n (s := s) hi]
  cases w with
  | nil => exact absurd rfl hne
  | cons c w =>
    have hc := (isWordChar_eq_true.mp (hw c List.mem_cons_self)).1
    rw [List.cons_append] at hextent ⊢
    rw [literalAt_of_ne_space n hi hc, hextent]

/-- **A quote without a partner is dropped**, and what is found is the word after it. -/
theorem literalAt_dangling (n : ν) {u w s : Text} {i : Int} (hi : i = u.length)
    (hw : ∀ c ∈ w, isWordChar c = true) (hs : Text.Stops isWordChar s) (hq : '"' ∉ s) :
    literalAt n (u ++ '"' :: (w ++ s)) i = some (runBounds (i + 1) w, ofRun n w) := by
  -- the quote goes to what was read before
  have hrun := negation_append n (u := u ++ ['"']) (w := w) (s := s) (i := i + 1)
    (by rw [hi]; simp)
  rw [List.append_assoc, List.singleton_append] at hrun
  rw [literalAt_of_ne_space n hi (by decide), extent_dangling hi hw hs hq]
  exact hrun

/-! ### All literals -/

theorem runs_congr {β : Type} {scan : Int → Option β} {i j : Int} (h : scan i = scan j)
    (stop : β → Int) (limit : Nat) : runs scan stop limit i = runs scan stop limit j := by
  cases limit with
  | zero => rfl
  | succ limit => rw [runs, runs, h]

end Scan

namespace Query

open Scan

/-- **The run of the literal scanner.**  From the offset where a text is cut, and with more steps
than there are characters left, the scanner finds the literals of the rest. -/
theorem Reads.map_snd_runs {n : ν} {s : Text} {ls : List (Literal ν)} (h : Reads n s ls) :
    ∀ (u : Text) (i : Int) (limit : Nat), i = u.length → s.length < limit →
      (runs (literalAt n (u ++ s)) (·.1.stop) limit i).map Prod.snd = ls := by
  induction h with
  | nil =>
    intro u i limit hi hlimit
    obtain ⟨limit, rfl⟩ : ∃ k, limit = k + 1 := ⟨limit - 1, by omega⟩
    rw [List.append_nil, runs, literalAt_end n hi]
    rfl
  | @blank s ls _ ih =>
    intro u i limit hi hlimit
    rw [List.length_cons] at hlimit
    -- the step that skips a blank finds what the step behind the blank finds
    rw [runs_congr (literalAt_blank n hi), List.append_cons]
    exact ih (u ++ [' ']) (i + 1) limit (by rw [hi]; simp) (by omega)
  | @phrase w s ls hw _ ih =>
    intro u i limit hi hlimit
    simp only [List.length_cons, List.length_append] at hlimit
    obtain ⟨limit, rfl⟩ : ∃ k, limit = k + 1 := ⟨limit - 1, by omega⟩
    have hcut : u ++ '"' :: (w ++ '"' :: s) = (u ++ '"' :: (w ++ ['"'])) ++ s := by simp
    have hnext : i + (w.length + 2 : Nat) = (u ++ '"' :: (w ++ ['"'])).length := by
      simp only [List.length_append, List.length_cons, List.length_nil]
      omega
    have hrest := ih (u ++ '"' :: (w ++ ['"'])) _ limit hnext (by omega)
    rw [runs, literalAt_phrase n hi hw, hcut]
    simp only [List.map_cons, Bounds.stop_mk, hrest]
  | @word w s ls hne hw hs _ ih =>
    intro u i limit hi hlimit
    rw [List.length_append] at hlimit
    have hpos : 0 < w.length := List.length_pos_iff.mpr hne
    obtain ⟨limit, rfl⟩ : ∃ k, limit = k + 1 := ⟨limit - 1, by omega⟩
    have hrest := ih (u ++ w) (i + w.length) limit (by rw [hi]; simp) (by omega)
    rw [runs, literalAt_word n hi hne hw hs, ← List.append_assoc]
    simp only [List.map_cons, stop_runBounds, hrest]
  | @dangling w s ls hw hs hq _ ih =>
    intro u i limit hi hlimit
    simp only [List.length_cons, List.length_append] at hlimit
    obtain ⟨limit, rfl⟩ : ∃ k, limit = k + 1 := ⟨limit - 1, by omega⟩
    have hcut : u ++ '"' :: (w ++ s) = (u ++ '"' :: w) ++ s := by simp
    have hnext : i + 1 + w.length = (u ++ '"' :: w).length := by
      rw [List.length_append, List.length_cons]
      omega
    have hrest := ih (u ++ '"' :: w) _ limit hnext (by omega)
    rw [runs, literalAt_dangling n hi hw hs hq, hcut]
    simp only [List.map_cons, stop_runBounds, hrest]

/-- Every group reads as some literals. -/
theorem exists_reads (n : ν) (g : Text) : ∃ ls, Reads n g ls := by
  -- strong induction on the length: each literal takes at least one character
  induction hk : g.length using Nat.strongRecOn generalizing g with
  | _ k ih =>
    subst hk
    cases g with
    | nil => exact ⟨[], .nil⟩
    | cons c t =>
      by_cases hspace : c = ' '
      · subst hspace
        obtain ⟨ls, hls⟩ := ih t.length (by simp) t rfl
        exact ⟨ls, .blank hls⟩
      by_cases hquote : c = '"'
      · subst hquote
        by_cases hclosing : '"' ∈ t
        · obtain ⟨w, s, rfl, hw⟩ := List.eq_append_cons_of_mem hclosing
          have hlt : s.length < ('"' :: (w ++ '"' :: s)).length := by
            rw [List.length_cons, List.length_append, List.length_cons]
            omega
          obtain ⟨ls, hls⟩ := ih s.length hlt s rfl
          exact ⟨_, .phrase hw hls⟩
        · obtain ⟨w, s, rfl, hw, hs⟩ := Text.exists_run isWordChar t
          rw [List.mem_append, not_or] at hclosing
          have hlt : s.length < ('"' :: (w ++ s)).length := by
            rw [List.length_cons, List.length_append]
            omega
          obtain ⟨ls, hls⟩ := ih s.length hlt s rfl
          exact ⟨_, .dangling hw hs hclosing.2 hls⟩
      · obtain ⟨w, s, hws, hw, hs⟩ := Text.exists_run isWordChar (c :: t)
        have hne : w ≠ [] := by
          rintro rfl
          rw [List.nil_append] at hws
          rw [← hws, Text.stops_cons, isWordChar_eq_false] at hs
          exact hs.elim hspace hquote
        have hpos : 0 < w.length := List.length_pos_iff.mpr hne
        rw [hws] at ih ⊢
        obtain ⟨ls, hls⟩ := ih s.length (by rw [List.length_append]; omega) s rfl
        exact ⟨_, .word hne hw hs hls⟩

/-- **The literals found in a group are those it reads as.** -/
theorem map_snd_literals_eq_iff {n : ν} {g : Text} {ls : List (Literal ν)} :
    (literals n g).map Prod.snd = ls ↔ Reads n g ls := by
  have hfound : ∀ ls, Reads n g ls → (literals n g).map Prod.snd = ls := fun ls h =>
    h.map_snd_runs [] 0 (g.length + 1) rfl (by omega)
  constructor
  · rintro rfl
    obtain ⟨ls, hls⟩ := exists_reads n g
    rwa [hfound ls hls]
  · exact hfound ls

/-! ### The tree of a group -/

theorem Reads.append_space {n : ν} {g : Text} {ls : List (Literal ν)} (h : Reads n g ls) :
    Reads n (g ++ [' ']) ls := by
  induction h with
  | nil => exact .blank .nil
  | blank _ ih => exact .blank ih
  | @phrase w s ls hw _ ih =>
    rw [List.cons_append, List.append_assoc, List.cons_append]
    exact .phrase hw ih
  | @word w s ls hne hw hs _ ih =>
    rw [List.append_assoc]
    exact .word hne hw (hs.append (by simp)) ih
  | @dangling w s ls hw hs hq _ ih =>
    rw [List.cons_append, List.append_assoc]
    exact .dangling hw (hs.append (by simp)) (by simpa using hq) ih

/-- Only blanks read as nothing. -/
theorem reads_nil_iff {n : ν} {g : Text} : Reads n g [] ↔ ∀ c ∈ g, c = ' ' := by
  constructor
  · -- every case but the first two adds a literal
    intro h
    generalize hls : ([] : List (Literal ν)) = ls at h
    induction h with
    | nil => simp
    | blank _ ih => simpa using ih hls
    | phrase => cases hls
    | word => cases hls
    | dangling => cases hls
  · intro h
    induction g with
    | nil => exact .nil
    | cons c g ih =>
      rw [List.forall_mem_cons] at h
      rw [h.1]
      exact .blank (ih h.2)

/-- The tree of a group is the conjunction of the literals it reads as. -/
theorem Reads.parseGroup_eq {n : ν} {g : Text} {ls : List (Literal ν)} (h : Reads n g ls) :
    parseGroup n g = Node.fold .and (ls.map .literal) := by
  rw [parseGroup, ← map_snd_literals_eq_iff.mpr h, List.map_map]
  rfl

theorem parseGroup_cons_space (n : ν) (g : Text) : parseGroup n (' ' :: g) = parseGroup n g := by
  obtain ⟨ls, h⟩ := exists_reads n g
  rw [h.parseGroup_eq, h.blank.parseGroup_eq]

theorem parseGroup_append_space (n : ν) (g : Text) :
    parseGroup n (g ++ [' ']) = parseGroup n g := by
  obtain ⟨ls, h⟩ := exists_reads n g
  rw [h.parseGroup_eq, h.append_space.parseGroup_eq]

theorem parseGroup_eq_none_iff {n : ν} {g : Text} :
    parseGroup n g = none ↔ ∀ c ∈ g, c = ' ' := by
  obtain ⟨ls, h⟩ := exists_reads n g
  rw [h.parseGroup_eq, Node.fold_eq_none_iff, List.map_eq_nil_iff]
  constructor
  · rintro rfl
    exact reads_nil_iff.mp h
  · intro hg
    rw [← map_snd_literals_eq_iff.mpr h, map_snd_literals_eq_iff]
    exact reads_nil_iff.mpr hg

end Query
end QueryTree
