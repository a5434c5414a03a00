import QueryTree.Proofs.Shown
import QueryTree.Proofs.TreeLabels

/-!
# Texts that are shown as they are

The label of a literal has the text of the literal escaped, and is then shown.  Escaping undoes the
reading of tags: it takes the text apart at its tags, and every part is shown by itself.  It does
not undo what happens to the parts, and it doubles a single backslash at the end, which showing
leaves doubled.

So a text is shown as it is exactly if every part of it is and it does not end in a single
backslash.  That covers all texts without backslashes and colons, whatever brackets they have; but
`:cat:` is shown as a picture, `a\` gets a second backslash and `\[A]` loses its only one.

## Main definitions

* `Markup.parts`: a text taken apart at its tags.
* `Markup.shownText`: what is shown of a text that was escaped.
* `Markup.IsVerbatim`: a text that is shown as it is.

## Main results

* `Markup.renderFrom_escapeFrom` — **an escaped text is shown part by part.**
* `Markup.shownText_eq_self_iff` — the texts that are shown as they are.
* `Literal.characters_label_eq_iff` — **what the label of a literal shows.**
-/

namespace QueryTree

variable {ν : Type}

namespace Markup

/-! ### The parts of a text -/

/-- The parts of the rest of a text: a run of backslashes before a tag, the tag with its brackets,
and the stretches between tags.  `skip` characters belong to a part already given, and `found` has
been collected for the next stretch, last character first. -/
def partsFrom (skip : Nat) (found : Text) : Text → List Text
  | [] => [found.reverse]
  | c :: cs =>
    match skip with
    | n + 1 => partsFrom n found cs
    | 0 =>
      match tagAhead? (c :: cs) with
      | none => partsFrom 0 (c :: found) cs
      | some (count, body) =>
        found.reverse :: List.replicate count '\\' :: bracketed body
          :: partsFrom (span count body - 1) [] cs

/-- The parts of a text. -/
def parts (t : Text) : List Text := partsFrom 0 [] t

theorem partsFrom_skip (u v found : Text) :
    partsFrom u.length found (u ++ v) = partsFrom 0 found v := by
  induction u with
  | nil => rfl
  | cons c u ih => rw [List.length_cons, List.cons_append, partsFrom, ih]

theorem partsFrom_of_none {c : Char} {t : Text} (h : tagAhead? (c :: t) = none) (found : Text) :
    partsFrom 0 found (c :: t) = partsFrom 0 (c :: found) t := by
  rw [partsFrom, h]

theorem partsFrom_tag {body : Text} (hbody : IsTagBody body) (count : Nat) (found rest : Text) :
    partsFrom 0 found (List.replicate count '\\' ++ (bracketed body ++ rest))
      = found.reverse :: List.replicate count '\\' :: bracketed body :: partsFrom 0 [] rest := by
  have htag := tagAhead?_tag hbody count rest
  obtain ⟨c, u, hu, hlen⟩ := exists_tag_eq_cons count body
  rw [← List.append_assoc, hu, List.cons_append] at htag ⊢
  rw [partsFrom, htag]
  simp only [← hlen, partsFrom_skip]

/-- The parts of a text make up the text. -/
theorem flatten_partsFrom (t found : Text) :
    (partsFrom 0 found t).flatten = found.reverse ++ t := by
  induction t using tagInduction generalizing found with
  | nil => simp [partsFrom]
  | char c t hnone ih => simp [partsFrom_of_none hnone, ih]
  | tag count body rest hbody ih => simp [partsFrom_tag hbody, ih]

theorem flatten_parts (t : Text) : (parts t).flatten = t := flatten_partsFrom t []

/-- A blank before a text is shown as it is. -/
theorem flatMap_shown_partsFrom_blank (t found : Text) :
    (partsFrom 0 (found ++ [' ']) t).flatMap shown
      = ' ' :: (partsFrom 0 found t).flatMap shown := by
  have hfound : ∀ found : Text, shown (found ++ [' ']).reverse = ' ' :: shown found.reverse := by
    intro found
    rw [List.reverse_append, List.reverse_singleton, List.singleton_append, shown_blank_cons]
  induction t using tagInduction generalizing found with
  | nil => simp only [partsFrom, List.flatMap_cons, List.flatMap_nil, hfound, List.cons_append]
  | char c t hnone ih =>
    rw [partsFrom_of_none hnone, partsFrom_of_none hnone, ← List.cons_append, ih]
  | tag count body rest hbody ih =>
    simp only [partsFrom_tag hbody, List.flatMap_cons, hfound, List.cons_append]

/-- A tag that is escaped is shown part by part. -/
theorem renderFrom_tagPieces (position count : Nat) (body : Text) (ps : List MarkupPiece) :
    renderFrom [] (tagPieces position (2 * count + 1) body ++ ps)
      = (renderFrom [] ps).map
        ((List.replicate count '\\' ++ shown (bracketed body)).map (⟨·, []⟩) ++ ·) := by
  have hhalf : (2 * count + 1) / 2 = count := by omega
  have hodd : ¬(2 * count + 1) % 2 = 0 := by omega
  rw [tagPieces, hhalf, if_neg hodd]
  split
  · next hzero =>
    subst hzero
    exact renderFrom_plain [] _ _
  · rw [List.append_assoc, List.singleton_append, List.singleton_append, renderFrom_plain,
      renderFrom_plain, shown_replicate]
    cases renderFrom [] ps with
    | error e => rfl
    | ok cs => simp [Except.map]

/-- **An escaped text is shown part by part**: escaping takes it apart at its tags, and backslashes
behind it are shown as they are. -/
theorem renderFrom_escapeFrom (t : Text) (extra position : Nat) (found : Text) :
    renderFrom [] (splitFrom 0 position found (escapeFrom 0 t ++ List.replicate extra '\\'))
      = .ok (((partsFrom 0 found t).flatMap shown ++ List.replicate extra '\\').map
        (⟨·, []⟩)) := by
  induction t using tagInduction generalizing position found with
  | nil =>
    have hfound := renderFrom_flush [] (List.replicate extra '\\' ++ found) []
    rw [List.append_nil, List.reverse_append, List.reverse_replicate,
      shown_append_replicate] at hfound
    rw [escapeFrom, List.nil_append, splitFrom_replicate, hfound]
    simp [partsFrom, renderFrom, Except.map]
  | char c t hnone ih =>
    have hnone' := tagAhead?_escapeFrom hnone extra
    rw [escapeFrom_of_none hnone, List.cons_append] at hnone' ⊢
    rw [splitFrom_of_none hnone', ih, partsFrom_of_none hnone]
  | tag count body rest hbody ih =>
    rw [escapeFrom_tag hbody, List.append_assoc, List.append_assoc, splitFrom_tag hbody,
      List.append_assoc, renderFrom_flush, renderFrom_tagPieces, ih, partsFrom_tag hbody]
    simp [Except.map, shown_replicate]

/-! ### Backslashes at the end -/

theorem slashes_append_cons {c : Char} (hc : c ≠ '\\') (u v : Text) :
    slashes (u ++ c :: v) = slashes u := by
  induction u with
  | nil => simp [slashes, hc]
  | cons d u ih =>
    unfold slashes at ih ⊢
    rw [List.cons_append, List.takeWhile_cons, List.takeWhile_cons]
    split
    · rw [List.length_cons, List.length_cons, ih]
    · rfl

/-- Escaping takes no character away. -/
theorem sublist_escapeFrom (t : Text) : t.Sublist (escapeFrom 0 t) := by
  induction t using tagInduction with
  | nil => exact .slnil
  | char c t hnone ih =>
    rw [escapeFrom_of_none hnone]
    exact ih.cons_cons c
  | tag count body rest hbody ih =>
    rw [escapeFrom_tag hbody]
    have hslashes : (List.replicate count '\\').Sublist (List.replicate (2 * count + 1) '\\') :=
      List.replicate_sublist_replicate _ |>.mpr (by omega)
    exact hslashes.append ((List.Sublist.refl _).append ih)

theorem escapeFrom_replicate (count : Nat) :
    escapeFrom 0 (List.replicate count '\\') = List.replicate count '\\' := by
  induction count with
  | zero => rfl
  | succ count ih =>
    have hnone := tagAhead?_replicate (count + 1)
    rw [List.replicate_succ] at hnone ⊢
    rw [escapeFrom_of_none hnone, ih]

theorem slashes_append_of_exists {u : Text} (h : ∃ c ∈ u, c ≠ '\\') (v : Text) :
    slashes (u ++ v) = slashes u := by
  obtain ⟨c, hmem, hc⟩ := h
  obtain ⟨u₁, u₂, rfl⟩ := List.append_of_mem hmem
  rw [List.append_assoc, List.cons_append, slashes_append_cons hc, slashes_append_cons hc]

/-- Escaping keeps the backslashes at the end of a text: no tag follows them. -/
theorem slashes_reverse_escapeFrom (t : Text) :
    slashes (escapeFrom 0 t).reverse = slashes t.reverse := by
  induction t using tagInduction with
  | nil => rfl
  | char c t hnone ih =>
    rw [escapeFrom_of_none hnone, List.reverse_cons, List.reverse_cons]
    by_cases hother : ∃ d ∈ t, d ≠ '\\'
    · have hother' : ∃ d ∈ escapeFrom 0 t, d ≠ '\\' := by
        obtain ⟨d, hd, hne⟩ := hother
        exact ⟨d, (sublist_escapeFrom t).mem hd, hne⟩
      rw [slashes_append_of_exists (by simpa using hother'),
        slashes_append_of_exists (by simpa using hother), ih]
    · have hall : t = List.replicate t.length '\\' := by
        apply List.eq_replicate_of_mem
        simpa using hother
      rw [hall, escapeFrom_replicate]
  | tag count body rest hbody ih =>
    have hclose : (']' : Char) ≠ '\\' := by decide
    rw [escapeFrom_tag hbody]
    simp only [bracketed, List.reverse_append, List.reverse_cons, List.append_assoc,
      List.cons_append, List.nil_append]
    rw [slashes_append_cons hclose, slashes_append_cons hclose, ih]

/-- The backslash that escaping puts behind a text that ends in a single one. -/
def extraSlash (t : Text) : Nat := if slashes t.reverse = 1 then 1 else 0

theorem escape_eq (t : Text) :
    escape t = escapeFrom 0 t ++ List.replicate (extraSlash t) '\\' := by
  rw [escape, closeSlash, slashes_reverse_escapeFrom, extraSlash]
  split
  · rfl
  · exact (List.append_nil _).symm

/-- What is shown of a text that was escaped. -/
def shownText (t : Text) : Text :=
  (parts t).flatMap shown ++ List.replicate (extraSlash t) '\\'

/-- A text that ends in a backslash is shown with a backslash at its end. -/
theorem getLast?_flatMap_shown {t : Text} (h : t.getLast? = some '\\') (found : Text) :
    ((partsFrom 0 found t).flatMap shown).getLast? = some '\\' := by
  induction t using tagInduction generalizing found with
  | nil => cases h
  | char c t hnone ih =>
    rw [partsFrom_of_none hnone]
    cases t with
    | nil =>
      obtain rfl : c = '\\' := by simpa using h
      have hshown := shown_append_replicate found.reverse 1
      rw [List.replicate_one] at hshown
      simp [partsFrom, hshown]
    | cons d t =>
      rw [List.getLast?_cons_cons] at h
      exact ih h (c :: found)
  | tag count body rest hbody ih =>
    have hrest : rest.getLast? = some '\\' := by
      have hbracketed : (bracketed body).getLast? = some ']' := List.getLast?_concat
      rw [List.getLast?_append, List.getLast?_append, hbracketed] at h
      cases hlast : rest.getLast? with
      | none =>
        rw [hlast] at h
        cases h
      | some c =>
        rw [hlast] at h
        exact h
    simp only [partsFrom_tag hbody, List.flatMap_cons, List.getLast?_append, ih hrest []]
    rfl

/-- A text in which nothing is changed when it is escaped and then shown. -/
structure IsVerbatim (t : Text) : Prop where
  /-- No character is dropped. -/
  isDropped_eq : ∀ c ∈ t, isDropped c = false
  /-- No bracket that starts no tag has a backslash before it. -/
  brackets : ∀ p ∈ parts t, ¬['\\', '['] <:+: p
  /-- No picture takes the place of a name. -/
  pictures : ∀ p ∈ parts t, picturesFrom 0 p = p
  /-- The text does not end in a single backslash. -/
  slashes_ne : slashes t.reverse ≠ 1

/-- A text that ends in a single backslash is not shown as it is: there are two at the end. -/
theorem shownText_ne_self {t : Text} (h : slashes t.reverse = 1) : shownText t ≠ t := by
  intro hshown
  rw [shownText, extraSlash, if_pos h, List.replicate_one] at hshown
  have hlast : t.getLast? = some '\\' := by
    rw [← hshown]
    exact List.getLast?_concat
  -- what is shown of the parts ends in a backslash already, so there are two now
  obtain ⟨w, hw⟩ := List.getLast?_eq_some_iff.mp (getLast?_flatMap_shown hlast [])
  rw [parts, hw] at hshown
  rw [← hshown] at h
  simp [slashes] at h

theorem forall_shown_eq_self_iff {t : Text} :
    (∀ p ∈ parts t, shown p = p) ↔ (∀ p ∈ parts t, ¬['\\', '['] <:+: p)
      ∧ (∀ p ∈ parts t, picturesFrom 0 p = p) ∧ ∀ c ∈ t, isDropped c = false := by
  have hchars : (∀ c ∈ t, isDropped c = false) ↔ ∀ p ∈ parts t, ∀ c ∈ p, isDropped c = false := by
    rw [← List.forall_mem_flatten, flatten_parts]
  simp only [shown_eq_self_iff, hchars, imp_and, forall_and]

/-- **A text is shown as it is exactly if it is verbatim.** -/
theorem shownText_eq_self_iff {t : Text} : shownText t = t ↔ IsVerbatim t := by
  have hparts : (parts t).flatMap shown = t ↔ ∀ p ∈ parts t, shown p = p := by
    have h := shortens_shown.flatMap_eq_flatten_iff (parts t)
    rwa [flatten_parts] at h
  rw [forall_shown_eq_self_iff] at hparts
  constructor
  · intro h
    have hslashes : slashes t.reverse ≠ 1 := fun hone => shownText_ne_self hone h
    rw [shownText, extraSlash, if_neg hslashes, List.replicate_zero, List.append_nil, hparts] at h
    exact ⟨h.2.2, h.1, h.2.1, hslashes⟩
  · intro h
    rw [shownText, extraSlash, if_neg h.slashes_ne, List.replicate_zero, List.append_nil, hparts]
    exact ⟨h.brackets, h.pictures, h.isDropped_eq⟩

instance (t : Text) : Decidable (IsVerbatim t) := decidable_of_iff _ shownText_eq_self_iff

/-- A text without backslashes and colons is verbatim, whatever brackets it has. -/
theorem isVerbatim_of_notMem {t : Text} (hslash : '\\' ∉ t) (hcolon : ':' ∉ t)
    (hkept : ∀ c ∈ t, isDropped c = false) : IsVerbatim t := by
  have hpart : ∀ p ∈ parts t, p ⊆ t := by
    intro p hp c hc
    rw [← flatten_parts t]
    exact List.mem_flatten.mpr ⟨p, hp, hc⟩
  refine ⟨hkept, ?_, ?_, ?_⟩
  · intro p hp hescaped
    exact hslash (hpart p hp (hescaped.subset (by simp)))
  · intro p hp
    exact picturesFrom_eq_self fun hc => hcolon (hpart p hp hc)
  · have hnone : slashes t.reverse = 0 := by
      cases hlast : t.reverse with
      | nil => rfl
      | cons c u =>
        have hc : c ≠ '\\' := by
          rintro rfl
          exact hslash (List.mem_reverse.mp (hlast ▸ List.mem_cons_self))
        simp [slashes, hc]
    rw [hnone]
    decide

/-- The characters that are shown of console text, before it is cut into lines. -/
def characters (t : Text) : Except MarkupError Text := (render t).map fun cs => cs.map (·.char)

end Markup

/-! ### Labels of literals -/

namespace Literal

/-- The words of the label of a literal without their styles. -/
def heading (l : Literal ν) : Text := (if l.negated then "NOT ".toList else []) ++ l.kind.name

theorem map_char_shown_words (l : Literal ν) :
    (LabelWord.shown l.words).map (·.char) = l.heading := by
  unfold words heading
  cases l.negated <;> simp [LabelWord.shown, Function.comp_def]

/-- **What the label of a literal shows**: its words in their styles and its text in none. -/
theorem render_label (l : Literal ν) :
    Markup.render l.label = .ok (LabelWord.shown l.words
      ++ (' ' :: Markup.shownText l.text).map (⟨·, []⟩)) := by
  obtain ⟨w, ws, hwords⟩ := l.exists_words_eq_cons
  have hshown := l.isShown_words
  have hblank := Markup.flatMap_shown_partsFrom_blank l.text []
  rw [hwords] at hshown
  rw [List.nil_append] at hblank
  rw [Markup.render, Markup.split, l.label_eq, hwords, Markup.renderFrom_words hshown,
    Markup.splitFrom_blank, Markup.escape_eq, Markup.renderFrom_escapeFrom, hblank]
  rfl

theorem characters_label (l : Literal ν) :
    Markup.characters l.label = .ok (l.heading ++ ' ' :: Markup.shownText l.text) := by
  rw [Markup.characters, l.render_label, Except.map, List.map_append, l.map_char_shown_words,
    List.map_map]
  simp [Function.comp_def]

end Literal
end QueryTree
