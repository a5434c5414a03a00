import Mathlib.Data.List.Infix
import QueryTree.Normalizer
import QueryTree.Proofs.Conservation
import QueryTree.Proofs.Hex

/-!
# Characters that stand side by side

Two characters that stand side by side in a text that was put together from others stand so in one
of those, unless they met at a joint.  Separators and escapes that have neither of the characters
keep them apart, so a tree is written with two such characters side by side only if they stand so
in a literal, and hence in the query; and a quoted text has them only if the text has.

## Main results

* `Text.infix_append_cases` — where two characters stand that are side by side in a joined text.
* `Node.infix_of_infix_print` — **in a written tree, side by side means in a literal.**
* `Query.infix_of_infix_print_parse` — **in the written tree of a query, side by side means in the
  query.**
-/

namespace QueryTree

namespace Text

variable {a b : Char}

theorem startsWith_eq_true_iff {t u : Text} : startsWith t u = true ↔ u <+: t := by
  induction t generalizing u with
  | nil => cases u <;> simp [startsWith]
  | cons c t ih =>
    cases u with
    | nil => simp [startsWith]
    | cons d u =>
      rw [startsWith, Bool.and_eq_true, ih, decide_eq_true_eq, List.cons_prefix_cons]
      exact and_congr_left fun _ => eq_comm

/-- A text occurs in another one if it stands somewhere in it. -/
theorem occursIn_eq_true_iff {u t : Text} : occursIn u t = true ↔ u <:+: t := by
  induction t with
  | nil => simp [occursIn]
  | cons c t ih =>
    rw [occursIn, Bool.or_eq_true, ih, startsWith_eq_true_iff, List.infix_cons_iff]

/-- Two characters that are side by side in a joined text are so in a part of it, or they meet at
the joint. -/
theorem infix_append_cases {u v : Text} (h : [a, b] <:+: u ++ v) :
    [a, b] <:+: u ∨ [a, b] <:+: v ∨ (a ∈ u ∧ b ∈ v.head?) := by
  induction u with
  | nil => exact Or.inr (Or.inl h)
  | cons c u ih =>
    rw [List.cons_append, List.infix_cons_iff] at h
    rcases h with h | h
    · obtain ⟨rfl, hnext⟩ := List.cons_prefix_cons.mp h
      cases u with
      | nil =>
        refine Or.inr (Or.inr ⟨List.mem_cons_self, ?_⟩)
        cases v with
        | nil => simp at hnext
        | cons d v => simpa [List.cons_prefix_cons, eq_comm] using hnext
      | cons d u =>
        obtain ⟨rfl, -⟩ := List.cons_prefix_cons.mp hnext
        exact Or.inl ⟨[], u, rfl⟩
    · rcases ih h with h | h | ⟨ha, hb⟩
      · exact Or.inl (h.trans (List.suffix_cons c u).isInfix)
      · exact Or.inr (Or.inl h)
      · exact Or.inr (Or.inr ⟨List.mem_cons_of_mem c ha, hb⟩)

theorem infix_of_infix_append_left {u v : Text} (ha : a ∉ u) (h : [a, b] <:+: u ++ v) :
    [a, b] <:+: v := by
  rcases infix_append_cases h with h | h | ⟨hmem, -⟩
  · exact absurd (h.subset List.mem_cons_self) ha
  · exact h
  · exact absurd hmem ha

theorem infix_of_infix_append_right {u v : Text} (hb : b ∉ v) (h : [a, b] <:+: u ++ v) :
    [a, b] <:+: u := by
  rcases infix_append_cases h with h | h | ⟨-, hmem⟩
  · exact h
  · exact absurd (h.subset (by simp)) hb
  · exact absurd (List.mem_of_mem_head? hmem) hb

/-- Separators that have neither character keep them apart. -/
theorem exists_infix_of_infix_joinWith {sep : Text} (ha : a ∉ sep) (hb : b ∉ sep) (hne : sep ≠ [])
    {ts : List Text} (h : [a, b] <:+: joinWith sep ts) : ∃ t ∈ ts, [a, b] <:+: t := by
  match ts with
  | [] => simp at h
  | [t] => exact ⟨t, List.mem_cons_self, h⟩
  | t :: u :: ts =>
    rw [joinWith_cons_cons, List.append_assoc] at h
    rcases infix_append_cases h with h | h | ⟨-, hmem⟩
    · exact ⟨t, List.mem_cons_self, h⟩
    · obtain ⟨w, hw, hinfix⟩ :=
        exists_infix_of_infix_joinWith ha hb hne (infix_of_infix_append_left ha h)
      exact ⟨w, List.mem_cons_of_mem t hw, hinfix⟩
    · rw [List.head?_append_of_ne_nil _ hne] at hmem
      exact absurd (List.mem_of_mem_head? hmem) hb

/-- So do forms of characters, if each of them is the character itself or has neither. -/
theorem infix_of_infix_flatMap {write : Char → Text}
    (hwrite : ∀ c, write c = [c] ∨ (write c ≠ [] ∧ a ∉ write c ∧ b ∉ write c)) {t : Text}
    (h : [a, b] <:+: t.flatMap write) : [a, b] <:+: t := by
  induction t with
  | nil => simp at h
  | cons c t ih =>
    rw [List.flatMap_cons] at h
    rcases infix_append_cases h with h | h | ⟨ha, hb⟩
    · rcases hwrite c with hc | ⟨-, hc, -⟩
      · rw [hc] at h
        exact absurd h.length_le (by simp)
      · exact absurd (h.subset List.mem_cons_self) hc
    · exact (ih h).trans (List.suffix_cons c t).isInfix
    · -- they meet behind the form of `c`, so both stand for themselves
      have hself : ∀ {d e}, e ∈ write d → (e = a ∨ e = b) → write d = [d] ∧ e = d := by
        rintro d e he hab
        rcases hwrite d with hd | ⟨-, hda, hdb⟩
        · exact ⟨hd, by simpa [hd] using he⟩
        · rcases hab with rfl | rfl
          · exact absurd he hda
          · exact absurd he hdb
      obtain ⟨-, rfl⟩ := hself ha (Or.inl rfl)
      cases t with
      | nil => simp at hb
      | cons d t =>
        have hne : write d ≠ [] := by
          rcases hwrite d with hd | ⟨hd, -, -⟩
          · simp [hd]
          · exact hd
        rw [List.flatMap_cons, List.head?_append_of_ne_nil _ hne] at hb
        obtain ⟨-, rfl⟩ := hself (List.mem_of_mem_head? hb) (Or.inr rfl)
        exact ⟨[], t, rfl⟩

/-- The pieces of a text stand in it, the first of them at its front. -/
theorem exists_pieces_eq_cons (p : Char → Bool) (t : Text) :
    ∃ w ws, pieces p t = w :: ws ∧ w <+: t ∧ ∀ v ∈ ws, v <:+: t := by
  induction t with
  | nil => exact ⟨[], [], rfl, List.prefix_rfl, by simp⟩
  | cons c t ih =>
    obtain ⟨w, ws, ht, hw, hws⟩ := ih
    have hcons : ∀ {v}, v <:+: t → v <:+: c :: t :=
      fun hv => hv.trans (List.suffix_cons c t).isInfix
    rw [pieces, ht]
    split
    · refine ⟨[], w :: ws, rfl, List.nil_prefix, ?_⟩
      rw [List.forall_mem_cons]
      exact ⟨hcons hw.isInfix, fun v hv => hcons (hws v hv)⟩
    · exact ⟨c :: w, ws, rfl, List.cons_prefix_cons.mpr ⟨rfl, hw⟩, fun v hv => hcons (hws v hv)⟩

theorem infix_of_mem_pieces {p : Char → Bool} {t w : Text} (hw : w ∈ pieces p t) : w <:+: t := by
  obtain ⟨v, vs, ht, hv, hvs⟩ := exists_pieces_eq_cons p t
  rw [ht, List.mem_cons] at hw
  rcases hw with rfl | hw
  · exact hv.isInfix
  · exact hvs w hw

/-- A character is quoted as it is, or by an escape that has no bracket and no slash in it. -/
theorem quotedChar_cases {q : Char} (hq : q = singleQuote ∨ q = '"') (c : Char) :
    quotedChar q c = [c] ∨
      (quotedChar q c ≠ [] ∧ '[' ∉ quotedChar q c ∧ '/' ∉ quotedChar q c) := by
  have hhex : ∀ {d e : Char} (width n : Nat), isDigitOf 16 d = false → d ≠ '\\' → d ≠ e →
      d ∉ '\\' :: e :: hex width n := by
    intro d e width n hd hslash he hmem
    rw [List.mem_cons, List.mem_cons] at hmem
    rcases hmem with h | h | h
    · exact hslash h
    · exact he h
    · rw [isDigitOf_of_mem_hex width n d h] at hd
      cases hd
  unfold quotedChar
  split
  · next hc =>
    right
    rw [Bool.or_eq_true, decide_eq_true_eq, decide_eq_true_eq] at hc
    rcases hc with rfl | rfl
    · rcases hq with rfl | rfl <;> decide
    · decide
  split
  · exact Or.inr (by decide)
  split
  · exact Or.inr (by decide)
  split
  · exact Or.inr (by decide)
  split
  · exact Or.inl rfl
  split
  · exact Or.inr ⟨by simp, hhex 2 _ rfl (by decide) (by decide),
      hhex 2 _ rfl (by decide) (by decide)⟩
  split
  · exact Or.inr ⟨by simp, hhex 4 _ rfl (by decide) (by decide),
      hhex 4 _ rfl (by decide) (by decide)⟩
  · exact Or.inr ⟨by simp, hhex 8 _ rfl (by decide) (by decide),
      hhex 8 _ rfl (by decide) (by decide)⟩

/-- A quoted text has a bracket and a slash side by side only if the text has. -/
theorem infix_of_infix_quoted {t : Text} (h : ['[', '/'] <:+: t.quoted) : ['[', '/'] <:+: t := by
  have hmark : t.quoteMark = singleQuote ∨ t.quoteMark = '"' := by
    unfold quoteMark
    split
    · exact Or.inr rfl
    · exact Or.inl rfl
  have hkept : ∀ d : Char, d ≠ singleQuote → d ≠ '"' → d ∉ [t.quoteMark] := by
    intro d hsingle hdouble hmem
    rcases hmark with hq | hq <;> rw [hq, List.mem_singleton] at hmem
    · exact hsingle hmem
    · exact hdouble hmem
  have hinner := infix_of_infix_append_right (hkept '/' (by decide) (by decide)) h
  have hflat := infix_of_infix_append_left (u := [t.quoteMark]) (hkept '[' (by decide) (by decide))
    hinner
  exact infix_of_infix_flatMap (quotedChar_cases hmark) hflat

end Text

variable {ν : Type}

/-- **In a written tree, side by side means in a literal**, for characters that separate nothing. -/
theorem Node.infix_of_infix_print {a b : Char} (ha : a ≠ ' ' ∧ a ≠ '+') (hb : b ≠ ' ' ∧ b ≠ '+')
    {t : Node ν} (h : [a, b] <:+: t.print) : ∃ l ∈ t.leaves, [a, b] <:+: l.print := by
  induction t using Node.inductionOn with
  | literal l => exact ⟨l, List.mem_cons_self, h⟩
  | branch op x y rest ih =>
    have hsep : a ∉ op.separator ∧ b ∉ op.separator ∧ op.separator ≠ [] := by
      cases op <;> simp [Connective.separator, ha, hb]
    rw [print, printAll_eq_map, ← List.map_cons, ← List.map_cons] at h
    obtain ⟨u, hu, hinfix⟩ := Text.exists_infix_of_infix_joinWith hsep.1 hsep.2.1 hsep.2.2 h
    obtain ⟨c, hc, rfl⟩ := List.mem_map.mp hu
    obtain ⟨l, hl, hprint⟩ := ih c hc hinfix
    rw [leaves_branch]
    exact ⟨l, List.mem_flatMap.mpr ⟨c, hc, hl⟩, hprint⟩

namespace Query

/-- What is written for a literal stands in its group. -/
theorem Reads.print_infix {n : ν} {g : Text} {ls : List (Literal ν)} (h : Reads n g ls) :
    ∀ l ∈ ls, l.print <:+: g := by
  induction h with
  | nil => simp
  | @blank s ls _ ih => exact fun l hl => (ih l hl).trans (List.suffix_cons ' ' s).isInfix
  | @phrase w s ls hw _ ih =>
    rw [List.forall_mem_cons]
    refine ⟨⟨[], s, ?_⟩, fun l hl => (ih l hl).trans ⟨'"' :: (w ++ ['"']), [], ?_⟩⟩
    · simp [Literal.print, ofInner]
    · simp
  | @word w s ls _ hw _ _ ih =>
    rw [List.forall_mem_cons, print_ofRun]
    exact ⟨⟨[], s, rfl⟩, fun l hl => (ih l hl).trans (List.suffix_append w s).isInfix⟩
  | @dangling w s ls hw _ hq _ ih =>
    rw [List.forall_mem_cons, print_ofRun]
    exact ⟨⟨['"'], s, rfl⟩, fun l hl => (ih l hl).trans ⟨'"' :: w, [], by simp⟩⟩

/-- **In the written tree of a query, side by side means in the query.** -/
theorem infix_of_infix_print_parse {a b : Char} (ha : a ≠ ' ' ∧ a ≠ '+') (hb : b ≠ ' ' ∧ b ≠ '+')
    {n : ν} {q : Text} {t : Node ν} (ht : parse n q = some t) (h : [a, b] <:+: t.print) :
    [a, b] <:+: q := by
  obtain ⟨l, hl, hprint⟩ := Node.infix_of_infix_print ha hb h
  have hleaves := leavesOption_parse n q
  rw [ht] at hleaves
  have hmem : l ∈ (Text.pieces (· = '+') q).flatMap fun p => Node.leavesOption (parseGroup n p) :=
    hleaves ▸ hl
  obtain ⟨p, hp, hgroup⟩ := List.mem_flatMap.mp hmem
  obtain ⟨ls, hls⟩ := exists_reads n p
  rw [hls.leavesOption_parseGroup] at hgroup
  exact hprint.trans ((hls.print_infix l hgroup).trans (Text.infix_of_mem_pieces hp))

end Query
end QueryTree
