import QueryTree.Proofs.Hex
import QueryTree.Proofs.SelfDelimiting
import QueryTree.Proofs.Tree
import QueryTree.Query.Describe

/-!
# Trees can be told apart by their description

A tree is written out field by field, with the texts of its literals between quotes.  Which quotes
they are depends on the text, and a text may imitate commas, brackets and the names of fields.  It
cannot imitate its closing quote: that quote is marked inside the text, and every other character is
written in a form that can be read back.  So a quoted text shows where it ends, and with it
everything that is built from quoted texts does.

## Main definitions

* `Text.readQuotedChar`: the character that is written at the front of a quoted text.

## Main results

* `Text.readQuotedChar_quotedChar` — a written character is read back, whatever the quotes.
* `Text.selfDelimiting_quoted` — a quoted text shows where it ends.
* `Node.selfDelimiting_describe` — **the description of a tree shows where it ends.**
* `Node.describe_eq_describe_iff` — **two trees have the same description exactly when they are the
  same query.**
-/

namespace QueryTree

variable {ν μ : Type}

namespace Text

/-! ### Quoted texts -/

/-- The character that is written at the front of a quoted text, and what stands behind it. -/
def readQuotedChar : Text → Option (Char × Text)
  | [] => none
  | '\\' :: 'n' :: s => some ('\n', s)
  | '\\' :: 'r' :: s => some ('\r', s)
  | '\\' :: 't' :: s => some ('\t', s)
  | '\\' :: 'x' :: s => some (.ofNat (toNumber 16 (s.take 2)), s.drop 2)
  | '\\' :: 'u' :: s => some (.ofNat (toNumber 16 (s.take 4)), s.drop 4)
  | '\\' :: 'U' :: s => some (.ofNat (toNumber 16 (s.take 8)), s.drop 8)
  | '\\' :: c :: s => some (c, s)
  | c :: s => some (c, s)

theorem quoteMark_cases (t : Text) : quoteMark t = singleQuote ∨ quoteMark t = '"' := by
  unfold quoteMark
  split
  · exact Or.inr rfl
  · exact Or.inl rfl

/-- A character that is written by its number is read back, in each of the three widths. -/
theorem readQuotedChar_hex {c letter : Char} {width : Nat} (hwidth : 0 < width)
    (hc : c.toNat < 16 ^ width)
    (hread : ∀ s, readQuotedChar ('\\' :: letter :: s)
      = some (.ofNat (toNumber 16 (s.take width)), s.drop width)) (s : Text) :
    readQuotedChar ('\\' :: letter :: hex width c.toNat ++ s) = some (c, s) := by
  rw [List.cons_append, List.cons_append, hread, take_hex_append hwidth hc,
    drop_hex_append hwidth hc, toNumber_hex, Char.ofNat_toNat]

/-- **A written character is read back**, whatever the quotes and whatever stands behind it. -/
theorem readQuotedChar_quotedChar {q : Char} (hq : q = singleQuote ∨ q = '"') (c : Char)
    (s : Text) : readQuotedChar (quotedChar q c ++ s) = some (c, s) := by
  unfold quotedChar
  split
  · next hc =>
    -- no quote is a letter of another escape
    rw [Bool.or_eq_true, decide_eq_true_eq, decide_eq_true_eq] at hc
    rcases hc with rfl | rfl
    · rcases hq with rfl | rfl <;> rfl
    · rfl
  next hmarked =>
  split
  · next hc => subst hc; rfl
  split
  · next hc => subst hc; rfl
  split
  · next hc => subst hc; rfl
  split
  · -- a printable character stands for itself
    have hslash : c ≠ '\\' := by
      rintro rfl
      simp at hmarked
    show readQuotedChar (c :: s) = _
    simp [readQuotedChar, hslash]
  split
  · next hlt => exact readQuotedChar_hex (by decide) hlt (fun _ => rfl) s
  split
  · next hlt => exact readQuotedChar_hex (by decide) hlt (fun _ => rfl) s
  · have hvalid : c.toNat < 0xd800 ∨ 0xdfff < c.toNat ∧ c.toNat < 0x110000 := c.valid
    have hlt : c.toNat < 16 ^ 8 := by omega
    exact readQuotedChar_hex (by decide) hlt (fun _ => rfl) s

/-- No written character starts with the quote in use. -/
theorem exists_quotedChar_eq_cons {q : Char} (hq : q = singleQuote ∨ q = '"') (c : Char) :
    ∃ d u, quotedChar q c = d :: u ∧ d ≠ q := by
  have hslash : '\\' ≠ q := by
    rcases hq with rfl | rfl <;> decide
  unfold quotedChar
  split
  · exact ⟨_, _, rfl, hslash⟩
  next hmarked =>
  have hc : c ≠ q := by
    rintro rfl
    simp at hmarked
  split_ifs
  · exact ⟨_, _, rfl, hslash⟩
  · exact ⟨_, _, rfl, hslash⟩
  · exact ⟨_, _, rfl, hslash⟩
  · exact ⟨_, _, rfl, hc⟩
  · exact ⟨_, _, rfl, hslash⟩
  · exact ⟨_, _, rfl, hslash⟩
  · exact ⟨_, _, rfl, hslash⟩

/-- **A quoted text shows where it ends.** -/
theorem selfDelimiting_quoted (t : Text) : SelfDelimiting quoted t := by
  intro u r s h
  -- the first character tells which quotes are used
  have hmark : quoteMark t = quoteMark u := (List.cons.inj h).1
  have hrest : t.flatMap (quotedChar (quoteMark t)) ++ [quoteMark t] ++ r
      = u.flatMap (quotedChar (quoteMark u)) ++ [quoteMark u] ++ s := (List.cons.inj h).2
  have hq := quoteMark_cases t
  rw [← hmark] at hrest
  have hchar := selfDelimiting_of_read readQuotedChar (readQuotedChar_quotedChar hq)
  exact selfDelimiting_flatMap hchar (exists_quotedChar_eq_cons hq) t u r s hrest

theorem selfDelimiting_ofBool : ∀ b, SelfDelimiting ofBool b :=
  selfDelimiting_of_head? (by decide) (by decide)

end Text

/-- The names of all nodes have different first letters. -/
theorem selfDelimiting_nodeName :
    ∀ k, Text.SelfDelimiting (Sum.elim LiteralKind.nodeName Connective.nodeName) k := by
  apply Text.selfDelimiting_of_head?
  · rintro (k | op)
    · cases k <;> decide
    · cases op <;> decide
  · rintro (k | op) (k' | op')
    · cases k <;> cases k' <;> decide
    · cases k <;> cases op' <;> decide
    · cases op <;> cases k' <;> decide
    · cases op <;> cases op' <;> decide

namespace Node

/-! ### Trees -/

/-- The parts of a literal in the order in which they are written. -/
theorem describe_literal_append (l : Literal ν) (s : Text) :
    (literal l).describe ++ s
      = l.kind.nodeName ++ ("(text=".toList ++ (l.text.quoted ++ (", negated=".toList
        ++ (Text.ofBool l.negated ++ ([')'] ++ s))))) := by
  rw [describe, Literal.describe]
  simp only [List.append_assoc]

/-- The parts of a branch in the order in which they are written. -/
theorem describe_branch_append (op : Connective) (a b : Node ν) (rest : List (Node ν)) (s : Text) :
    (branch op a b rest).describe ++ s
      = op.nodeName ++ ("(children=(".toList ++ (a.describe
        ++ (Text.itemsRest [',', ' '] [')', ')'] ((b :: rest).map describe) ++ s))) := by
  have hitems := Text.joinWith_append_itemsRest [',', ' '] [')', ')'] a.describe
    ((b :: rest).map describe)
  rw [describe, describeAll_eq_map, ← List.map_cons, ← List.append_assoc a.describe, ← hitems]
  simp only [List.append_assoc]

/-- **The description of a tree shows where it ends.** -/
theorem selfDelimiting_describe (n : Node Unit) : Text.SelfDelimiting describe n := by
  -- the name of the node comes first and tells literals from branches
  induction n using inductionOn with
  | literal l =>
    intro m s t h
    cases m with
    | literal l' =>
      rw [describe_literal_append, describe_literal_append] at h
      obtain ⟨hkind, h⟩ := selfDelimiting_nodeName (.inl l.kind) (.inl l'.kind) _ _ h
      obtain ⟨htext, h⟩ := Text.selfDelimiting_quoted _ _ _ _ (List.append_cancel_left h)
      obtain ⟨hnegated, h⟩ := Text.selfDelimiting_ofBool _ _ _ _ (List.append_cancel_left h)
      rw [Literal.eq_of_parts (Sum.inl.inj hkind) htext hnegated]
      exact ⟨rfl, List.append_cancel_left h⟩
    | branch op a b rest =>
      rw [describe_literal_append, describe_branch_append] at h
      obtain ⟨hname, -⟩ := selfDelimiting_nodeName (.inl l.kind) (.inr op) _ _ h
      cases hname
  | branch op a b rest ih =>
    rw [List.forall_mem_cons] at ih
    intro m s t h
    cases m with
    | literal l =>
      rw [describe_literal_append, describe_branch_append] at h
      obtain ⟨hname, -⟩ := selfDelimiting_nodeName (.inr op) (.inl l.kind) _ _ h
      cases hname
    | branch op' a' b' rest' =>
      rw [describe_branch_append, describe_branch_append] at h
      obtain ⟨hop, h⟩ := selfDelimiting_nodeName (.inr op) (.inr op') _ _ h
      obtain ⟨ha, h⟩ := ih.1 a' _ _ (List.append_cancel_left h)
      -- a comma goes on with the children, a bracket ends them
      obtain ⟨hrest, h⟩ := Text.eq_of_itemsRest_append (by simp) ih.2 h
      obtain ⟨hb, hrest⟩ := List.cons.inj hrest
      rw [Sum.inr.inj hop, ha, hb, hrest]
      exact ⟨rfl, h⟩

/-- Normalizers do not matter for the description of a tree. -/
theorem describe_map (f : ν → μ) (n : Node ν) : (n.map f).describe = n.describe := by
  induction n using inductionOn with
  | literal l => rfl
  | branch op a b rest ih =>
    rw [List.forall_mem_cons, List.forall_mem_cons] at ih
    have hrest : rest.map (describe ∘ map f) = rest.map describe := List.map_congr_left ih.2.2
    rw [map_branch, describe, describe, describeAll_eq_map, describeAll_eq_map, List.map_map, ih.1,
      ih.2.1, hrest]

/-- **Two trees have the same description exactly when they are the same query**, whatever their
normalizers are. -/
theorem describe_eq_describe_iff (t : Node ν) (u : Node μ) :
    t.describe = u.describe ↔ t.erase = u.erase := by
  have herase : ∀ {ξ : Type} (n : Node ξ), n.describe = n.erase.describe :=
    fun n => (describe_map _ n).symm
  rw [herase t, herase u]
  constructor
  · exact (selfDelimiting_describe t.erase).eq_of_eq
  · intro h
    rw [h]

end Node
end QueryTree
