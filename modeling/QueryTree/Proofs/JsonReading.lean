import QueryTree.Proofs.Hex
import QueryTree.Proofs.SelfDelimiting
import QueryTree.Proofs.Text
import QueryTree.Proofs.Tree
import QueryTree.Query.Json

/-!
# Trees can be told apart by their JSON

The JSON of a tree is nested text on many lines, and the texts of literals stand in it between
quotes.  No text of a literal can imitate the structure around it: every character is written in a
form that can be read back and does not start with a quote, so a string shows where it ends, and
with the strings everything that is built from them does.  Hence two trees have the same JSON only
if they are the same query.

## Main definitions

* `Json.readChar`: the character that is written at the front of a text.
* `Json.blockRest`: what stands behind the first item of a block.

## Main results

* `Json.readChar_char` — a written character is read back, by its UTF-16 code units if it has to be.
* `Json.selfDelimiting_string` — a string shows where it ends.
* `Node.selfDelimiting_jsonAt` — **the JSON of a tree shows where it ends.**
* `Node.json_eq_json_iff` — **two trees have the same JSON exactly when they are the same query.**
-/

namespace QueryTree

variable {ν μ : Type}

namespace Json

/-! ### Characters -/

/-- The character that a letter behind a backslash stands for. -/
def letter? : Char → Option Char
  | '"' => some '"'
  | '\\' => some '\\'
  | 'n' => some '\n'
  | 'r' => some '\r'
  | 't' => some '\t'
  | 'b' => some '\x08'
  | 'f' => some '\x0c'
  | _ => none

/-- The character of a pair of code units, each of which takes its part of the offset above the
first sixteen bits. -/
def ofPair (high low : Nat) : Char := .ofNat (0x10000 + (high - 0xd800) * 0x400 + (low - 0xdc00))

/-- The character that is written at the front of a text, and what stands behind it. -/
def readChar : Text → Option (Char × Text)
  | [] => none
  | '\\' :: 'u' :: s =>
    let n := Text.toNumber 16 (s.take 4)
    if 0xd800 ≤ n ∧ n < 0xdc00 then
      some (ofPair n (Text.toNumber 16 ((s.drop 6).take 4)), s.drop 10)
    else some (.ofNat n, s.drop 4)
  | '\\' :: c :: s => (letter? c).map fun d => (d, s)
  | c :: s => some (c, s)

theorem take_hex_four {n : Nat} (hn : n < 0x10000) (s : Text) :
    (Text.hex 4 n ++ s).take 4 = Text.hex 4 n := Text.take_hex_append (by decide) hn s

theorem drop_hex_four {n : Nat} (hn : n < 0x10000) (s : Text) :
    (Text.hex 4 n ++ s).drop 4 = s := Text.drop_hex_append (by decide) hn s

/-- A code unit that stands for a character by itself. -/
theorem readChar_unit {n : Nat} (hn : n < 0x10000) (hunpaired : ¬(0xd800 ≤ n ∧ n < 0xdc00))
    (s : Text) : readChar (unit n ++ s) = some (.ofNat n, s) := by
  show readChar ('\\' :: 'u' :: (Text.hex 4 n ++ s)) = _
  simp only [readChar, take_hex_four hn, drop_hex_four hn, Text.toNumber_hex, if_neg hunpaired]

/-- Two code units that stand for a character together. -/
theorem readChar_pair {high low : Nat} (hhigh : 0xd800 ≤ high ∧ high < 0xdc00)
    (hlow : low < 0x10000) (s : Text) :
    readChar (unit high ++ (unit low ++ s)) = some (ofPair high low, s) := by
  have hn : high < 0x10000 := by omega
  have hsix : (Text.hex 4 high ++ (unit low ++ s)).drop 6 = Text.hex 4 low ++ s := by
    rw [show 6 = 4 + 2 from rfl, ← List.drop_drop, drop_hex_four hn]
    rfl
  have hten : (Text.hex 4 high ++ (unit low ++ s)).drop 10 = s := by
    rw [show 10 = 6 + 4 from rfl, ← List.drop_drop, hsix, drop_hex_four hlow]
  show readChar ('\\' :: 'u' :: (Text.hex 4 high ++ (unit low ++ s))) = _
  simp only [readChar, take_hex_four hn, hsix, hten, take_hex_four hlow, Text.toNumber_hex,
    if_pos hhigh]

/-- No character is a code unit of a pair. -/
theorem not_surrogate (c : Char) : ¬(0xd800 ≤ c.toNat ∧ c.toNat < 0xdc00) := by
  have hvalid : c.toNat < 0xd800 ∨ 0xdfff < c.toNat ∧ c.toNat < 0x110000 := c.valid
  omega

theorem toNat_lt (c : Char) : c.toNat < 0x110000 := by
  have hvalid : c.toNat < 0xd800 ∨ 0xdfff < c.toNat ∧ c.toNat < 0x110000 := c.valid
  omega

/-- **A written character is read back**, whatever stands behind it. -/
theorem readChar_char (c : Char) (s : Text) : readChar (char c ++ s) = some (c, s) := by
  unfold char
  split
  · next hc => subst hc; rfl
  split
  · next hc => subst hc; rfl
  next hslash =>
  split
  · next hc => subst hc; rfl
  split
  · next hc => subst hc; rfl
  split
  · next hc => subst hc; rfl
  split
  · next hc => subst hc; rfl
  split
  · next hc => subst hc; rfl
  split
  · -- a visible character stands for itself
    show readChar (c :: s) = _
    simp [readChar, hslash]
  split
  · next hlt =>
    rw [readChar_unit hlt (not_surrogate c), Char.ofNat_toNat]
  · next hge =>
    -- the two units hold the quotient and the remainder of the offset
    have hlt := toNat_lt c
    have hhigh : (c.toNat - 0x10000) / 0x400 < 0x400 := by omega
    have hlow : (c.toNat - 0x10000) % 0x400 < 0x400 := Nat.mod_lt _ (by decide)
    have hsum : 0x10000 + (0xd800 + (c.toNat - 0x10000) / 0x400 - 0xd800) * 0x400
        + (0xdc00 + (c.toNat - 0x10000) % 0x400 - 0xdc00) = c.toNat := by omega
    rw [List.append_assoc, readChar_pair ⟨by omega, by omega⟩ (by omega), ofPair, hsum,
      Char.ofNat_toNat]

theorem visible_of_mem_unit {n : Nat} {d : Char} (hd : d ∈ unit n) : 32 ≤ d.toNat := by
  rw [unit, List.mem_cons, List.mem_cons] at hd
  rcases hd with rfl | rfl | hd
  · decide
  · decide
  · -- no digit is a control character
    have hdigit := Text.isDigitOf_of_mem_hex 4 n d hd
    by_contra hlt
    have hcontrol : ∀ k : Fin 32, Text.isDigitOf 16 (Char.ofNat k) = false := by decide
    have hnot := hcontrol ⟨d.toNat, by omega⟩
    rw [Char.ofNat_toNat, hdigit] at hnot
    cases hnot

/-- The forms of a written character: the character itself, if it is visible and no quote, or an
escape; and no form has a control character in it. -/
theorem char_cases (c : Char) :
    (char c = [c] ∧ c ≠ '"' ∧ 32 ≤ c.toNat) ∨
      ∃ u, char c = '\\' :: u ∧ ∀ d ∈ u, 32 ≤ d.toNat := by
  have hletter : ∀ e : Char, 32 ≤ e.toNat →
      ∃ u, ['\\', e] = '\\' :: u ∧ ∀ d ∈ u, 32 ≤ d.toNat := by
    intro e he
    exact ⟨[e], rfl, by simpa using he⟩
  unfold char
  split
  · exact Or.inr (hletter '"' (by decide))
  next hquote =>
  split
  · exact Or.inr (hletter '\\' (by decide))
  split
  · exact Or.inr (hletter 'n' (by decide))
  split
  · exact Or.inr (hletter 'r' (by decide))
  split
  · exact Or.inr (hletter 't' (by decide))
  split
  · exact Or.inr (hletter 'b' (by decide))
  split
  · exact Or.inr (hletter 'f' (by decide))
  split
  · next hvisible => exact Or.inl ⟨rfl, hquote, hvisible.1⟩
  split
  · exact Or.inr ⟨_, rfl, fun d hd => visible_of_mem_unit (List.mem_cons_of_mem _ hd)⟩
  · refine Or.inr ⟨_, rfl, fun d hd => ?_⟩
    have hmem : d ∈ unit (0xd800 + (c.toNat - 0x10000) / 0x400)
        ++ unit (0xdc00 + (c.toNat - 0x10000) % 0x400) := List.mem_cons_of_mem '\\' hd
    exact (List.mem_append.mp hmem).elim visible_of_mem_unit visible_of_mem_unit

/-- **A string shows where it ends.** -/
theorem selfDelimiting_string (t : Text) : Text.SelfDelimiting string t := by
  have hchar := Text.selfDelimiting_of_read readChar readChar_char
  have hstart : ∀ c, ∃ d u, char c = d :: u ∧ d ≠ '"' := by
    intro c
    rcases char_cases c with ⟨hc, hquote, -⟩ | ⟨u, hc, -⟩
    · exact ⟨c, [], hc, hquote⟩
    · exact ⟨'\\', u, hc, by decide⟩
  intro u r s h
  exact Text.selfDelimiting_flatMap hchar hstart t u r s (List.cons.inj h).2

theorem selfDelimiting_boolean : ∀ b, Text.SelfDelimiting boolean b :=
  Text.selfDelimiting_of_head? (by decide) (by decide)

/-! ### Blocks -/

/-- What stands behind the first item of a block: the other items and the closing bracket. -/
def blockRest (closing : Char) (level : Nat) : List Text → Text
  | [] => newline level ++ [closing]
  | t :: ts => ',' :: newline (level + 1) ++ (t ++ blockRest closing level ts)

theorem blockRest_eq_itemsRest (closing : Char) (level : Nat) (ts : List Text) :
    blockRest closing level ts
      = Text.itemsRest (',' :: newline (level + 1)) (newline level ++ [closing]) ts := by
  induction ts with
  | nil => rfl
  | cons t ts ih => rw [blockRest, ih, Text.itemsRest]

theorem joinWith_append_blockRest (closing : Char) (level : Nat) (t : Text) (ts : List Text) :
    Text.joinWith (',' :: newline (level + 1)) (t :: ts) ++ (newline level ++ [closing])
      = t ++ blockRest closing level ts := by
  rw [blockRest_eq_itemsRest, Text.joinWith_append_itemsRest]

theorem block_cons (opening closing : Char) (level : Nat) (t : Text) (ts : List Text) :
    block opening closing level (t :: ts)
      = opening :: newline (level + 1) ++ (t ++ blockRest closing level ts) := by
  rw [block, List.append_assoc, List.append_assoc, joinWith_append_blockRest]

/-- The items of a block can be told apart, if each of them shows where it ends: behind an item
stands a comma, or the line with the closing bracket. -/
theorem eq_of_blockRest_append {α : Type} {write : α → Text} {closing : Char} {level : Nat}
    {as bs : List α} {s t : Text} (has : ∀ a ∈ as, Text.SelfDelimiting write a)
    (h : blockRest closing level (as.map write) ++ s
      = blockRest closing level (bs.map write) ++ t) :
    as = bs ∧ s = t := by
  rw [blockRest_eq_itemsRest, blockRest_eq_itemsRest] at h
  exact Text.eq_of_itemsRest_append (by simp [newline]) has h

/-! ### Objects -/

/-- What stands before the value of the first member of an object. -/
def firstKey (level : Nat) (name : Text) : Text :=
  '\x7b' :: newline (level + 1) ++ (string name ++ [':', ' '])

/-- What stands before the value of a further member of an object. -/
def nextKey (level : Nat) (name : Text) : Text :=
  ',' :: newline (level + 1) ++ (string name ++ [':', ' '])

/-- The end of an object. -/
def objectEnd (level : Nat) : Text := blockRest '\x7d' level []

/-! ### Control characters -/

/-- No control sequence starts in a string. -/
theorem escape_notMem_string (t : Text) : '\x1b' ∉ string t := by
  intro h
  simp only [string, List.cons_append, List.mem_cons, List.mem_append, List.mem_flatMap,
    List.not_mem_nil, or_false] at h
  rcases h with h | ⟨c, -, hc⟩ | h
  · cases h
  · rcases char_cases c with ⟨hchar, -, hvisible⟩ | ⟨u, hchar, hvisible⟩
    · rw [hchar, List.mem_singleton] at hc
      exact absurd (hc ▸ hvisible) (by decide)
    · rw [hchar, List.mem_cons] at hc
      rcases hc with hc | hc
      · cases hc
      · exact absurd (hvisible _ hc) (by decide)
  · cases h

theorem escape_notMem_newline (level : Nat) : '\x1b' ∉ newline level := by
  simp [newline]

theorem escape_notMem_block {opening closing : Char} (hopening : '\x1b' ≠ opening)
    (hclosing : '\x1b' ≠ closing) (level : Nat) {ts : List Text} (hts : ∀ t ∈ ts, '\x1b' ∉ t) :
    '\x1b' ∉ block opening closing level ts := by
  have hsep : '\x1b' ∉ ',' :: newline (level + 1) := by
    rw [List.mem_cons, not_or]
    exact ⟨by decide, escape_notMem_newline _⟩
  have hitems := Text.notMem_joinWith hsep hts
  simp only [block, List.cons_append, List.mem_cons, List.mem_append, List.not_mem_nil, or_false,
    not_or]
  exact ⟨hopening, ⟨⟨escape_notMem_newline _, hitems⟩, escape_notMem_newline _⟩, hclosing⟩

theorem escape_notMem_object (level : Nat) {members : List (Text × Text)}
    (hmembers : ∀ m ∈ members, '\x1b' ∉ m.2) : '\x1b' ∉ object level members := by
  refine escape_notMem_block (by decide) (by decide) level fun t ht => ?_
  obtain ⟨m, hm, rfl⟩ := List.mem_map.mp ht
  simp only [member, List.mem_append, not_or]
  exact ⟨⟨escape_notMem_string _, by decide⟩, hmembers m hm⟩

end Json

/-! ### Trees -/

theorem LiteralKind.name_injective {k k' : LiteralKind} (h : k.name = k'.name) : k = k' := by
  revert h
  cases k <;> cases k' <;> decide

theorem Connective.name_injective {op op' : Connective} (h : op.name = op'.name) : op = op' := by
  revert h
  cases op <;> cases op' <;> decide

theorem LiteralKind.name_ne_name (k : LiteralKind) (op : Connective) : k.name ≠ op.name := by
  cases k <;> cases op <;> decide

namespace Node

theorem jsonAll_eq_map (level : Nat) (ns : List (Node ν)) :
    jsonAll level ns = ns.map (jsonAt level) := by
  induction ns with
  | nil => rfl
  | cons n ns ih => rw [jsonAll, ih, List.map_cons]

/-- The parts of a literal in the order in which they are written. -/
theorem jsonAt_literal_append (level : Nat) (l : Literal ν) (s : Text) :
    (literal l).jsonAt level ++ s
      = Json.firstKey level "kind".toList ++ (Json.string l.kind.name
        ++ (Json.nextKey level "text".toList ++ (Json.string l.text
        ++ (Json.nextKey level "negated".toList ++ (Json.boolean l.negated
        ++ (Json.objectEnd level ++ s)))))) := by
  rw [jsonAt, Literal.json, Json.object]
  simp only [List.map_cons, List.map_nil, Json.block_cons, Json.blockRest, Json.member,
    Json.firstKey, Json.nextKey, Json.objectEnd, List.append_assoc, List.cons_append]

/-- The parts of a branch in the order in which they are written. -/
theorem jsonAt_branch_append (level : Nat) (op : Connective) (a b : Node ν) (rest : List (Node ν))
    (s : Text) :
    (branch op a b rest).jsonAt level ++ s
      = Json.firstKey level "kind".toList ++ (Json.string op.name
        ++ (Json.nextKey level "children".toList ++ ('[' :: Json.newline (level + 2)
        ++ (a.jsonAt (level + 2)
        ++ (Json.blockRest ']' (level + 1) ((b :: rest).map (jsonAt (level + 2)))
        ++ (Json.objectEnd level ++ s)))))) := by
  rw [jsonAt, jsonAll_eq_map, Json.object]
  simp only [List.map_cons, List.map_nil, Json.block_cons, Json.blockRest, Json.member,
    Json.firstKey, Json.nextKey, Json.objectEnd, List.append_assoc, List.cons_append]

/-- **The JSON of a tree shows where it ends**, at every level. -/
theorem selfDelimiting_jsonAt (n : Node Unit) (level : Nat) :
    Text.SelfDelimiting (jsonAt level) n := by
  -- the word for the kind tells literals from branches, and both from others of their sort
  induction n using inductionOn generalizing level with
  | literal l =>
    intro m s t h
    cases m with
    | literal l' =>
      rw [jsonAt_literal_append, jsonAt_literal_append] at h
      obtain ⟨hkind, h⟩ := Json.selfDelimiting_string _ _ _ _ (List.append_cancel_left h)
      obtain ⟨htext, h⟩ := Json.selfDelimiting_string _ _ _ _ (List.append_cancel_left h)
      obtain ⟨hnegated, h⟩ := Json.selfDelimiting_boolean _ _ _ _ (List.append_cancel_left h)
      rw [Literal.eq_of_parts (LiteralKind.name_injective hkind) htext hnegated]
      exact ⟨rfl, List.append_cancel_left h⟩
    | branch op a b rest =>
      rw [jsonAt_literal_append, jsonAt_branch_append] at h
      obtain ⟨hkind, -⟩ := Json.selfDelimiting_string _ _ _ _ (List.append_cancel_left h)
      exact absurd hkind (l.kind.name_ne_name op)
  | branch op a b rest ih =>
    rw [List.forall_mem_cons] at ih
    intro m s t h
    cases m with
    | literal l =>
      rw [jsonAt_literal_append, jsonAt_branch_append] at h
      obtain ⟨hkind, -⟩ := Json.selfDelimiting_string _ _ _ _ (List.append_cancel_left h)
      exact absurd hkind.symm (l.kind.name_ne_name op)
    | branch op' a' b' rest' =>
      rw [jsonAt_branch_append, jsonAt_branch_append] at h
      obtain ⟨hop, h⟩ := Json.selfDelimiting_string _ _ _ _ (List.append_cancel_left h)
      have h := List.append_cancel_left (List.append_cancel_left h)
      obtain ⟨ha, h⟩ := ih.1 (level + 2) a' _ _ h
      obtain ⟨hrest, h⟩ := Json.eq_of_blockRest_append (fun c hc => ih.2 c hc (level + 2)) h
      obtain ⟨hb, hrest⟩ := List.cons.inj hrest
      rw [Connective.name_injective hop, ha, hb, hrest]
      exact ⟨rfl, List.append_cancel_left h⟩

/-- Normalizers do not matter for the JSON of a tree. -/
theorem jsonAt_map (f : ν → μ) (n : Node ν) (level : Nat) :
    (n.map f).jsonAt level = n.jsonAt level := by
  induction n using inductionOn generalizing level with
  | literal l => rfl
  | branch op a b rest ih =>
    rw [List.forall_mem_cons, List.forall_mem_cons] at ih
    have hrest : rest.map (jsonAt (level + 2) ∘ map f) = rest.map (jsonAt (level + 2)) :=
      List.map_congr_left fun c hc => ih.2.2 c hc (level + 2)
    rw [map_branch, jsonAt, jsonAt, jsonAll_eq_map, jsonAll_eq_map, List.map_map, ih.1, ih.2.1,
      hrest]

/-- No control sequence starts in the JSON of a tree. -/
theorem escape_notMem_jsonAt (n : Node ν) (level : Nat) : '\x1b' ∉ n.jsonAt level := by
  induction n using inductionOn generalizing level with
  | literal l =>
    have hboolean : '\x1b' ∉ Json.boolean l.negated := by
      cases l.negated <;> decide
    apply Json.escape_notMem_object
    simpa using ⟨Json.escape_notMem_string _, Json.escape_notMem_string _, hboolean⟩
  | branch op a b rest ih =>
    rw [jsonAt, jsonAll_eq_map]
    apply Json.escape_notMem_object
    have hchildren : '\x1b' ∉ Json.block '[' ']' (level + 1)
        ((a :: b :: rest).map (jsonAt (level + 2))) := by
      refine Json.escape_notMem_block (by decide) (by decide) _ fun t ht => ?_
      obtain ⟨c, hc, rfl⟩ := List.mem_map.mp ht
      exact ih c hc (level + 2)
    simpa using ⟨Json.escape_notMem_string _, hchildren⟩

theorem escape_notMem_json (t : Option (Node ν)) : '\x1b' ∉ json t := by
  cases t with
  | none =>
    show '\x1b' ∉ "null".toList
    decide
  | some n => exact escape_notMem_jsonAt n 0

/-- **Two trees have the same JSON exactly when they are the same query**, and no tree has the JSON
of a missing one. -/
theorem json_eq_json_iff (t : Option (Node ν)) (u : Option (Node μ)) :
    json t = json u ↔ t.map erase = u.map erase := by
  have herase : ∀ {ξ : Type} (n : Node ξ), n.jsonAt 0 = n.erase.jsonAt 0 :=
    fun n => (jsonAt_map _ n 0).symm
  have hopening : ∀ n : Node Unit, n.jsonAt 0 ≠ json (none : Option (Node Unit)) := by
    intro n h
    cases n with
    | literal l => cases h
    | branch op a b rest => cases h
  match t, u with
  | none, none => exact iff_of_true rfl rfl
  | none, some n =>
    refine iff_of_false ?_ (by simp)
    rw [json, json, herase]
    exact (hopening n.erase).symm
  | some n, none =>
    refine iff_of_false ?_ (by simp)
    rw [json, json, herase]
    exact hopening n.erase
  | some n, some m =>
    rw [json, json, herase n, herase m, Option.map_some, Option.map_some, Option.some.injEq]
    exact ⟨(selfDelimiting_jsonAt n.erase 0).eq_of_eq, fun h => by rw [h]⟩

end Node
end QueryTree
