import Mathlib.Data.List.Forall2
import QueryTree.Proofs.MarkupTags
import QueryTree.Proofs.Tree
import QueryTree.TreeView.Layout

/-!
# Labels of trees can be shown

The label of a literal has the text of the literal in it, and that text is escaped.  Escaping puts
an odd number of backslashes before every tag and changes nothing else, so the tags of the escaped
text are those of the text, and each of them is plain text now: whatever the text holds, none of it
is read as a tag.  The words before it are in styles that are opened and closed, so a label can be
shown, and with the labels the outline of every tree.

A label is described by its words: what is shown in a style, and where the tags stand, follows from
the words alone.

## Main definitions

* `LabelWord`, `Node.words`: the words of a label with their styles.
* `Markup.ShowsWords`: a label whose only styles and tags are those of its words.
* `Node.subtrees`, `Outline.labels`: the nodes of a tree and the labels of an outline, in order.

## Main results

* `Markup.forall_plain_splitFrom_escape` — **no part of an escaped text is a tag.**
* `Markup.renderFrom_words`, `Markup.tags_words` — what words show, and their tags.
* `Outline.exists_drawWith_ofNode` — **the outline of every tree can be drawn.**
* `Outline.showsWords_labels` — **the texts of a query neither open nor close a style.**
-/

namespace QueryTree

variable {ν : Type}

namespace Markup

/-! ### Escaped texts -/

theorem escapeFrom_skip (u v : Text) : escapeFrom u.length (u ++ v) = escapeFrom 0 v := by
  induction u with
  | nil => rfl
  | cons c u ih => rw [List.length_cons, List.cons_append, escapeFrom, ih]

theorem escapeFrom_of_none {c : Char} {t : Text} (h : tagAhead? (c :: t) = none) :
    escapeFrom 0 (c :: t) = c :: escapeFrom 0 t := by
  rw [escapeFrom, h]

/-- A tag gets one backslash more than twice as many as it had. -/
theorem escapeFrom_tag {body : Text} (hbody : IsTagBody body) (count : Nat) (rest : Text) :
    escapeFrom 0 (List.replicate count '\\' ++ (bracketed body ++ rest))
      = List.replicate (2 * count + 1) '\\' ++ (bracketed body ++ escapeFrom 0 rest) := by
  have htag := tagAhead?_tag hbody count rest
  obtain ⟨c, u, hu, hlen⟩ := exists_tag_eq_cons count body
  rw [← List.append_assoc, hu, List.cons_append] at htag
  have hescape : escapeFrom 0 (c :: (u ++ rest))
      = List.replicate (2 * count + 1) '\\' ++ bracketed body ++ escapeFrom 0 rest := by
    rw [escapeFrom, htag]
    simp only [← hlen, escapeFrom_skip]
  rw [← List.append_assoc, hu, List.cons_append, hescape, List.append_assoc]

/-- Escaping closes no tag that was open: what it adds stands before brackets. -/
theorem head?_dropWhile_escapeFrom_ne {t : Text} (h : (t.dropWhile insideTag).head? ≠ some ']')
    (extra : Nat) :
    ((escapeFrom 0 t ++ List.replicate extra '\\').dropWhile insideTag).head? ≠ some ']' := by
  have hslashes : ∀ count, ∀ c ∈ List.replicate count '\\', insideTag c = true := by
    intro count c hc
    rw [List.eq_of_mem_replicate hc]
    rfl
  induction t using tagInduction with
  | nil =>
    have hall := Text.dropWhile_append (hslashes extra) (Text.stops_nil insideTag)
    rw [List.append_nil] at hall
    rw [escapeFrom, List.nil_append, hall]
    simp
  | char c t hnone ih =>
    rw [escapeFrom_of_none hnone, List.cons_append, List.dropWhile_cons]
    rw [List.dropWhile_cons] at h
    split
    · next hc =>
      rw [if_pos hc] at h
      exact ih h
    · next hc =>
      rw [if_neg hc] at h
      exact h
  | tag count body rest hbody ih =>
    rw [escapeFrom_tag hbody, List.append_assoc, List.dropWhile_append_of_pos (hslashes _)]
    simp [bracketed, insideTag]

/-- Where a text has no tag, it has none when it is escaped. -/
theorem tagAhead?_escapeFrom {t : Text} (h : tagAhead? t = none) (extra : Nat) :
    tagAhead? (escapeFrom 0 t ++ List.replicate extra '\\') = none := by
  induction t with
  | nil => exact tagAhead?_replicate extra
  | cons c t ih =>
    rw [escapeFrom_of_none h, List.cons_append]
    by_cases hc : c = '\\'
    · subst hc
      rw [tagAhead?_slash, Option.map_eq_none_iff] at h
      rw [tagAhead?_slash, ih h, Option.map_none]
    · rw [tagAhead?_of_ne hc, Option.map_eq_none_iff, tagBody?_eq_none_iff] at h
      rw [tagAhead?_of_ne hc, Option.map_eq_none_iff, tagBody?_eq_none_iff]
      intro d ds hbracket htext hd
      have hslash : d ≠ '\\' := by
        rintro rfl
        cases hd
      cases t with
      | nil =>
        have hmem : d ∈ List.replicate extra '\\' := by
          rw [escapeFrom, List.nil_append] at htext
          simp [htext]
        exact absurd (List.eq_of_mem_replicate hmem) hslash
      | cons e es =>
        cases hnext : tagAhead? (e :: es) with
        | none =>
          rw [escapeFrom_of_none hnext, List.cons_append] at htext
          obtain ⟨rfl, rfl⟩ := List.cons.inj htext
          exact head?_dropWhile_escapeFrom_ne (h e es hbracket rfl hd) extra
        | some p =>
          -- a tag behind the bracket now has a backslash before it
          obtain ⟨hbody, rest, hrest⟩ := exists_of_tagAhead? hnext
          rw [hrest, escapeFrom_tag hbody, List.replicate_succ, List.cons_append] at htext
          exact absurd (List.cons.inj htext).1.symm hslash

/-- An odd number of backslashes makes a tag plain text. -/
theorem forall_plain_tagPieces (position count : Nat) (body : Text) :
    ∀ p ∈ tagPieces position (2 * count + 1) body, ∃ u, p = .plain u := by
  have hodd : ¬(2 * count + 1) % 2 = 0 := by omega
  intro p hp
  rw [tagPieces, if_neg hodd, List.mem_append, List.mem_singleton] at hp
  rcases hp with hp | rfl
  · split at hp
    · cases hp
    · exact ⟨_, List.mem_singleton.mp hp⟩
  · exact ⟨_, rfl⟩

theorem forall_plain_flush (found : Text) : ∀ p ∈ flush found, ∃ u, p = .plain u := by
  intro p hp
  cases found with
  | nil => cases hp
  | cons c found => exact ⟨_, List.mem_singleton.mp hp⟩

theorem forall_plain_splitFrom_escapeFrom (t : Text) (extra position : Nat) (found : Text) :
    ∀ p ∈ splitFrom 0 position found (escapeFrom 0 t ++ List.replicate extra '\\'),
      ∃ u, p = .plain u := by
  induction t using tagInduction generalizing position found with
  | nil =>
    rw [escapeFrom, List.nil_append, splitFrom_replicate]
    exact forall_plain_flush _
  | char c t hnone ih =>
    have hnone' := tagAhead?_escapeFrom hnone extra
    rw [escapeFrom_of_none hnone, List.cons_append] at hnone' ⊢
    rw [splitFrom_of_none hnone']
    exact ih _ _
  | tag count body rest hbody ih =>
    rw [escapeFrom_tag hbody, List.append_assoc, List.append_assoc, splitFrom_tag hbody,
      List.forall_mem_append, List.forall_mem_append]
    exact ⟨⟨forall_plain_flush found, forall_plain_tagPieces position count body⟩, ih _ _⟩

/-- **No part of an escaped text is a tag**, whatever was collected before it. -/
theorem forall_plain_splitFrom_escape (t found : Text) (position : Nat) :
    ∀ p ∈ splitFrom 0 position found (escape t), ∃ u, p = .plain u := by
  unfold escape closeSlash
  split
  · exact forall_plain_splitFrom_escapeFrom t 1 position found
  · have h := forall_plain_splitFrom_escapeFrom t 0 position found
    rwa [List.replicate_zero, List.append_nil] at h

end Markup

/-! ### The words of a label -/

/-- A word of a label and the style that it is in. -/
structure LabelWord where
  style : Text
  word : Text
deriving DecidableEq, Repr

namespace LabelWord

/-- Words with blanks between them as console text. -/
def markup (ws : List LabelWord) : Text :=
  Text.joinWith [' '] (ws.map fun w => Markup.styled w.style w.word)

/-- Words as they are shown: each in its style, and the blanks between them in none. -/
def shown : List LabelWord → List StyledChar
  | [] => []
  | [w] => w.word.map (⟨·, [w.style]⟩)
  | w :: w' :: ws => w.word.map (⟨·, [w.style]⟩) ++ ⟨' ', []⟩ :: shown (w' :: ws)

/-- The tags of words that start at a position: each word has one that opens its style and one
that closes it. -/
def tags (position : Nat) : List LabelWord → List (Nat × Text)
  | [] => []
  | w :: ws =>
    (position, w.style)
      :: (position + Markup.span 0 w.style + w.word.length, '/' :: w.style)
      :: tags (position + (Markup.styled w.style w.word).length + 1) ws

theorem tags_cons (w : LabelWord) (position : Nat) (ws : List LabelWord) :
    tags position (w :: ws)
      = [(position, w.style), (position + Markup.span 0 w.style + w.word.length, '/' :: w.style)]
        ++ tags (position + (Markup.styled w.style w.word).length + 1) ws := rfl

/-- A word that is shown as it is written, in its style. -/
structure IsShown (w : LabelWord) : Prop where
  isStyle : Markup.IsStyle w.style
  isWord : Markup.IsWord w.word
  shown_eq : Markup.shown w.word = w.word

theorem isShown_of_all {w : LabelWord} (hstyle : Markup.IsStyle w.style)
    (hword : w.word.all fun c => c ≠ '[' && c ≠ '\\') (hshown : Markup.shown w.word = w.word) :
    w.IsShown :=
  ⟨hstyle, Markup.isWord_of_all hword, hshown⟩

theorem markup_cons_cons_append (w w' : LabelWord) (ws : List LabelWord) (rest : Text) :
    markup (w :: w' :: ws) ++ rest
      = Markup.styled w.style w.word ++ ' ' :: (markup (w' :: ws) ++ rest) := by
  simp [markup]

theorem length_markup_cons_cons (w w' : LabelWord) (ws : List LabelWord) :
    (markup (w :: w' :: ws)).length
      = (Markup.styled w.style w.word).length + 1 + (markup (w' :: ws)).length := by
  simp [markup]
  omega

end LabelWord

namespace Markup

/-- A blank behind a word is collected. -/
theorem splitFrom_blank (position : Nat) (rest : Text) :
    splitFrom 0 position [] (' ' :: rest) = splitFrom 0 (position + 1) [' '] rest := by
  apply splitFrom_of_none
  rw [tagAhead?_of_ne (by decide)]
  rfl

/-- The tag of a piece of console text, with its position. -/
def tag? : MarkupPiece → Option (Nat × Text)
  | .plain _ => none
  | .tag position body => some (position, body)

/-- The tags among the pieces of console text, with their positions. -/
def tags (ps : List MarkupPiece) : List (Nat × Text) := ps.filterMap tag?

theorem tags_append (ps qs : List MarkupPiece) : tags (ps ++ qs) = tags ps ++ tags qs :=
  List.filterMap_append

theorem tags_of_forall_plain {ps : List MarkupPiece} (h : ∀ p ∈ ps, ∃ u, p = .plain u) :
    tags ps = [] := by
  rw [tags, List.filterMap_eq_nil_iff]
  intro p hp
  obtain ⟨u, rfl⟩ := h p hp
  rfl

theorem tags_tag_cons (position : Nat) (body : Text) (ps : List MarkupPiece) :
    tags (.tag position body :: ps) = (position, body) :: tags ps := rfl

theorem tags_flush_append (found : Text) (ps : List MarkupPiece) :
    tags (flush found ++ ps) = tags ps := by
  rw [tags_append, tags_of_forall_plain (forall_plain_flush found), List.nil_append]

/-- **Words are shown in their styles**, and the rest of the text as if it stood alone. -/
theorem renderFrom_words {w : LabelWord} {ws : List LabelWord} (h : ∀ v ∈ w :: ws, v.IsShown)
    (position : Nat) (found rest : Text) :
    renderFrom [] (splitFrom 0 position found (LabelWord.markup (w :: ws) ++ rest))
      = (renderFrom []
          (splitFrom 0 (position + (LabelWord.markup (w :: ws)).length) [] rest)).map
        ((shown found.reverse).map (⟨·, []⟩) ++ LabelWord.shown (w :: ws) ++ ·) := by
  induction ws generalizing w position found with
  | nil =>
    have hw := h w List.mem_cons_self
    have hrender := renderFrom_styled hw.isStyle hw.isWord [] position found rest
    rw [hw.shown_eq] at hrender
    exact hrender
  | cons w' ws ih =>
    rw [List.forall_mem_cons] at h
    have hblank : shown [' '].reverse = [' '] := rfl
    rw [LabelWord.markup_cons_cons_append, renderFrom_styled h.1.isStyle h.1.isWord,
      splitFrom_blank, ih h.2, h.1.shown_eq, hblank, LabelWord.length_markup_cons_cons]
    simp only [← Nat.add_assoc]
    cases renderFrom [] _ with
    | error e => rfl
    | ok cs => simp [Except.map, LabelWord.shown]

theorem tags_styled {w : LabelWord} (h : w.IsShown) (position : Nat) (found rest : Text) :
    tags (splitFrom 0 position found (styled w.style w.word ++ rest))
      = [(position, w.style), (position + span 0 w.style + w.word.length, '/' :: w.style)]
        ++ tags (splitFrom 0 (position + (styled w.style w.word).length) [] rest) := by
  rw [splitFrom_styled h.isStyle.isTagBody h.isWord, tags_flush_append, tags_tag_cons,
    tags_flush_append, tags_tag_cons]
  rfl

/-- The tags of words are those of their styles, and the tags of a rest come behind them. -/
theorem tags_words {w : LabelWord} {ws : List LabelWord} (h : ∀ v ∈ w :: ws, v.IsShown)
    (position : Nat) (found rest : Text) :
    tags (splitFrom 0 position found (LabelWord.markup (w :: ws) ++ rest))
      = LabelWord.tags position (w :: ws)
        ++ tags (splitFrom 0 (position + (LabelWord.markup (w :: ws)).length) [] rest) := by
  induction ws generalizing w position found with
  | nil =>
    have hw := h w List.mem_cons_self
    exact tags_styled hw position found rest
  | cons w' ws ih =>
    rw [List.forall_mem_cons] at h
    rw [LabelWord.markup_cons_cons_append, tags_styled h.1, splitFrom_blank, ih h.2,
      LabelWord.length_markup_cons_cons, LabelWord.tags_cons w, List.append_assoc]
    simp only [← Nat.add_assoc]

/-- A label shows words in their styles and nothing else in a style, and its tags are those of
the words: nothing else in it is a tag. -/
structure ShowsWords (label : Text) (ws : List LabelWord) : Prop where
  exists_render : ∃ cs, render label = .ok (LabelWord.shown ws ++ cs) ∧ ∀ c ∈ cs, c.styles = []
  tags_split : tags (split label) = LabelWord.tags 0 ws

theorem showsWords_append {w : LabelWord} {ws : List LabelWord} (h : ∀ v ∈ w :: ws, v.IsShown)
    {rest : Text} (hrest : ∀ position, ∀ p ∈ splitFrom 0 position [] rest, ∃ u, p = .plain u) :
    ShowsWords (LabelWord.markup (w :: ws) ++ rest) (w :: ws) where
  exists_render := by
    obtain ⟨cs, hcs, hstyles⟩ := renderFrom_of_forall_plain (hrest _) []
    refine ⟨cs, ?_, hstyles⟩
    rw [render, split, renderFrom_words h, hcs]
    rfl
  tags_split := by
    rw [split, tags_words h, tags_of_forall_plain (hrest _), List.append_nil]

theorem showsWords_styled {w : LabelWord} (h : w.IsShown) :
    ShowsWords (styled w.style w.word) [w] := by
  have hshown : ∀ v ∈ [w], v.IsShown := by
    intro v hv
    rwa [List.mem_singleton.mp hv]
  have hnil : ∀ position, ∀ p ∈ splitFrom 0 position [] [], ∃ u, p = .plain u :=
    fun position => forall_plain_flush []
  have hshows := showsWords_append hshown hnil
  rw [List.append_nil] at hshows
  exact hshows

end Markup

/-! ### Labels -/

/-- The words of the label of a literal: one for its negation, if it is negated, and one for its
kind. -/
def Literal.words (l : Literal ν) : List LabelWord :=
  (if l.negated then [⟨queryStyle "not".toList, "NOT".toList⟩] else [])
    ++ [⟨queryStyle l.kind.name, l.kind.name⟩]

/-- The words of the label of a node. -/
def Node.words : Node ν → List LabelWord
  | .literal l => l.words
  | .branch op _ _ _ => [⟨queryStyle op.name, op.title⟩]

theorem isShown_not : LabelWord.IsShown ⟨queryStyle "not".toList, "NOT".toList⟩ :=
  LabelWord.isShown_of_all (by decide) (by decide) rfl

theorem isShown_kind (k : LiteralKind) : LabelWord.IsShown ⟨queryStyle k.name, k.name⟩ := by
  apply LabelWord.isShown_of_all <;> cases k <;> decide

theorem isShown_connective (op : Connective) :
    LabelWord.IsShown ⟨queryStyle op.name, op.title⟩ := by
  apply LabelWord.isShown_of_all <;> cases op <;> decide

/-- The label of a literal is its words and, behind a blank, its text. -/
theorem Literal.label_eq (l : Literal ν) :
    l.label = LabelWord.markup l.words ++ ' ' :: Markup.escape l.text := by
  unfold Literal.label Literal.words
  cases l.negated <;> simp [LabelWord.markup]

theorem Literal.isShown_words (l : Literal ν) : ∀ w ∈ l.words, w.IsShown := by
  intro w hw
  unfold Literal.words at hw
  rw [List.mem_append, List.mem_singleton] at hw
  rcases hw with hw | rfl
  · split at hw
    · rw [List.mem_singleton.mp hw]
      exact isShown_not
    · cases hw
  · exact isShown_kind l.kind

theorem Literal.exists_words_eq_cons (l : Literal ν) : ∃ w ws, l.words = w :: ws := by
  unfold Literal.words
  cases l.negated <;> exact ⟨_, _, rfl⟩

/-- **The label of a node shows its words in their styles and nothing else in a style**, whatever
its text holds: nothing in the text is a tag. -/
theorem Node.showsWords_label (n : Node ν) : Markup.ShowsWords n.label n.words := by
  cases n with
  | literal l =>
    obtain ⟨w, ws, hwords⟩ := l.exists_words_eq_cons
    have hshown := l.isShown_words
    rw [hwords] at hshown
    rw [Node.label, Node.words, l.label_eq, hwords]
    apply Markup.showsWords_append hshown
    intro position
    rw [Markup.splitFrom_blank]
    exact Markup.forall_plain_splitFrom_escape l.text _ _
  | branch op a b rest => exact Markup.showsWords_styled (isShown_connective op)

/-! ### Outlines -/

namespace Outline

theorem ofNodes_eq_map (ns : List (Node ν)) : ofNodes ns = ns.map ofNode := by
  induction ns with
  | nil => rfl
  | cons n ns ih => rw [ofNodes, ih, List.map_cons]

/-- An outline can be drawn if its label can be shown and what is below it can be drawn. -/
theorem exists_drawWith_node {label : Text} {below : List Outline} {color : Bool}
    (hlabel : ∃ cs, Markup.render label = .ok cs)
    (hbelow : ∀ o ∈ below, ∀ width first rest, ∃ lines,
      drawWith color width first rest o = .ok lines) (width : Nat) (first rest : Text) :
    ∃ lines, drawWith color width first rest (.node label below) = .ok lines := by
  have hall : ∀ width guide, ∃ lines, drawAll color width guide below = .ok lines := by
    induction below with
    | nil => exact fun width guide => ⟨[], rfl⟩
    | cons o os ih =>
      intro width guide
      rw [List.forall_mem_cons] at hbelow
      obtain ⟨own, hown⟩ := hbelow.1 width (guide ++ branchGuide os.isEmpty)
        (guide ++ belowGuide os.isEmpty)
      obtain ⟨others, hothers⟩ := ih hbelow.2 width guide
      refine ⟨own ++ others, ?_⟩
      rw [drawAll, hown, hothers]
      rfl
  obtain ⟨cs, hcs⟩ := hlabel
  obtain ⟨others, hothers⟩ := hall (width - 4) rest
  rw [drawWith, labelLines, hcs, hothers]
  exact ⟨_, rfl⟩

/-- **The outline of every tree can be drawn**, whatever the texts of its literals hold. -/
theorem exists_drawWith_ofNode (n : Node ν) (color : Bool) (width : Nat) (first rest : Text) :
    ∃ lines, drawWith color width first rest (ofNode n) = .ok lines := by
  induction n using Node.inductionOn generalizing width first rest with
  | literal l =>
    obtain ⟨cs, hcs, -⟩ := (Node.literal l).showsWords_label.exists_render
    exact exists_drawWith_node ⟨_, hcs⟩ (by simp) width first rest
  | branch op a b children ih =>
    rw [ofNode, ofNodes_eq_map, ← List.map_cons, ← List.map_cons]
    obtain ⟨cs, hcs, -⟩ := (Node.branch op a b children).showsWords_label.exists_render
    refine exists_drawWith_node ⟨_, hcs⟩ ?_ width first rest
    intro o ho
    obtain ⟨c, hc, rfl⟩ := List.mem_map.mp ho
    exact ih c hc

end Outline

mutual

/-- A tree and the trees below it, each before those below it. -/
def Node.subtrees : Node ν → List (Node ν)
  | .literal l => [.literal l]
  | .branch op a b rest =>
    .branch op a b rest :: (a.subtrees ++ (b.subtrees ++ Node.subtreesAll rest))

/-- The trees of a list and the trees below them. -/
def Node.subtreesAll : List (Node ν) → List (Node ν)
  | [] => []
  | n :: ns => n.subtrees ++ Node.subtreesAll ns

end

theorem Node.subtreesAll_eq_flatMap (ns : List (Node ν)) :
    Node.subtreesAll ns = ns.flatMap Node.subtrees := by
  induction ns with
  | nil => rfl
  | cons n ns ih => rw [Node.subtreesAll, ih, List.flatMap_cons]

theorem Node.subtrees_branch (op : Connective) (a b : Node ν) (rest : List (Node ν)) :
    (Node.branch op a b rest).subtrees
      = .branch op a b rest :: (a :: b :: rest).flatMap Node.subtrees := by
  rw [Node.subtrees, Node.subtreesAll_eq_flatMap, List.flatMap_cons, List.flatMap_cons]

namespace Outline

mutual

/-- The labels of an outline from the top line down. -/
def labels : Outline → List Text
  | .node label below => label :: labelsAll below

/-- The labels of the outlines of a list. -/
def labelsAll : List Outline → List Text
  | [] => []
  | o :: os => o.labels ++ labelsAll os

end

theorem labelsAll_eq_flatMap (os : List Outline) : labelsAll os = os.flatMap labels := by
  induction os with
  | nil => rfl
  | cons o os ih => rw [labelsAll, ih, List.flatMap_cons]

/-- The labels of the outline of a tree are those of the tree and of the trees below it. -/
theorem labels_ofNode (n : Node ν) : (ofNode n).labels = n.subtrees.map Node.label := by
  induction n using Node.inductionOn with
  | literal l => rfl
  | branch op a b rest ih =>
    rw [ofNode, ofNodes_eq_map, ← List.map_cons, ← List.map_cons, labels, labelsAll_eq_flatMap,
      List.flatMap_map, Node.subtrees_branch, List.map_cons, List.map_flatMap]
    exact congrArg _ (List.flatMap_congr ih)

/-- The words of the labels of a query from the top line down. -/
def words : Option (Node ν) → List (List LabelWord)
  | none => [[⟨"info".toList, "(empty query)".toList⟩]]
  | some n => n.subtrees.map Node.words

/-- **No text of a query is read as a tag in its outline**: every label can be shown, the only
characters in a style are the words of the label, and the only tags of the label are those around
its words. -/
theorem showsWords_labels (q : Option (Node ν)) :
    List.Forall₂ Markup.ShowsWords (ofQuery q).labels (words q) := by
  cases q with
  | none =>
    have hempty : LabelWord.IsShown ⟨"info".toList, "(empty query)".toList⟩ :=
      LabelWord.isShown_of_all (by decide) (by decide) rfl
    exact .cons (Markup.showsWords_styled hempty) .nil
  | some n =>
    rw [ofQuery, labels_ofNode, words, List.forall₂_map_left_iff, List.forall₂_map_right_iff,
      List.forall₂_same]
    exact fun m _ => m.showsWords_label

end Outline
end QueryTree
