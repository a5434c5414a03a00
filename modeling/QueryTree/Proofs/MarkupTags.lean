import QueryTree.Markup.Render
import QueryTree.Proofs.Text
import QueryTree.TreeView.Outline

/-!
# Tags and what they do

A text is read as console text from tag to tag: a run of backslashes and a tag behind it are read
together, and any other character by itself.  Texts are taken apart in the same way here, so that
what is said of splitting, escaping and showing follows the tags of the text.

A closing tag is the only thing in console text that can be refused.  So a text without the
characters `[/` can be shown, and so can a message without them between a tag and its closing tag.

## Main definitions

* `Markup.IsTagBody`: what can stand between the brackets of a tag.
* `Markup.IsStyle`: a name that is compared as it is written.
* `Markup.Shows`: pieces of console text that can be shown.

## Main results

* `Markup.tagInduction` — induction over a text from tag to tag.
* `Markup.splitFrom_tag`, `Markup.splitFrom_of_none` — one step of splitting.
* `Markup.renderFrom_styled` — a word between a tag and its closing tag is shown in that style.
* `Markup.shows_of_not_infix`, `Markup.shows_message` — **what has no closing tags can be shown.**
-/

namespace QueryTree.Markup

/-! ### Tags at the front of a text -/

/-- What can stand between the brackets of a tag. -/
def IsTagBody (body : Text) : Prop :=
  ∃ c cs, body = c :: cs ∧ startsTag c = true ∧ ∀ d ∈ cs, insideTag d = true

theorem isTagBody_cons {c : Char} {cs : Text} :
    IsTagBody (c :: cs) ↔ startsTag c = true ∧ cs.all insideTag = true := by
  rw [List.all_eq_true]
  refine ⟨?_, fun h => ⟨c, cs, rfl, h⟩⟩
  rintro ⟨d, ds, hbody, h⟩
  obtain ⟨rfl, rfl⟩ := List.cons.inj hbody
  exact h

instance (body : Text) : Decidable (IsTagBody body) :=
  match body with
  | [] => .isFalse fun ⟨_, _, h, _⟩ => nomatch h
  | _ :: _ => decidable_of_iff' _ isTagBody_cons

theorem insideTag_of_startsTag {c : Char} (h : startsTag c = true) : insideTag c = true := by
  have hopen : c ≠ '[' := by
    rintro rfl
    cases h
  have hclose : c ≠ ']' := by
    rintro rfl
    cases h
  simp [insideTag, hopen, hclose]

/-- What can stand in a tag can stand in a closing tag. -/
theorem IsTagBody.close {body : Text} (h : IsTagBody body) : IsTagBody ('/' :: body) := by
  obtain ⟨c, cs, rfl, hc, hcs⟩ := h
  exact ⟨'/', c :: cs, rfl, rfl, List.forall_mem_cons.mpr ⟨insideTag_of_startsTag hc, hcs⟩⟩

theorem tagBody?_bracketed {body : Text} (hbody : IsTagBody body) (rest : Text) :
    tagBody? (bracketed body ++ rest) = some body := by
  obtain ⟨c, cs, rfl, hc, hcs⟩ := hbody
  have hstop : Text.Stops insideTag (']' :: rest) := Text.stops_cons.mpr rfl
  have htext : bracketed (c :: cs) ++ rest = '[' :: c :: (cs ++ ']' :: rest) := by
    simp [bracketed]
  rw [htext, tagBody?, Text.dropWhile_append hcs hstop, Text.takeWhile_append hcs hstop, hc]
  rfl

theorem exists_of_tagBody? {t body : Text} (h : tagBody? t = some body) :
    IsTagBody body ∧ ∃ rest, t = bracketed body ++ rest := by
  unfold tagBody? at h
  split at h
  · next c cs =>
    split at h
    · next hcond =>
      obtain rfl := Option.some.inj h
      rw [Bool.and_eq_true, decide_eq_true_eq] at hcond
      obtain ⟨rest, hrest⟩ := List.head?_eq_some_iff.mp hcond.2
      refine ⟨⟨c, _, rfl, hcond.1, fun d hd => ?_⟩, rest, ?_⟩
      · exact List.all_eq_true.mp List.all_takeWhile d hd
      · have hcs := List.takeWhile_append_dropWhile (p := insideTag) (l := cs)
        rw [hrest] at hcs
        simp [bracketed, hcs]
    · cases h
  · cases h

/-- There is no tag at the front of a text exactly if, where one starts, none is closed. -/
theorem tagBody?_eq_none_iff {c : Char} {t : Text} :
    tagBody? (c :: t) = none ↔ ∀ d ds, c = '[' → t = d :: ds → startsTag d = true →
      (ds.dropWhile insideTag).head? ≠ some ']' := by
  constructor
  · rintro h d ds rfl rfl hd hclose
    simp [tagBody?, hd, hclose] at h
  · intro h
    unfold tagBody?
    split
    · next d ds heq =>
      obtain ⟨rfl, rfl⟩ := List.cons.inj heq
      rw [if_neg]
      rw [Bool.and_eq_true, decide_eq_true_eq, not_and]
      exact h d ds rfl rfl
    · rfl

theorem tagAhead?_slash (t : Text) :
    tagAhead? ('\\' :: t) = (tagAhead? t).map fun p => (p.1 + 1, p.2) := by
  simp only [tagAhead?, slashes, List.takeWhile_cons, decide_true, if_true, List.length_cons,
    List.drop_succ_cons, Option.map_map]
  rfl

theorem tagAhead?_of_ne {c : Char} (hc : c ≠ '\\') (t : Text) :
    tagAhead? (c :: t) = (tagBody? (c :: t)).map fun body => (0, body) := by
  have hslashes : slashes (c :: t) = 0 := by simp [slashes, hc]
  rw [tagAhead?, hslashes, List.drop_zero]

theorem tagAhead?_replicate_append (count : Nat) (t : Text) :
    tagAhead? (List.replicate count '\\' ++ t) = (tagAhead? t).map fun p => (p.1 + count, p.2) := by
  induction count with
  | zero => simp
  | succ count ih =>
    rw [List.replicate_succ, List.cons_append, tagAhead?_slash, ih, Option.map_map]
    rfl

theorem tagAhead?_replicate (count : Nat) : tagAhead? (List.replicate count '\\') = none := by
  have h := tagAhead?_replicate_append count []
  rw [List.append_nil] at h
  exact h

/-- A tag is found behind the backslashes before it. -/
theorem tagAhead?_tag {body : Text} (hbody : IsTagBody body) (count : Nat) (rest : Text) :
    tagAhead? (List.replicate count '\\' ++ (bracketed body ++ rest)) = some (count, body) := by
  have hne : ('[' : Char) ≠ '\\' := by decide
  have htag : tagAhead? (bracketed body ++ rest) = some (0, body) := by
    have h := tagAhead?_of_ne hne (body ++ [']'] ++ rest)
    rw [show '[' :: (body ++ [']'] ++ rest) = bracketed body ++ rest from rfl,
      tagBody?_bracketed hbody] at h
    exact h
  rw [tagAhead?_replicate_append, htag, Option.map_some, Nat.zero_add]

/-- What is found is there. -/
theorem exists_of_tagAhead? {t : Text} {count : Nat} {body : Text}
    (h : tagAhead? t = some (count, body)) :
    IsTagBody body ∧ ∃ rest, t = List.replicate count '\\' ++ (bracketed body ++ rest) := by
  induction t generalizing count with
  | nil => simp [tagAhead?, tagBody?] at h
  | cons c t ih =>
    by_cases hc : c = '\\'
    · subst hc
      rw [tagAhead?_slash] at h
      obtain ⟨⟨k, b⟩, htag, hp⟩ := Option.map_eq_some_iff.mp h
      obtain ⟨rfl, rfl⟩ := Prod.mk.inj hp
      obtain ⟨hbody, rest, rfl⟩ := ih htag
      exact ⟨hbody, rest, by rw [List.replicate_succ, List.cons_append]⟩
    · rw [tagAhead?_of_ne hc] at h
      obtain ⟨b, htag, hp⟩ := Option.map_eq_some_iff.mp h
      obtain ⟨rfl, rfl⟩ := Prod.mk.inj hp
      obtain ⟨hbody, rest, ht⟩ := exists_of_tagBody? htag
      exact ⟨hbody, rest, by simpa using ht⟩

/-- **Induction over a text from tag to tag**: a statement holds of every text if it holds of the
empty one, is kept by a character that is not part of a tag, and by a tag with the backslashes
before it. -/
theorem tagInduction {motive : Text → Prop} (nil : motive [])
    (char : ∀ c t, tagAhead? (c :: t) = none → motive t → motive (c :: t))
    (tag : ∀ count body rest, IsTagBody body → motive rest →
      motive (List.replicate count '\\' ++ (bracketed body ++ rest))) (t : Text) : motive t := by
  induction hlen : t.length using Nat.strongRecOn generalizing t with
  | _ k ih =>
    cases t with
    | nil => exact nil
    | cons c t =>
      cases htag : tagAhead? (c :: t) with
      | none => exact char c t htag (ih t.length (by simp [← hlen]) t rfl)
      | some p =>
        obtain ⟨hbody, rest, hrest⟩ := exists_of_tagAhead? htag
        rw [hrest] at hlen ⊢
        refine tag p.1 p.2 rest hbody (ih rest.length ?_ rest rfl)
        rw [← hlen]
        simp [bracketed]
        omega

/-! ### Splitting -/

/-- Characters that belong to a piece already given are passed. -/
theorem splitFrom_skip (u v found : Text) (position : Nat) :
    splitFrom u.length position found (u ++ v) = splitFrom 0 (position + u.length) found v := by
  induction u generalizing position with
  | nil => rfl
  | cons c u ih =>
    rw [List.length_cons, List.cons_append, splitFrom, ih]
    congr 1
    omega

/-- A character that is not part of a tag is collected. -/
theorem splitFrom_of_none {c : Char} {t : Text} (h : tagAhead? (c :: t) = none) (position : Nat)
    (found : Text) :
    splitFrom 0 position found (c :: t) = splitFrom 0 (position + 1) (c :: found) t := by
  rw [splitFrom, h]

/-- A tag with the backslashes before it has a first character, at which it is found, and others,
which are passed after it was found. -/
theorem exists_tag_eq_cons (count : Nat) (body : Text) :
    ∃ c u, List.replicate count '\\' ++ bracketed body = c :: u
      ∧ u.length = span count body - 1 := by
  cases hu : List.replicate count '\\' ++ bracketed body with
  | nil => simp [bracketed] at hu
  | cons c u =>
    refine ⟨c, u, rfl, ?_⟩
    have hlen := congrArg List.length hu
    simp [bracketed] at hlen
    rw [span]
    omega

/-- A tag ends what was collected before it. -/
theorem splitFrom_tag {body : Text} (hbody : IsTagBody body) (count position : Nat)
    (found rest : Text) :
    splitFrom 0 position found (List.replicate count '\\' ++ (bracketed body ++ rest))
      = flush found ++ tagPieces position count body
        ++ splitFrom 0 (position + span count body) [] rest := by
  have htag := tagAhead?_tag hbody count rest
  obtain ⟨c, u, hu, hlen⟩ := exists_tag_eq_cons count body
  have hposition : position + 1 + u.length = position + span count body := by
    rw [hlen, span]
    omega
  rw [← List.append_assoc, hu, List.cons_append] at htag ⊢
  rw [splitFrom, htag]
  simp only [← hlen, splitFrom_skip, hposition]

/-- Backslashes that no tag follows are collected. -/
theorem splitFrom_replicate (count position : Nat) (found : Text) :
    splitFrom 0 position found (List.replicate count '\\')
      = flush (List.replicate count '\\' ++ found) := by
  induction count generalizing position found with
  | zero => rfl
  | succ count ih =>
    have hnone := tagAhead?_replicate (count + 1)
    rw [List.replicate_succ] at hnone
    rw [List.replicate_succ', List.append_assoc, List.singleton_append, ← ih (position + 1),
      ← List.replicate_succ', List.replicate_succ, splitFrom_of_none hnone]

@[simp] theorem tagPieces_zero (position : Nat) (body : Text) :
    tagPieces position 0 body = [.tag position body] := rfl

/-- A text in which there is no tag, and none either with a bracket behind it. -/
def IsWord (w : Text) : Prop :=
  ∀ position found rest, splitFrom 0 position found (w ++ '[' :: rest)
    = splitFrom 0 (position + w.length) (w.reverse ++ found) ('[' :: rest)

theorem isWord_of_all {w : Text} (hw : w.all fun c => c ≠ '[' && c ≠ '\\') : IsWord w := by
  induction w with
  | nil =>
    intro position found rest
    rfl
  | cons c w ih =>
    rw [List.all_cons, Bool.and_eq_true, Bool.and_eq_true, decide_eq_true_eq,
      decide_eq_true_eq] at hw
    intro position found rest
    have hnone : tagAhead? (c :: (w ++ '[' :: rest)) = none := by
      rw [tagAhead?_of_ne hw.1.2]
      simp [tagBody?, hw.1.1]
    rw [List.cons_append, splitFrom_of_none hnone, ih hw.2, List.length_cons,
      List.reverse_cons, List.append_assoc, List.singleton_append]
    congr 1
    omega

/-! ### Showing -/

theorem renderFrom_plain (active : List Text) (u : Text) (ps : List MarkupPiece) :
    renderFrom active (.plain u :: ps)
      = (renderFrom active ps).map ((shown u).map (⟨·, active⟩) ++ ·) := by
  rw [renderFrom]
  cases renderFrom active ps <;> rfl

/-- What was collected is shown in the styles that are open. -/
theorem renderFrom_flush (active : List Text) (found : Text) (ps : List MarkupPiece) :
    renderFrom active (flush found ++ ps)
      = (renderFrom active ps).map ((shown found.reverse).map (⟨·, active⟩) ++ ·) := by
  cases found with
  | nil =>
    show renderFrom active ps = _
    cases renderFrom active ps <;> rfl
  | cons c found => exact renderFrom_plain active _ ps

theorem renderFrom_tag {position : Nat} {body : Text} {active active' : List Text}
    (h : applyTag position body active = .ok active') (ps : List MarkupPiece) :
    renderFrom active (.tag position body :: ps) = renderFrom active' ps := by
  rw [renderFrom, h]
  rfl

/-- Plain pieces are shown in the styles that are open. -/
theorem renderFrom_of_forall_plain {ps : List MarkupPiece} (hps : ∀ p ∈ ps, ∃ u, p = .plain u)
    (active : List Text) :
    ∃ cs, renderFrom active ps = .ok cs ∧ ∀ c ∈ cs, c.styles = active := by
  induction ps with
  | nil => exact ⟨[], rfl, by simp⟩
  | cons p ps ih =>
    rw [List.forall_mem_cons] at hps
    obtain ⟨u, rfl⟩ := hps.1
    obtain ⟨cs, hcs, hstyles⟩ := ih hps.2
    refine ⟨(shown u).map (⟨·, active⟩) ++ cs, ?_, ?_⟩
    · rw [renderFrom_plain, hcs]
      rfl
    · intro c hc
      rw [List.mem_append, List.mem_map] at hc
      rcases hc with ⟨d, -, rfl⟩ | hc
      · rfl
      · exact hstyles c hc

/-- A name that is compared as it is written: it can stand in a tag, it is not a closing tag and
has no parameter, and neither its case nor white space around it is changed. -/
structure IsStyle (style : Text) : Prop where
  isTagBody : IsTagBody style
  takeWhile_eq : style.takeWhile (· ≠ '=') = style
  head?_ne : style.head? ≠ some '/'
  styleName_eq : styleName style = style

instance (style : Text) : Decidable (IsStyle style) :=
  decidable_of_iff (IsTagBody style ∧ style.takeWhile (· ≠ '=') = style
      ∧ style.head? ≠ some '/' ∧ styleName style = style)
    ⟨fun ⟨h, h', h'', h'''⟩ => ⟨h, h', h'', h'''⟩, fun ⟨h, h', h'', h'''⟩ => ⟨h, h', h'', h'''⟩⟩

/-- A style is opened. -/
theorem applyTag_open {style : Text} (h : IsStyle style) (position : Nat) (active : List Text) :
    applyTag position style active = .ok (style :: active) := by
  unfold applyTag
  rw [h.takeWhile_eq]
  split
  · next name hname => exact absurd rfl h.head?_ne
  · rw [h.styleName_eq]

/-- A style that is open is closed. -/
theorem applyTag_close {style : Text} (h : IsStyle style) (position : Nat) {active : List Text}
    (hactive : style ∈ active) :
    applyTag position ('/' :: style) active = .ok (active.erase style) := by
  have hslash : ('/' :: style).takeWhile (· ≠ '=') = '/' :: style := by
    rw [List.takeWhile_cons, h.takeWhile_eq]
    rfl
  have hcontains : active.contains style = true := by simpa using hactive
  obtain ⟨c, cs, rfl, -⟩ := h.isTagBody
  unfold applyTag
  rw [hslash]
  simp only [h.styleName_eq, hcontains, if_true]

/-- A word in a style is read as a tag, the word and the closing tag. -/
theorem splitFrom_styled {style word : Text} (hstyle : IsTagBody style) (hword : IsWord word)
    (position : Nat) (found rest : Text) :
    splitFrom 0 position found (styled style word ++ rest)
      = flush found ++ .tag position style :: (flush word.reverse
        ++ .tag (position + span 0 style + word.length) ('/' :: style)
          :: splitFrom 0 (position + (styled style word).length) [] rest) := by
  have hopen := splitFrom_tag hstyle 0 position found
    (word ++ (bracketed ('/' :: style) ++ rest))
  have hclose := splitFrom_tag hstyle.close 0 (position + span 0 style + word.length)
    word.reverse rest
  have hlen : position + (styled style word).length
      = position + span 0 style + word.length + span 0 ('/' :: style) := by
    simp [styled, bracketed, span]
    omega
  have htext : styled style word ++ rest
      = bracketed style ++ (word ++ (bracketed ('/' :: style) ++ rest)) := by
    simp [styled]
  rw [List.replicate_zero, List.nil_append] at hopen hclose
  have hpassed := hword (position + span 0 style) [] ('/' :: style ++ [']'] ++ rest)
  rw [show '[' :: ('/' :: style ++ [']'] ++ rest) = bracketed ('/' :: style) ++ rest from rfl,
    List.append_nil] at hpassed
  rw [htext, hopen, hlen, hpassed, hclose]
  simp only [tagPieces_zero, List.append_assoc, List.singleton_append]

/-- **A word between a tag and its closing tag is shown in that style**, and what was collected
before it in the styles that are open. -/
theorem renderFrom_styled {style word : Text} (hstyle : IsStyle style) (hword : IsWord word)
    (active : List Text) (position : Nat) (found rest : Text) :
    renderFrom active (splitFrom 0 position found (styled style word ++ rest))
      = (renderFrom active (splitFrom 0 (position + (styled style word).length) [] rest)).map
        ((shown found.reverse).map (⟨·, active⟩)
          ++ (shown word).map (⟨·, style :: active⟩) ++ ·) := by
  have hopened := applyTag_open hstyle position active
  have hclosed := applyTag_close hstyle (position + span 0 style + word.length)
    (List.mem_cons_self (a := style) (l := active))
  rw [List.erase_cons_head] at hclosed
  rw [splitFrom_styled hstyle.isTagBody hword, renderFrom_flush, renderFrom_tag hopened,
    renderFrom_flush, renderFrom_tag hclosed, List.reverse_reverse]
  cases renderFrom active (splitFrom 0 (position + (styled style word).length) [] rest) with
  | error e => rfl
  | ok cs => simp [Except.map]

/-! ### Texts without closing tags -/

/-- A tag that does not start with a slash opens a style. -/
theorem exists_applyTag_of_ne {c : Char} (hstarts : startsTag c = true) (hc : c ≠ '/') (cs : Text)
    (position : Nat) (active : List Text) :
    ∃ style, applyTag position (c :: cs) active = .ok (style :: active) := by
  have hequals : c ≠ '=' := by
    rintro rfl
    cases hstarts
  unfold applyTag
  rw [List.takeWhile_cons, if_pos (by simpa using hequals)]
  split
  · next name hname => exact absurd (List.cons.inj hname).1 hc
  · exact ⟨_, rfl⟩

/-- A bracket that opens a tag closes none. -/
theorem head?_dropWhile_ne_of_stops {tail : Text} (htail : Text.Stops (· ≠ '[') tail) :
    (tail.dropWhile insideTag).head? ≠ some ']' := by
  cases tail with
  | nil => simp
  | cons c tail =>
    obtain rfl : c = '[' := by simpa using htail
    simp [insideTag]

/-- A bracket behind a text makes a tag out of backslashes only. -/
theorem tagAhead?_append_of_none {t tail : Text} (h : tagAhead? t = none) (ht : ∃ c ∈ t, c ≠ '\\')
    (htail : Text.Stops (· ≠ '[') tail) : tagAhead? (t ++ tail) = none := by
  induction t with
  | nil =>
    obtain ⟨c, hc, -⟩ := ht
    cases hc
  | cons c t ih =>
    by_cases hc : c = '\\'
    · subst hc
      rw [tagAhead?_slash, Option.map_eq_none_iff] at h
      have hother : ∃ c ∈ t, c ≠ '\\' := by simpa using ht
      rw [List.cons_append, tagAhead?_slash, ih h hother, Option.map_none]
    · rw [tagAhead?_of_ne hc, Option.map_eq_none_iff] at h
      rw [List.cons_append, tagAhead?_of_ne hc, Option.map_eq_none_iff]
      rw [tagBody?_eq_none_iff] at h ⊢
      intro d ds hbracket htext hd
      cases t with
      | nil =>
        -- two brackets one behind the other start no tag
        rw [List.nil_append] at htext
        subst htext
        obtain rfl : d = '[' := by simpa using htail
        cases hd
      | cons e es =>
        obtain ⟨rfl, rfl⟩ := List.cons.inj htext
        exact Text.head?_dropWhile_append_ne (h e es hbracket rfl hd)
          (head?_dropWhile_ne_of_stops htail)

/-- Pieces of console text can be shown when some styles are open already. -/
def Shows (active : List Text) (ps : List MarkupPiece) : Prop := ∃ cs, renderFrom active ps = .ok cs

theorem Shows.flush {active : List Text} {ps : List MarkupPiece} (h : Shows active ps)
    (found : Text) : Shows active (Markup.flush found ++ ps) := by
  obtain ⟨cs, hcs⟩ := h
  rw [Shows, renderFrom_flush, hcs]
  exact ⟨_, rfl⟩

theorem Shows.plain {active : List Text} {ps : List MarkupPiece} (h : Shows active ps)
    (u : Text) : Shows active (.plain u :: ps) := by
  obtain ⟨cs, hcs⟩ := h
  rw [Shows, renderFrom_plain, hcs]
  exact ⟨_, rfl⟩

/-- A tag with backslashes before it is a tag or plain text, and can be shown if both can. -/
theorem Shows.tagPieces {active active' : List Text} {ps : List MarkupPiece} {position count : Nat}
    {body : Text} (htag : applyTag (position + count) body active = .ok active')
    (hafter : Shows active' ps) (hplain : Shows active ps) :
    Shows active (Markup.tagPieces position count body ++ ps) := by
  have hlast : Shows active ((if count % 2 = 0 then MarkupPiece.tag (position + count) body
      else .plain (bracketed body)) :: ps) := by
    split
    · rw [Shows, renderFrom_tag htag]
      exact hafter
    · exact hplain.plain _
  unfold Markup.tagPieces
  split
  · exact hlast
  · exact hlast.plain _

/-- A text without closing tags can be shown in front of a text that can be shown, also with
backslashes before it. -/
theorem shows_append (IsFine : List Text → Prop) {tail : Text}
    (hfine : ∀ style active, IsFine active → IsFine (style :: active))
    (htail : Text.Stops (· ≠ '[') tail)
    (hshows : ∀ active, IsFine active → ∀ count position found,
      Shows active (splitFrom 0 position found (List.replicate count '\\' ++ tail)))
    {t : Text} (ht : ¬['[', '/'] <:+: t) {active : List Text} (hactive : IsFine active)
    (position : Nat) (found : Text) : Shows active (splitFrom 0 position found (t ++ tail)) := by
  induction t using tagInduction generalizing active position found with
  | nil => exact hshows active hactive 0 position found
  | char c t hnone ih =>
    by_cases hslashes : ∃ d ∈ c :: t, d ≠ '\\'
    · have hnone' := tagAhead?_append_of_none hnone hslashes htail
      rw [List.cons_append] at hnone' ⊢
      rw [splitFrom_of_none hnone']
      exact ih (fun h => ht (h.trans (List.suffix_cons c t).isInfix)) hactive _ _
    · -- only backslashes are left before the tail
      have hall : c :: t = List.replicate (c :: t).length '\\' := by
        apply List.eq_replicate_of_mem
        simpa using hslashes
      rw [hall]
      exact hshows active hactive _ position found
  | tag count body rest hbody ih =>
    have hrest : ¬['[', '/'] <:+: rest := by
      intro h
      exact ht (h.trans ⟨List.replicate count '\\' ++ bracketed body, [], by simp⟩)
    have hpieces := splitFrom_tag hbody count position found (rest ++ tail)
    obtain ⟨c, cs, rfl, hc, -⟩ := hbody
    have hslash : c ≠ '/' := by
      rintro rfl
      exact ht ⟨List.replicate count '\\', cs ++ [']'] ++ rest, by simp [bracketed]⟩
    obtain ⟨style, hopen⟩ := exists_applyTag_of_ne hc hslash cs (position + count) active
    rw [List.append_assoc, List.append_assoc, hpieces, List.append_assoc]
    exact (Shows.tagPieces hopen (ih hrest (hfine style active hactive) _ _)
      (ih hrest hactive _ _)).flush found

theorem shows_flush (active : List Text) (found : Text) : Shows active (flush found) := by
  have hnil : Shows active [] := ⟨[], rfl⟩
  simpa using hnil.flush found

/-- **A text without closing tags can be shown.** -/
theorem shows_of_not_infix {t : Text} (ht : ¬['[', '/'] <:+: t) (active : List Text)
    (position : Nat) (found : Text) : Shows active (splitFrom 0 position found t) := by
  have hslashes : ∀ active : List Text, True → ∀ count position found,
      Shows active (splitFrom 0 position found (List.replicate count '\\' ++ [])) := by
    intro active _ count position found
    rw [List.append_nil, splitFrom_replicate]
    exact shows_flush active _
  rw [← List.append_nil t]
  exact shows_append (fun _ => True) (fun _ _ _ => trivial) (Text.stops_nil _) hslashes ht trivial
    position found

/-- **A message without closing tags can be shown in a style**: nothing in it closes the style
before its end. -/
theorem shows_message {style message : Text} (hstyle : IsStyle style)
    (hmessage : ¬['[', '/'] <:+: message) :
    Shows [] (split (bracketed style ++ message ++ bracketed ('/' :: style))) := by
  have hclose : ∀ active, style ∈ active → ∀ count position found,
      Shows active (splitFrom 0 position found
        (List.replicate count '\\' ++ bracketed ('/' :: style))) := by
    intro active hactive count position found
    have hpieces := splitFrom_tag hstyle.isTagBody.close count position found []
    rw [List.append_nil] at hpieces
    rw [hpieces, List.append_assoc]
    exact (Shows.tagPieces (applyTag_close hstyle _ hactive) (shows_flush _ [])
      (shows_flush _ [])).flush found
  have hopen := splitFrom_tag hstyle.isTagBody 0 0 [] (message ++ bracketed ('/' :: style))
  rw [List.replicate_zero, List.nil_append] at hopen
  rw [split, List.append_assoc, hopen]
  show Shows [] (.tag 0 style :: splitFrom 0 (0 + span 0 style) [] _)
  rw [Shows, renderFrom_tag (applyTag_open hstyle 0 [])]
  exact shows_append (style ∈ ·) (fun _ _ h => List.mem_cons_of_mem _ h) (Text.stops_cons.mpr rfl)
    hclose hmessage List.mem_cons_self _ _

end QueryTree.Markup
