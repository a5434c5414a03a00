import QueryTree.Proofs.Alternatives

/-!
# The items of a group

The scanner decides locally where a literal ends.  The law of a group is global: its quotes are
paired from the left, each pair with what stands between is a phrase, the runs of other
characters outside the phrases are words, and a last quote without a partner counts only when no
word follows it.  This module states that law by positions and proves that the scanner obeys it.

The proof follows the grammar `Query.Reads`.  It cuts the group before each literal and shows
that exactly one item starts in the part that the literal takes.

## Main definitions

* `Query.quotes`, `Query.IsSpan` — the positions of quotes, and their pairs.
* `Query.IsPlain`, `Query.IsRun` — word characters outside the pairs, and maximal runs of them.
* `Query.IsItem n g p l` — the literal `l` stands at position `p` of the group `g`.

## Main results

* `Query.IsItem.unique` — a position has at most one item.
* `Query.Reads.exists_itemsFrom` — the literals of a group are its items, in order.
* `Query.parse_eq_fold_items` — **the tree of a group is the conjunction of its items.**
-/

namespace QueryTree

variable {ν : Type}

namespace Query

/-! ### The law of a group -/

/-- The positions of the quotes of a text, in order. -/
def quotes (g : Text) : List Nat := (List.range g.length).filter fun i => g[i]? = some '"'

/-- The quotes at `lo` and `hi` are a pair: quotes are paired from the left. -/
def IsSpan (g : Text) (lo hi : Nat) : Prop :=
  ∃ k, (quotes g)[2 * k]? = some lo ∧ (quotes g)[2 * k + 1]? = some hi

/-- Position `i` holds a character other than a space or a quote, outside all pairs of quotes. -/
def IsPlain (g : Text) (i : Nat) : Prop :=
  (∃ c, g[i]? = some c ∧ c ≠ ' ' ∧ c ≠ '"') ∧ ∀ lo hi, IsSpan g lo hi → i < lo ∨ hi < i

/-- The positions from `lo` up to `hi` are a maximal run of plain ones. -/
structure IsRun (g : Text) (lo hi : Nat) : Prop where
  nonempty : lo < hi
  plain : ∀ i, lo ≤ i → i < hi → IsPlain g i
  notBefore : ∀ i, i + 1 = lo → ¬ IsPlain g i
  notAfter : ¬ IsPlain g hi

/-- The quote at `p` is the last of an odd number, and no word follows it at once. -/
def IsLone (g : Text) (p : Nat) : Prop :=
  ∃ k, (quotes g).length = 2 * k + 1 ∧ (quotes g)[2 * k]? = some p ∧
    (p + 1 = g.length ∨ g[p + 1]? = some ' ')

/-- `IsItem n g p l` says that the literal `l` stands at position `p` of the group `g`. -/
inductive IsItem (n : ν) (g : Text) : Nat → Literal ν → Prop
  /-- A pair of quotes is a phrase, with its quotes and never negated. -/
  | phrase {lo hi : Nat} : IsSpan g lo hi →
      IsItem n g lo ⟨.phrase, g.slice lo (hi + 1 : Nat), false, n⟩
  /-- A maximal run outside the pairs is a word. -/
  | word {lo hi : Nat} {l : Literal ν} : IsRun g lo hi → IsWordLiteral n (g.slice lo hi) l →
      IsItem n g lo l
  /-- A quote without a partner is an empty term, if no word follows it. -/
  | lone {p : Nat} : IsLone g p → IsItem n g p ⟨.term, [], false, n⟩

/-! ### Counting quotes -/

/-- The number of quotes before a position. -/
def quotesBefore (g : Text) (i : Nat) : Nat := (g.take i).count '"'

theorem quotes_cons (c : Char) (g : Text) :
    quotes (c :: g) = (if c = '"' then [0] else []) ++ (quotes g).map (· + 1) := by
  unfold quotes
  rw [List.length_cons, List.range_succ_eq_map, List.filter_cons, List.filter_map]
  by_cases hc : c = '"' <;> simp [hc, Function.comp_def]

/-- The quote number `k` is the one with `k` quotes before it. -/
theorem getElem?_quotes {g : Text} {k p : Nat} :
    (quotes g)[k]? = some p ↔ g[p]? = some '"' ∧ quotesBefore g p = k := by
  -- a quote in front moves both the number and the position by one, another character only
  -- the position
  induction g generalizing k p with
  | nil => simp [quotes]
  | cons c g ih =>
    rw [quotes_cons]
    by_cases hc : c = '"'
    · subst hc
      rw [if_pos rfl, List.singleton_append]
      cases k with
      | zero => cases p <;> simp [quotesBefore]
      | succ k =>
        cases p with
        | zero => simp [quotesBefore]
        | succ p => simpa [quotesBefore] using ih (k := k) (p := p)
    · rw [if_neg hc, List.nil_append]
      cases p with
      | zero => simp [hc]
      | succ p => simpa [quotesBefore, hc] using ih (k := k) (p := p)

theorem length_quotes (g : Text) : (quotes g).length = g.count '"' := by
  induction g with
  | nil => rfl
  | cons c g ih =>
    rw [quotes_cons, List.length_append, List.length_map, ih, List.count_cons]
    by_cases hc : c = '"'
    · simp [hc]; omega
    · simp [hc]

theorem quotesBefore_succ (g : Text) (i : Nat) :
    quotesBefore g (i + 1) = quotesBefore g i + if g[i]? = some '"' then 1 else 0 := by
  rw [quotesBefore, List.take_add_one, List.count_append, ← quotesBefore]
  cases hi : g[i]? with
  | none => rfl
  | some c => by_cases hc : c = '"' <;> simp [hc]

theorem quotesBefore_mono (g : Text) {i j : Nat} (h : i ≤ j) :
    quotesBefore g i ≤ quotesBefore g j := by
  induction h with
  | refl => exact Nat.le_refl _
  | step _ ih =>
    rw [quotesBefore_succ]
    omega

theorem quotesBefore_lt {g : Text} {i j : Nat} (hi : g[i]? = some '"') (h : i < j) :
    quotesBefore g i < quotesBefore g j := by
  have hsucc := quotesBefore_succ g i
  rw [if_pos hi] at hsucc
  have hmono := quotesBefore_mono g h
  rw [Nat.succ_eq_add_one] at hmono
  omega

theorem quotesBefore_le_count (g : Text) (i : Nat) : quotesBefore g i ≤ g.count '"' :=
  (List.take_sublist i g).count_le _

theorem quotesBefore_lt_count {g : Text} {i : Nat} (hi : g[i]? = some '"') :
    quotesBefore g i < g.count '"' :=
  Nat.lt_of_lt_of_le (quotesBefore_lt hi (Nat.lt_succ_self i)) (quotesBefore_le_count g _)

/-- A quote is determined by the number of quotes before it. -/
theorem eq_of_quotesBefore_eq {g : Text} {i j : Nat} (hi : g[i]? = some '"')
    (hj : g[j]? = some '"') (h : quotesBefore g i = quotesBefore g j) : i = j := by
  rcases Nat.lt_trichotomy i j with hlt | heq | hlt
  · have := quotesBefore_lt hi hlt
    omega
  · exact heq
  · have := quotesBefore_lt hj hlt
    omega

theorem isSpan_iff {g : Text} {lo hi : Nat} :
    IsSpan g lo hi ↔ g[lo]? = some '"' ∧ g[hi]? = some '"' ∧
      ∃ k, quotesBefore g lo = 2 * k ∧ quotesBefore g hi = 2 * k + 1 := by
  simp only [IsSpan, getElem?_quotes]
  constructor
  · rintro ⟨k, ⟨hlo, hk⟩, hhi, hk'⟩
    exact ⟨hlo, hhi, k, hk, hk'⟩
  · rintro ⟨hlo, hhi, k, hk, hk'⟩
    exact ⟨k, ⟨hlo, hk⟩, hhi, hk'⟩

theorem isLone_iff {g : Text} {p : Nat} :
    IsLone g p ↔ g[p]? = some '"' ∧ (p + 1 = g.length ∨ g[p + 1]? = some ' ') ∧
      ∃ k, quotesBefore g p = 2 * k ∧ g.count '"' = 2 * k + 1 := by
  simp only [IsLone, getElem?_quotes, length_quotes]
  constructor
  · rintro ⟨k, hcount, ⟨hp, hk⟩, hnext⟩
    exact ⟨hp, hnext, k, hk, hcount⟩
  · rintro ⟨hp, hnext, k, hk, hcount⟩
    exact ⟨k, hcount, ⟨hp, hk⟩, hnext⟩

/-- A word character is plain when the number of quotes before it is even, and also when no quote
follows it. -/
theorem isPlain_of {g : Text} {i : Nat} {c : Char} (hi : g[i]? = some c)
    (hc : isWordChar c = true)
    (h : (∃ k, quotesBefore g i = 2 * k) ∨ ∀ j, i < j → g[j]? ≠ some '"') : IsPlain g i := by
  rw [isWordChar_eq_true] at hc
  refine ⟨⟨c, hi, hc⟩, fun lo hi' hspan => ?_⟩
  obtain ⟨hlo, hhi, m, hm, hm'⟩ := isSpan_iff.mp hspan
  by_contra hcon
  rw [not_or, Nat.not_lt, Nat.not_lt] at hcon
  -- the character is no quote, so it lies strictly between the two
  have hne : lo ≠ i := by
    rintro rfl
    exact hc.2 (Option.some.inj (hi.symm.trans hlo))
  have hne' : i ≠ hi' := by
    rintro rfl
    exact hc.2 (Option.some.inj (hi.symm.trans hhi))
  rcases h with ⟨k, heven⟩ | hnone
  · have h₁ := quotesBefore_lt hlo (show lo < i by omega)
    have h₂ := quotesBefore_mono g (show i ≤ hi' by omega)
    omega
  · exact hnone hi' (by omega) hhi

/-! ### A position has at most one item -/

theorem IsPlain.getElem?_ne_quote {g : Text} {i : Nat} (h : IsPlain g i) : g[i]? ≠ some '"' := by
  obtain ⟨⟨c, hc, -, hne⟩, -⟩ := h
  rw [hc]
  simpa using hne

theorem IsPlain.getElem?_ne_space {g : Text} {i : Nat} (h : IsPlain g i) : g[i]? ≠ some ' ' := by
  obtain ⟨⟨c, hc, hne, -⟩, -⟩ := h
  rw [hc]
  simpa using hne

theorem IsRun.isPlain {g : Text} {lo hi : Nat} (h : IsRun g lo hi) : IsPlain g lo :=
  h.plain lo (Nat.le_refl _) h.nonempty

theorem IsRun.unique {g : Text} {lo hi hi' : Nat} (h : IsRun g lo hi) (h' : IsRun g lo hi') :
    hi = hi' := by
  rcases Nat.lt_trichotomy hi hi' with hlt | heq | hlt
  · exact absurd (h'.plain hi (Nat.le_of_lt h.nonempty) hlt) h.notAfter
  · exact heq
  · exact absurd (h.plain hi' (Nat.le_of_lt h'.nonempty) hlt) h'.notAfter

/-- A quote that opens a pair is not the last of an odd number. -/
theorem not_isLone_of_isSpan {g : Text} {lo hi : Nat} (h : IsSpan g lo hi) : ¬ IsLone g lo := by
  intro hlone
  obtain ⟨-, hhi, k, hk, hk'⟩ := isSpan_iff.mp h
  obtain ⟨-, -, m, hm, hcount⟩ := isLone_iff.mp hlone
  -- the closing quote is one more than the lone quote leaves room for
  have := quotesBefore_lt_count hhi
  omega

/-- A position has at most one item. -/
theorem IsItem.unique {n : ν} {g : Text} {p : Nat} {l l' : Literal ν} (h : IsItem n g p l)
    (h' : IsItem n g p l') : l = l' := by
  cases h with
  | @phrase hi hspan =>
    obtain ⟨hlo, hhi, k, hk, hk'⟩ := isSpan_iff.mp hspan
    cases h' with
    | @phrase hi' hspan' =>
      obtain ⟨-, hhi', m, hm, hm'⟩ := isSpan_iff.mp hspan'
      obtain rfl : hi = hi' := eq_of_quotesBefore_eq hhi hhi' (by omega)
      rfl
    | word hrun _ => exact absurd hlo hrun.isPlain.getElem?_ne_quote
    | lone hlone => exact absurd hlone (not_isLone_of_isSpan hspan)
  | word hrun hl =>
    cases h' with
    | phrase hspan => exact absurd (isSpan_iff.mp hspan).1 hrun.isPlain.getElem?_ne_quote
    | word hrun' hl' =>
      obtain rfl := hrun.unique hrun'
      rw [isWordLiteral_iff.mp hl, isWordLiteral_iff.mp hl']
    | lone hlone => exact absurd (isLone_iff.mp hlone).1 hrun.isPlain.getElem?_ne_quote
  | lone hlone =>
    cases h' with
    | phrase hspan => exact absurd hlone (not_isLone_of_isSpan hspan)
    | word hrun _ => exact absurd (isLone_iff.mp hlone).1 hrun.isPlain.getElem?_ne_quote
    | lone _ => rfl

/-- An item stands at a quote or at a plain position. -/
theorem IsItem.quote_or_run {n : ν} {g : Text} {p : Nat} {l : Literal ν} (h : IsItem n g p l) :
    (g[p]? = some '"' ∧ ∃ k, quotesBefore g p = 2 * k) ∨ ∃ hi, IsRun g p hi := by
  cases h with
  | phrase hspan =>
    obtain ⟨hlo, -, k, hk, -⟩ := isSpan_iff.mp hspan
    exact Or.inl ⟨hlo, k, hk⟩
  | word hrun _ => exact Or.inr ⟨_, hrun⟩
  | lone hlone =>
    obtain ⟨hp, -, k, hk, -⟩ := isLone_iff.mp hlone
    exact Or.inl ⟨hp, k, hk⟩

/-! ### The items from a position on -/

/-- `ItemsFrom n g k items` says that `items` lists the items of `g` from position `k` on, by
position. -/
structure ItemsFrom (n : ν) (g : Text) (k : Nat) (items : List (Nat × Literal ν)) : Prop where
  sorted : items.Pairwise fun a b => a.1 < b.1
  mem_iff : ∀ p l, (p, l) ∈ items ↔ k ≤ p ∧ IsItem n g p l

/-- Positions where no item stands can be passed over. -/
theorem ItemsFrom.pass {n : ν} {g : Text} {k k' : Nat} {items : List (Nat × Literal ν)}
    (h : ItemsFrom n g k' items) (hk : k ≤ k')
    (hnone : ∀ p l, k ≤ p → p < k' → ¬ IsItem n g p l) : ItemsFrom n g k items := by
  refine ⟨h.sorted, fun p l => ?_⟩
  rw [h.mem_iff]
  constructor
  · rintro ⟨hp, hitem⟩
    exact ⟨by omega, hitem⟩
  · rintro ⟨hp, hitem⟩
    refine ⟨?_, hitem⟩
    by_contra hlt
    exact hnone p l hp (by omega) hitem

/-- An item is put in front of those that start behind it. -/
theorem ItemsFrom.cons {n : ν} {g : Text} {k k' : Nat} {items : List (Nat × Literal ν)}
    {l : Literal ν} (h : ItemsFrom n g k' items) (hk : k < k') (hitem : IsItem n g k l)
    (hnone : ∀ p m, k < p → p < k' → ¬ IsItem n g p m) : ItemsFrom n g k ((k, l) :: items) := by
  have hrest : ItemsFrom n g (k + 1) items := h.pass hk fun p m hp => hnone p m (by omega)
  constructor
  · rw [List.pairwise_cons]
    refine ⟨fun a ha => ?_, h.sorted⟩
    exact ((hrest.mem_iff a.1 a.2).mp ha).1
  · intro p m
    rw [List.mem_cons, hrest.mem_iff, Prod.mk.injEq]
    constructor
    · rintro (⟨rfl, rfl⟩ | ⟨hp, hm⟩)
      · exact ⟨Nat.le_refl _, hitem⟩
      · exact ⟨by omega, hm⟩
    · rintro ⟨hp, hm⟩
      rcases Nat.eq_or_lt_of_le hp with rfl | hlt
      · exact Or.inl ⟨rfl, hm.unique hitem⟩
      · exact Or.inr ⟨hlt, hm⟩

/-! ### The items of a part of a group

In what follows the group is `u ++ s`, cut before a literal, and position `u.length + i` of the
group is position `i` of `s`. -/

/-- What holds where the scanner stands: the quotes read so far are paired, unless there is none
ahead, and no word runs across the cut. -/
structure IsCut (u s : Text) : Prop where
  paired : (∃ k, u.count '"' = 2 * k) ∨ '"' ∉ s
  stops : Text.Stops isWordChar u.reverse ∨ Text.Stops isWordChar s

theorem getElem?_append_add (u s : Text) (i : Nat) : (u ++ s)[u.length + i]? = s[i]? := by
  rw [List.getElem?_append_right (Nat.le_add_right _ _), Nat.add_sub_cancel_left]

theorem quotesBefore_append_add (u s : Text) (i : Nat) :
    quotesBefore (u ++ s) (u.length + i) = u.count '"' + quotesBefore s i := by
  rw [quotesBefore, List.take_length_add_append, List.count_append, quotesBefore]

@[simp] theorem quotesBefore_length (u s : Text) :
    quotesBefore (u ++ s) u.length = u.count '"' := by
  rw [quotesBefore, List.take_left]

theorem quotesBefore_of_le_length {w : Text} (hw : '"' ∉ w) (s : Text) {i : Nat}
    (hi : i ≤ w.length) : quotesBefore (w ++ s) i = 0 := by
  rw [quotesBefore, List.take_append_of_le_length hi, List.count_eq_zero]
  exact fun h => hw (List.mem_of_mem_take h)

/-- No item stands at a space. -/
theorem not_isItem_of_space {n : ν} {g : Text} {p : Nat} (hp : g[p]? = some ' ') (l : Literal ν) :
    ¬ IsItem n g p l := by
  intro h
  rcases h.quote_or_run with ⟨hquote, -⟩ | ⟨hi, hrun⟩
  · rw [hp] at hquote
    simp at hquote
  · exact hrun.isPlain.getElem?_ne_space hp

/-- In a phrase one item stands, at its opening quote. -/
theorem ItemsFrom.phrase {n : ν} {u w s : Text} {items : List (Nat × Literal ν)}
    (hcut : IsCut u ('"' :: (w ++ '"' :: s))) (hw : '"' ∉ w)
    (h : ItemsFrom n (u ++ '"' :: (w ++ '"' :: s)) (u.length + (w.length + 2)) items) :
    ItemsFrom n (u ++ '"' :: (w ++ '"' :: s)) u.length ((u.length, ofInner n w) :: items) := by
  obtain ⟨k, hk⟩ := hcut.paired.resolve_right (by simp)
  have hopen : (u ++ '"' :: (w ++ '"' :: s))[u.length]? = some '"' := by simp
  have hclose : (u ++ '"' :: (w ++ '"' :: s))[u.length + (w.length + 1)]? = some '"' := by
    rw [getElem?_append_add]
    simp
  have hbefore : quotesBefore (u ++ '"' :: (w ++ '"' :: s)) u.length = 2 * k := by
    rw [quotesBefore_length, hk]
  have hinside : ∀ i, i ≤ w.length →
      quotesBefore (u ++ '"' :: (w ++ '"' :: s)) (u.length + (i + 1)) = 2 * k + 1 := by
    intro i hi
    have h := quotesBefore_of_le_length hw ('"' :: s) hi
    rw [quotesBefore_append_add, hk]
    simpa [quotesBefore] using h
  have hspan : IsSpan (u ++ '"' :: (w ++ '"' :: s)) u.length (u.length + (w.length + 1)) :=
    isSpan_iff.mpr ⟨hopen, hclose, k, hbefore, hinside _ (Nat.le_refl _)⟩
  have hitem : IsItem n (u ++ '"' :: (w ++ '"' :: s)) u.length (ofInner n w) := by
    have hslice : (u ++ '"' :: (w ++ '"' :: s)).slice u.length
        (u.length + (w.length + 1) + 1 : Nat) = '"' :: (w ++ ['"']) := by
      have hcat : u ++ '"' :: (w ++ '"' :: s) = u ++ ('"' :: (w ++ ['"']) ++ s) := by simp
      rw [hcat]
      refine Text.slice_append rfl ?_
      simp only [List.length_append, List.length_cons, List.length_nil]
      omega
    have h := IsItem.phrase (n := n) hspan
    rwa [hslice] at h
  refine h.cons (by omega) hitem fun p m hlo hhi hm => ?_
  -- up to the closing quote the number of quotes before a position is odd
  obtain ⟨i, rfl⟩ : ∃ i, p = u.length + (i + 1) := ⟨p - u.length - 1, by omega⟩
  rcases hm.quote_or_run with ⟨-, j, hj⟩ | ⟨hi, hrun⟩
  · rw [hinside i (by omega)] at hj
    omega
  · rcases hrun.isPlain.2 _ _ hspan with hlt | hlt
    · omega
    · omega

/-- The characters of a word behind a cut are plain. -/
theorem IsCut.isPlain {u w s : Text} (hcut : IsCut u (w ++ s))
    (hw : ∀ c ∈ w, isWordChar c = true) {i : Nat} (hi : i < w.length) :
    IsPlain (u ++ (w ++ s)) (u.length + i) := by
  have hchar : (u ++ (w ++ s))[u.length + i]? = some w[i] := by
    rw [getElem?_append_add, List.getElem?_append_left hi, List.getElem?_eq_getElem hi]
  refine isPlain_of hchar (hw _ (List.getElem_mem hi)) ?_
  rcases hcut.paired with ⟨k, hk⟩ | hnone
  · refine Or.inl ⟨k, ?_⟩
    rw [quotesBefore_append_add, hk,
      quotesBefore_of_le_length (ne_quote_of_mem hw) s (Nat.le_of_lt hi), Nat.add_zero]
  · refine Or.inr fun j hj hquote => ?_
    obtain ⟨j, rfl⟩ : ∃ d, j = u.length + d := ⟨j - u.length, by omega⟩
    rw [getElem?_append_add] at hquote
    exact hnone (List.mem_of_getElem? hquote)

/-- A position with no word character in it is not plain. -/
theorem not_isPlain_of {g : Text} {i : Nat} (h : ∀ c, g[i]? = some c → isWordChar c = false) :
    ¬ IsPlain g i := by
  rintro ⟨⟨c, hc, hspace, hquote⟩, -⟩
  rcases isWordChar_eq_false.mp (h c hc) with heq | heq
  · exact hspace heq
  · exact hquote heq

/-- A word behind a cut, up to where it stops, is a maximal run. -/
theorem IsCut.isRun {u w s : Text} (hcut : IsCut u (w ++ s)) (hne : w ≠ [])
    (hw : ∀ c ∈ w, isWordChar c = true) (hs : Text.Stops isWordChar s) :
    IsRun (u ++ (w ++ s)) u.length (u.length + w.length) := by
  have hpos : 0 < w.length := List.length_pos_iff.mpr hne
  constructor
  · omega
  · intro p hlo hhi
    obtain ⟨i, rfl⟩ : ∃ i, p = u.length + i := ⟨p - u.length, by omega⟩
    exact hcut.isPlain hw (by omega)
  · -- no word runs across the cut, and one starts behind it
    intro p hp
    have hstop : Text.Stops isWordChar u.reverse := by
      refine hcut.stops.resolve_right fun hstop => ?_
      cases w with
      | nil => exact hne rfl
      | cons d w =>
        rw [List.cons_append, Text.stops_cons, hw d List.mem_cons_self] at hstop
        cases hstop
    refine not_isPlain_of fun c hc => hstop c ?_
    rw [List.head?_reverse, List.getLast?_eq_getElem?, ← hp, Nat.add_sub_cancel]
    rwa [List.getElem?_append_left (by omega)] at hc
  · refine not_isPlain_of fun c hc => hs c ?_
    rwa [getElem?_append_add, List.getElem?_append_right (Nat.le_refl _), Nat.sub_self,
      ← List.head?_eq_getElem?] at hc

/-- In a word one item stands, at its start. -/
theorem ItemsFrom.word {n : ν} {u w s : Text} {items : List (Nat × Literal ν)}
    (hcut : IsCut u (w ++ s)) (hne : w ≠ []) (hw : ∀ c ∈ w, isWordChar c = true)
    (hs : Text.Stops isWordChar s)
    (h : ItemsFrom n (u ++ (w ++ s)) (u.length + w.length) items) :
    ItemsFrom n (u ++ (w ++ s)) u.length ((u.length, ofRun n w) :: items) := by
  have hpos : 0 < w.length := List.length_pos_iff.mpr hne
  have hitem : IsItem n (u ++ (w ++ s)) u.length (ofRun n w) := by
    refine .word (hcut.isRun hne hw hs) (isWordLiteral_iff.mpr ?_)
    rw [Text.slice_append rfl (by simp)]
  refine h.cons (by omega) hitem fun p m hlo hhi hm => ?_
  -- inside the word the position before is plain too
  obtain ⟨i, rfl⟩ : ∃ i, p = u.length + (i + 1) := ⟨p - u.length - 1, by omega⟩
  rcases hm.quote_or_run with ⟨hquote, -⟩ | ⟨hi, hrun⟩
  · exact (hcut.isPlain hw (by omega)).getElem?_ne_quote hquote
  · exact hrun.notBefore (u.length + i) rfl (hcut.isPlain hw (by omega))

/-- A quote without a partner is an item when no word follows it. -/
theorem ItemsFrom.lone {n : ν} {u s : Text} {items : List (Nat × Literal ν)}
    (hcut : IsCut u ('"' :: s)) (hs : Text.Stops isWordChar s) (hq : '"' ∉ s)
    (h : ItemsFrom n (u ++ '"' :: s) (u.length + 1) items) :
    ItemsFrom n (u ++ '"' :: s) u.length ((u.length, ofRun n []) :: items) := by
  obtain ⟨k, hk⟩ := hcut.paired.resolve_right (by simp)
  have hcount : (u ++ '"' :: s).count '"' = 2 * k + 1 := by
    rw [List.count_append, hk, List.count_cons_self, List.count_eq_zero.mpr hq]
  have hnext : u.length + 1 = (u ++ '"' :: s).length ∨
      (u ++ '"' :: s)[u.length + 1]? = some ' ' := by
    rw [getElem?_append_add]
    cases s with
    | nil => exact Or.inl (by simp)
    | cons c s =>
      rcases isWordChar_eq_false.mp (Text.stops_cons.mp hs) with rfl | rfl
      · exact Or.inr (by simp)
      · simp at hq
  have hlone : IsLone (u ++ '"' :: s) u.length :=
    isLone_iff.mpr ⟨by simp, hnext, k, by rw [quotesBefore_length, hk], hcount⟩
  exact h.cons (by omega) (.lone hlone) fun p m hlo hhi => by omega

/-- A quote without a partner is no item when a word follows it. -/
theorem ItemsFrom.drop_quote {n : ν} {u w s : Text} {items : List (Nat × Literal ν)}
    (hcut : IsCut u ('"' :: (w ++ s))) (hne : w ≠ []) (hw : ∀ c ∈ w, isWordChar c = true)
    (hq : '"' ∉ s) (h : ItemsFrom n (u ++ '"' :: (w ++ s)) (u.length + 1) items) :
    ItemsFrom n (u ++ '"' :: (w ++ s)) u.length items := by
  obtain ⟨k, hk⟩ := hcut.paired.resolve_right (by simp)
  have hcount : (u ++ '"' :: (w ++ s)).count '"' = 2 * k + 1 := by
    rw [List.count_append, hk, List.count_cons_self, List.count_append, List.count_eq_zero.mpr hq,
      List.count_eq_zero.mpr (ne_quote_of_mem hw)]
  have hquote : (u ++ '"' :: (w ++ s))[u.length]? = some '"' := by simp
  refine h.pass (by omega) fun p m hlo hhi hm => ?_
  obtain rfl : p = u.length := by omega
  -- the quote opens no pair, being the last one, and a word keeps it from being lone
  cases hm with
  | phrase hspan =>
    obtain ⟨-, hhi, j, hj, hj'⟩ := isSpan_iff.mp hspan
    have hlt := quotesBefore_lt_count hhi
    rw [quotesBefore_length] at hj
    omega
  | word hrun _ => exact hrun.isPlain.getElem?_ne_quote hquote
  | lone hlone =>
    obtain ⟨-, hnext, -⟩ := isLone_iff.mp hlone
    rw [getElem?_append_add] at hnext
    cases w with
    | nil => exact hne rfl
    | cons c w =>
      have hc := (isWordChar_eq_true.mp (hw c List.mem_cons_self)).1
      simp [hc] at hnext

/-! ### All items of a group -/

theorem IsCut.blank {u s : Text} (h : IsCut u (' ' :: s)) : IsCut (u ++ [' ']) s := by
  refine ⟨?_, Or.inl (by simp)⟩
  rcases h.paired with ⟨k, hk⟩ | hnone
  · exact Or.inl ⟨k, by rw [List.count_append, hk]; rfl⟩
  · exact Or.inr fun hmem => hnone (List.mem_cons_of_mem _ hmem)

theorem IsCut.phrase {u w s : Text} (h : IsCut u ('"' :: (w ++ '"' :: s))) (hw : '"' ∉ w) :
    IsCut (u ++ '"' :: (w ++ ['"'])) s := by
  obtain ⟨k, hk⟩ := h.paired.resolve_right (by simp)
  refine ⟨Or.inl ⟨k + 1, ?_⟩, Or.inl (by simp)⟩
  rw [List.count_append, hk, List.count_cons_self, List.count_append, List.count_eq_zero.mpr hw,
    List.count_singleton_self]
  omega

theorem IsCut.word {u w s : Text} (h : IsCut u (w ++ s)) (hw : ∀ c ∈ w, isWordChar c = true)
    (hs : Text.Stops isWordChar s) : IsCut (u ++ w) s := by
  refine ⟨?_, Or.inr hs⟩
  rcases h.paired with ⟨k, hk⟩ | hnone
  · refine Or.inl ⟨k, ?_⟩
    rw [List.count_append, hk, List.count_eq_zero.mpr (ne_quote_of_mem hw), Nat.add_zero]
  · exact Or.inr fun hmem => hnone (List.mem_append_right _ hmem)

/-- **The literals of a group are its items, in order.**  Behind a cut, the items of the group are
the literals that the rest of the group reads as. -/
theorem Reads.exists_itemsFrom {n : ν} {s : Text} {ls : List (Literal ν)} (h : Reads n s ls) :
    ∀ u : Text, IsCut u s →
      ∃ items, ItemsFrom n (u ++ s) u.length items ∧ items.map Prod.snd = ls := by
  induction h with
  | nil =>
    intro u _
    refine ⟨[], ⟨List.Pairwise.nil, fun p l => ?_⟩, rfl⟩
    -- behind the end of the group there is no character
    have hnone : ∀ hp : u.length ≤ p, (u ++ [])[p]? = none := by
      intro hp
      rw [List.append_nil, List.getElem?_eq_none hp]
    refine ⟨fun hmem => absurd hmem List.not_mem_nil, fun ⟨hp, hitem⟩ => ?_⟩
    rcases hitem.quote_or_run with ⟨hquote, -⟩ | ⟨hi, hrun⟩
    · rw [hnone hp] at hquote
      cases hquote
    · obtain ⟨⟨c, hc, -⟩, -⟩ := hrun.isPlain
      rw [hnone hp] at hc
      cases hc
  | @blank s ls _ ih =>
    intro u hcut
    obtain ⟨items, hitems, hls⟩ := ih (u ++ [' ']) hcut.blank
    rw [List.length_append, List.append_assoc] at hitems
    refine ⟨items, hitems.pass (by omega) fun p l hlo hhi => ?_, hls⟩
    obtain rfl : p = u.length := by rw [List.length_singleton] at hhi; omega
    exact not_isItem_of_space (by simp) l
  | @phrase w s ls hw _ ih =>
    intro u hcut
    obtain ⟨items, hitems, hls⟩ := ih (u ++ '"' :: (w ++ ['"'])) (hcut.phrase hw)
    have hcat : u ++ '"' :: (w ++ ['"']) ++ s = u ++ '"' :: (w ++ '"' :: s) := by simp
    have hlen : (u ++ '"' :: (w ++ ['"'])).length = u.length + (w.length + 2) := by simp
    rw [hcat, hlen] at hitems
    exact ⟨_, hitems.phrase hcut hw, by rw [List.map_cons, hls]⟩
  | @word w s ls hne hw hs _ ih =>
    intro u hcut
    obtain ⟨items, hitems, hls⟩ := ih (u ++ w) (hcut.word hw hs)
    rw [List.length_append, List.append_assoc] at hitems
    exact ⟨_, hitems.word hcut hne hw hs, by rw [List.map_cons, hls]⟩
  | @dangling w s ls hw hs hq _ ih =>
    intro u hcut
    obtain ⟨items, hitems, hls⟩ := ih (u ++ '"' :: w) ⟨Or.inr hq, Or.inr hs⟩
    have hcat : u ++ '"' :: w ++ s = u ++ ['"'] ++ (w ++ s) := by simp
    have hlen : (u ++ '"' :: w).length = (u ++ ['"']).length + w.length := by
      simp only [List.length_append, List.length_cons, List.length_nil]
      omega
    by_cases hne : w = []
    · subst hne
      rw [List.append_assoc, List.length_append] at hitems
      exact ⟨_, hitems.lone hcut hs hq, by rw [List.map_cons, hls]⟩
    · -- the item of the word behind the quote, and none at the quote
      have hnone : '"' ∉ w ++ s := by
        rw [List.mem_append, not_or]
        exact ⟨ne_quote_of_mem hw, hq⟩
      rw [hcat, hlen] at hitems
      have hword := hitems.word ⟨Or.inr hnone, Or.inl (by simp)⟩ hne hw hs
      rw [List.append_assoc, List.singleton_append] at hword
      rw [List.length_append, List.length_singleton] at hword
      exact ⟨_, hword.drop_quote hcut hne hw hq, by rw [List.map_cons, hls]⟩

/-- **The tree of a group is the conjunction of its items.**  The literals of a query without `+`
are its phrases, words and lone quote, ordered by position; it has no tree when there is none, and
one of them alone is the tree. -/
theorem parse_eq_fold_items (n : ν) (g : Text) (hg : '+' ∉ g) :
    ∃ items : List (Nat × Literal ν),
      items.Pairwise (fun a b => a.1 < b.1) ∧ (∀ p l, (p, l) ∈ items ↔ IsItem n g p l) ∧
        Node.leavesOption (parse n g) = items.map Prod.snd ∧
        parse n g = Node.fold .and (items.map fun i => .literal i.2) := by
  obtain ⟨ls, hls⟩ := exists_reads n g
  obtain ⟨items, hitems, rfl⟩ := hls.exists_itemsFrom [] ⟨Or.inl ⟨0, rfl⟩, Or.inl (by simp)⟩
  have htree : parse n g = Node.fold .and (items.map fun i => .literal i.2) := by
    rw [parse_of_notMem n hg, hls.parseGroup_eq, List.map_map]
    rfl
  refine ⟨items, hitems.sorted, fun p l => ?_, ?_, htree⟩
  · rw [hitems.mem_iff]
    exact and_iff_right (Nat.zero_le p)
  · rw [htree, Node.leavesOption_fold, List.flatMap_map, List.map_eq_flatMap]
    rfl

/-- The law at a group with a phrase glued to a word, a negated wildcard and a lone quote. -/
theorem parse_eq_fold_items_glued :
    '+' ∉ ['a', '"', 'b', ' ', 'c', '"', '-', 'd', '*', ' ', '"'] ∧
      ∃ items : List (Nat × Literal Unit),
        items.Pairwise (fun a b => a.1 < b.1) ∧
          (∀ p l, (p, l) ∈ items ↔
            IsItem () ['a', '"', 'b', ' ', 'c', '"', '-', 'd', '*', ' ', '"'] p l) ∧
          items.map Prod.snd = [⟨.term, ['a'], false, ()⟩,
            ⟨.phrase, ['"', 'b', ' ', 'c', '"'], false, ()⟩, ⟨.wildcard, ['d', '*'], true, ()⟩,
            ⟨.term, [], false, ()⟩] := by
  have hplus : '+' ∉ ['a', '"', 'b', ' ', 'c', '"', '-', 'd', '*', ' ', '"'] := by decide
  obtain ⟨items, hsorted, hmem, hleaves, -⟩ := parse_eq_fold_items () _ hplus
  exact ⟨hplus, items, hsorted, hmem, hleaves.symm.trans (by decide)⟩

end Query
end QueryTree
