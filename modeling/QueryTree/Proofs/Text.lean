import QueryTree.Text.Offset

/-!
# Reading a text at a place where it is cut

The scanners read a text from an offset on.  Their proofs cut the text at that offset, and the
statements here say what each reading operation gives at the cut: from the offset `u.length` on,
`u ++ v` is read as `v`.

The second half is about `Text.pieces`, the pieces of a text between the occurrences of one
character: cutting a text at one more such character cuts its list of pieces.

## Main definitions

* `Text.Stops p t`: a run of characters of class `p` ends before `t`.

## Main results

* `Text.exists_run`: every text is a run of a class, cut where the run stops.
* `Text.findFrom?_append`, `Text.at?_append`, `Text.slice_append`: reading at a cut.
* `Text.pieces_append_cons`: the pieces of a text with a separator in the middle.
-/

namespace QueryTree.Text

/-! ### Runs -/

/-- A run of characters of class `p` ends before `t`: nothing follows, or a character outside
the class does. -/
def Stops (p : Char → Bool) (t : Text) : Prop := ∀ c ∈ t.head?, p c = false

@[simp] theorem stops_nil (p : Char → Bool) : Stops p [] := by simp [Stops]

@[simp] theorem stops_cons {p : Char → Bool} {c : Char} {t : Text} :
    Stops p (c :: t) ↔ p c = false := by simp [Stops]

/-- What is put behind a text does not matter for a run before it, if it is a stop itself. -/
theorem Stops.append {p : Char → Bool} {t u : Text} (ht : Stops p t) (hu : Stops p u) :
    Stops p (t ++ u) := by
  cases t with
  | nil => exact hu
  | cons c t => simpa using ht

/-- Only the first character decides whether a text is a stop. -/
theorem stops_append_iff {p : Char → Bool} {t : Text} (ht : t ≠ []) (u : Text) :
    Stops p (t ++ u) ↔ Stops p t := by
  cases t with
  | nil => exact absurd rfl ht
  | cons c t => rw [List.cons_append, stops_cons, stops_cons]

/-- Every text is a run of a class, cut where the run stops. -/
theorem exists_run (p : Char → Bool) (t : Text) :
    ∃ w s, t = w ++ s ∧ (∀ c ∈ w, p c = true) ∧ Stops p s := by
  induction t with
  | nil => exact ⟨[], [], rfl, by simp, stops_nil p⟩
  | cons c t ih =>
    cases hc : p c with
    | false => exact ⟨[], c :: t, rfl, by simp, stops_cons.mpr hc⟩
    | true =>
      obtain ⟨w, s, rfl, hw, hs⟩ := ih
      exact ⟨c :: w, s, rfl, by simpa [hc] using hw, hs⟩

theorem takeWhile_append {p : Char → Bool} {w s : Text} (hw : ∀ c ∈ w, p c = true)
    (hs : Stops p s) : (w ++ s).takeWhile p = w := by
  rw [List.takeWhile_append_of_pos hw]
  cases s with
  | nil => simp
  | cons c s => simp [stops_cons.mp hs]

theorem dropWhile_append {p : Char → Bool} {w s : Text} (hw : ∀ c ∈ w, p c = true)
    (hs : Stops p s) : (w ++ s).dropWhile p = s := by
  rw [List.dropWhile_append_of_pos hw]
  cases s with
  | nil => rfl
  | cons c s => simp [stops_cons.mp hs]

/-- A run that does not stop at `x` in either of two texts does not stop there in both. -/
theorem head?_dropWhile_append_ne {p : Char → Bool} {x : Char} {t u : Text}
    (ht : (t.dropWhile p).head? ≠ some x) (hu : (u.dropWhile p).head? ≠ some x) :
    ((t ++ u).dropWhile p).head? ≠ some x := by
  rw [List.dropWhile_append]
  cases hrun : t.dropWhile p with
  | nil => exact hu
  | cons c rest =>
    rw [hrun] at ht
    exact ht

/-! ### The first occurrence of a character -/

theorem indexOf?_of_notMem {c : Char} {t : Text} (h : c ∉ t) : indexOf? c t = none := by
  induction t with
  | nil => rfl
  | cons d t ih =>
    rw [List.mem_cons, not_or] at h
    rw [indexOf?, if_neg (Ne.symm h.1), ih h.2, Option.map_none]

@[simp] theorem indexOf?_cons_self (c : Char) (t : Text) : indexOf? c (c :: t) = some 0 := by
  rw [indexOf?, if_pos rfl]

/-- A part without the character only moves its first occurrence. -/
theorem indexOf?_append {c : Char} {u : Text} (h : c ∉ u) (v : Text) :
    indexOf? c (u ++ v) = (indexOf? c v).map (· + u.length) := by
  induction u with
  | nil => simp
  | cons d u ih =>
    rw [List.mem_cons, not_or] at h
    rw [List.cons_append, indexOf?, if_neg (Ne.symm h.1), ih h.2, Option.map_map]
    rfl

/-- The first occurrence of a character cuts the text. -/
theorem exists_append_of_indexOf? {c : Char} {t : Text} {k : Nat} (h : indexOf? c t = some k) :
    ∃ u v, t = u ++ c :: v ∧ u.length = k ∧ c ∉ u := by
  induction t generalizing k with
  | nil => simp [indexOf?] at h
  | cons d t ih =>
    rw [indexOf?] at h
    split at h
    · next hd =>
      obtain rfl := Option.some.inj h
      exact ⟨[], t, by rw [hd]; rfl, rfl, by simp⟩
    · next hd =>
      obtain ⟨j, hj, rfl⟩ := Option.map_eq_some_iff.mp h
      obtain ⟨u, v, rfl, rfl, hu⟩ := ih hj
      exact ⟨d :: u, v, rfl, rfl, by simp [hu, Ne.symm hd]⟩

/-! ### Offsets at a cut -/

theorem clip_append {u v : Text} {i : Int} (hi : i = u.length) : (u ++ v).clip i = u.length := by
  rw [hi, clip_natCast, List.length_append]
  omega

theorem fromOffset_append {u v : Text} {i : Int} (hi : i = u.length) :
    (u ++ v).fromOffset i = v := by
  rw [hi, fromOffset_natCast, List.drop_left]

theorem at?_append {u v : Text} {i : Int} (hi : i = u.length) : (u ++ v).at? i = v.head? := by
  rw [hi, at?_natCast, List.getElem?_append_right (Nat.le_refl _), Nat.sub_self,
    List.head?_eq_getElem?]

theorem findFrom?_append {u v : Text} {i : Int} (c : Char) (hi : i = u.length) :
    (u ++ v).findFrom? c i = (indexOf? c v).map (· + u.length) := by
  rw [findFrom?, clip_append hi, List.drop_left]

theorem slice_append {u w v : Text} {i j : Int} (hi : i = u.length) (hj : j = i + w.length) :
    (u ++ (w ++ v)).slice i j = w := by
  have hclip : (u ++ (w ++ v)).clip j = (u ++ w).length := by
    rw [← List.append_assoc]
    apply clip_append
    rw [hj, hi, List.length_append, Int.natCast_add]
  rw [slice, hclip, clip_append hi, ← List.append_assoc, List.take_left, List.drop_left]

/-! ### Pieces -/

theorem pieces_of_forall {α : Type} {p : α → Bool} {t : List α} (h : ∀ c ∈ t, p c = false) :
    pieces p t = [t] := by
  induction t with
  | nil => rfl
  | cons c t ih =>
    rw [List.forall_mem_cons] at h
    rw [pieces, h.1, ih h.2]
    rfl

/-- A separator cuts the pieces of a text: those before it, and those after it. -/
theorem pieces_append_cons {α : Type} {p : α → Bool} {c : α} (hc : p c = true) (u v : List α) :
    pieces p (u ++ c :: v) = pieces p u ++ pieces p v := by
  induction u with
  | nil => simp [pieces, hc]
  | cons d u ih =>
    rw [List.cons_append, pieces, pieces, ih]
    cases p d with
    | true => rfl
    | false =>
      -- the first piece of `u` takes the character, and `u` always has one
      cases hu : pieces p u with
      | nil => exact absurd hu (pieces_ne_nil p u)
      | cons q qs => rfl

/-- No piece has a separator in it. -/
theorem of_mem_pieces {α : Type} {p : α → Bool} {t w : List α} (hw : w ∈ pieces p t) :
    ∀ c ∈ w, p c = false := by
  induction t generalizing w with
  | nil =>
    rw [pieces, List.mem_singleton] at hw
    simp [hw]
  | cons d t ih =>
    rw [pieces] at hw
    cases hd : p d with
    | true =>
      rw [hd, if_pos rfl, List.mem_cons] at hw
      rcases hw with rfl | hw
      · simp
      · exact ih hw
    | false =>
      cases ht : pieces p t with
      | nil => exact absurd ht (pieces_ne_nil p t)
      | cons q qs =>
        rw [ht] at hw ih
        simp only [hd, Bool.false_eq_true, if_false, List.mem_cons] at hw
        rcases hw with rfl | hw
        · rw [List.forall_mem_cons]
          exact ⟨hd, ih List.mem_cons_self⟩
        · exact ih (List.mem_cons_of_mem _ hw)

theorem notMem_of_mem_pieces {c : Char} {t w : Text} (hw : w ∈ pieces (· = c) t) : c ∉ w := by
  intro hc
  simpa using of_mem_pieces hw c hc

/-- The pieces of a text hold exactly its other characters. -/
theorem flatten_pieces {α : Type} (p : α → Bool) (t : List α) :
    (pieces p t).flatten = t.filter fun c => !p c := by
  induction t with
  | nil => rfl
  | cons d t ih =>
    rw [pieces, List.filter_cons, ← ih]
    cases p d with
    | true => rfl
    | false =>
      cases ht : pieces p t with
      | nil => exact absurd ht (pieces_ne_nil p t)
      | cons q qs => rfl

/-! ### Joined texts -/

theorem notMem_joinWith {c : Char} {sep : Text} {ts : List Text} (hsep : c ∉ sep)
    (hts : ∀ t ∈ ts, c ∉ t) : c ∉ joinWith sep ts := by
  match ts with
  | [] => simp
  | [t] => exact hts t List.mem_cons_self
  | t :: u :: ts =>
    rw [List.forall_mem_cons] at hts
    rw [joinWith_cons_cons, List.mem_append, List.mem_append, not_or, not_or]
    exact ⟨⟨hts.1, hsep⟩, notMem_joinWith hsep hts.2⟩

end QueryTree.Text
