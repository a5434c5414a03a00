import QueryTree.Markup.Render
import QueryTree.Proofs.Text

/-!
# How a stretch of text is shown

A stretch of text between tags is shown after three passes over it: escaped brackets become
brackets, names between colons become pictures, and some control characters are dropped.  Each pass
leaves the stretch as it is or makes it shorter.  So what one pass takes away no later one puts
back, and a stretch is shown as it is only if every pass leaves it as it is.

## Main definitions

* `Text.Shortens`: a pass that leaves a text as it is or makes it shorter.

## Main results

* `Text.Shortens.comp_eq_self_iff`, `Text.Shortens.flatMap_eq_flatten_iff` — passes one after the
  other, and a pass over the parts of a text.
* `Markup.nameInduction` — induction over a text from name to name.
* `Markup.shown_eq_self_iff` — **when a stretch is shown as it is.**
* `Markup.shown_append_replicate` — backslashes at the end are shown as they are.
-/

namespace QueryTree

/-! ### Passes that shorten a text -/

namespace Text

/-- A pass that leaves a text as it is or makes it shorter. -/
def Shortens (f : Text → Text) : Prop := ∀ t, f t = t ∨ (f t).length < t.length

namespace Shortens

variable {f g : Text → Text}

theorem length_le (hf : Shortens f) (t : Text) : (f t).length ≤ t.length := by
  rcases hf t with h | h
  · exact Nat.le_of_eq (congrArg List.length h)
  · exact Nat.le_of_lt h

theorem eq_self_of_length_le (hf : Shortens f) {t : Text} (h : t.length ≤ (f t).length) :
    f t = t := by
  rcases hf t with h' | h'
  · exact h'
  · omega

/-- What one pass has taken away no other puts back. -/
theorem comp_eq_self_iff (hf : Shortens f) (hg : Shortens g) {t : Text} :
    f (g t) = t ↔ g t = t ∧ f t = t := by
  constructor
  · intro h
    have hlen : t.length ≤ (g t).length := by
      calc t.length = (f (g t)).length := by rw [h]
        _ ≤ (g t).length := hf.length_le (g t)
    have hgt := hg.eq_self_of_length_le hlen
    rw [hgt] at h
    exact ⟨hgt, h⟩
  · rintro ⟨hgt, hft⟩
    rw [hgt, hft]

theorem comp (hf : Shortens f) (hg : Shortens g) : Shortens fun t => f (g t) := by
  intro t
  rcases hg t with h | h
  · show f (g t) = t ∨ (f (g t)).length < t.length
    rw [h]
    exact hf t
  · exact .inr (Nat.lt_of_le_of_lt (hf.length_le (g t)) h)

theorem length_flatMap_le (hf : Shortens f) (ps : List Text) :
    (ps.flatMap f).length ≤ ps.flatten.length := by
  induction ps with
  | nil => exact Nat.le_refl 0
  | cons p ps ih =>
    have hp := hf.length_le p
    rw [List.flatMap_cons, List.flatten_cons, List.length_append, List.length_append]
    omega

/-- Part by part, a text stays as it is only if every part does. -/
theorem flatMap_eq_flatten_iff (hf : Shortens f) (ps : List Text) :
    ps.flatMap f = ps.flatten ↔ ∀ p ∈ ps, f p = p := by
  induction ps with
  | nil => simp
  | cons p ps ih =>
    rw [List.flatMap_cons, List.flatten_cons, List.forall_mem_cons]
    constructor
    · intro h
      have hlen := congrArg List.length h
      rw [List.length_append, List.length_append] at hlen
      have hrest := hf.length_flatMap_le ps
      have hp : f p = p := hf.eq_self_of_length_le (by omega)
      rw [hp] at h
      exact ⟨hp, ih.mp (List.append_cancel_left h)⟩
    · rintro ⟨hp, hps⟩
      rw [hp, ih.mpr hps]

end Shortens

theorem shortens_filter (p : Char → Bool) : Shortens (List.filter p) := by
  intro t
  rcases Nat.lt_or_ge (t.filter p).length t.length with h | h
  · exact .inr h
  · exact .inl (List.filter_sublist.eq_of_length_le h)

end Text

namespace Markup

/-! ### Escaped brackets -/

theorem unescapeBrackets_cons {c : Char} {t : Text} (h : c = '\\' → t.head? ≠ some '[') :
    unescapeBrackets (c :: t) = c :: unescapeBrackets t := by
  rw [unescapeBrackets]
  rintro cs rfl rfl
  exact h rfl rfl

theorem unescapeBrackets_replicate (count : Nat) :
    unescapeBrackets (List.replicate count '\\') = List.replicate count '\\' := by
  induction count with
  | zero => rfl
  | succ count ih =>
    rw [List.replicate_succ, unescapeBrackets_cons, ih]
    intro _ hhead
    cases count with
    | zero => cases hhead
    | succ count => simp [List.replicate_succ] at hhead

/-- Backslashes at the end of a text stay there. -/
theorem unescapeBrackets_append_replicate (w : Text) (count : Nat) :
    unescapeBrackets (w ++ List.replicate count '\\')
      = unescapeBrackets w ++ List.replicate count '\\' := by
  fun_induction unescapeBrackets w with
  | case1 cs ih =>
    rw [List.cons_append, List.cons_append, unescapeBrackets, ih, List.cons_append]
  | case2 c cs h ih =>
    rw [List.cons_append, unescapeBrackets_cons, ih, List.cons_append]
    intro hc hhead
    cases cs with
    | nil =>
      rw [List.nil_append] at hhead
      have hmem := List.eq_of_mem_replicate (List.mem_of_head? hhead)
      cases hmem
    | cons d ds =>
      obtain rfl : d = '[' := by simpa using hhead
      exact h ds hc rfl
  | case3 => exact unescapeBrackets_replicate count

theorem unescapeBrackets_eq_self {t : Text} (h : ¬['\\', '['] <:+: t) : unescapeBrackets t = t := by
  fun_induction unescapeBrackets t with
  | case1 cs ih => exact absurd ⟨[], cs, rfl⟩ h
  | case2 c cs hc ih => rw [ih fun hcs => h (hcs.trans (List.suffix_cons c cs).isInfix)]
  | case3 => rfl

theorem length_unescapeBrackets_le (t : Text) : (unescapeBrackets t).length ≤ t.length := by
  fun_induction unescapeBrackets t with
  | case1 cs ih =>
    simp only [List.length_cons]
    omega
  | case2 c cs hc ih =>
    simp only [List.length_cons]
    omega
  | case3 => exact Nat.le_refl 0

theorem length_unescapeBrackets_lt {t : Text} (h : ['\\', '['] <:+: t) :
    (unescapeBrackets t).length < t.length := by
  fun_induction unescapeBrackets t with
  | case1 cs ih =>
    have hle := length_unescapeBrackets_le cs
    simp only [List.length_cons]
    omega
  | case2 c cs hc ih =>
    rcases List.infix_cons_iff.mp h with hfront | hbehind
    · obtain ⟨ds, hds⟩ := hfront
      obtain ⟨rfl, rfl⟩ := List.cons.inj hds
      exact absurd rfl (hc ds rfl)
    · have hlt := ih hbehind
      simp only [List.length_cons]
      omega
  | case3 => simp at h

theorem shortens_unescapeBrackets : Text.Shortens unescapeBrackets := by
  intro t
  by_cases h : ['\\', '['] <:+: t
  · exact .inr (length_unescapeBrackets_lt h)
  · exact .inl (unescapeBrackets_eq_self h)

/-- Brackets that are not escaped stay as they are, and no others do. -/
theorem unescapeBrackets_eq_self_iff {t : Text} :
    unescapeBrackets t = t ↔ ¬['\\', '['] <:+: t := by
  refine ⟨fun h hescaped => ?_, unescapeBrackets_eq_self⟩
  have hlt := length_unescapeBrackets_lt hescaped
  rw [h] at hlt
  exact Nat.lt_irrefl _ hlt

/-! ### Pictures -/

/-- Whether a character can stand in the name of a picture. -/
def insideName (c : Char) : Bool := c ≠ ':' && !Text.isBlank c

theorem pictureName?_colon (t : Text) :
    pictureName? (':' :: t)
      = if (t.dropWhile insideName).head? = some ':' then some (t.takeWhile insideName)
        else none := rfl

theorem pictureName?_of_ne {c : Char} (hc : c ≠ ':') (t : Text) : pictureName? (c :: t) = none := by
  unfold pictureName?
  split
  · next heq => exact absurd (List.cons.inj heq).1 hc
  · rfl

theorem pictureName?_name {name : Text} (hname : ∀ c ∈ name, insideName c = true) (rest : Text) :
    pictureName? (':' :: (name ++ ':' :: rest)) = some name := by
  have hstop : Text.Stops insideName (':' :: rest) := Text.stops_cons.mpr rfl
  rw [pictureName?_colon, Text.dropWhile_append hname hstop, Text.takeWhile_append hname hstop]
  rfl

theorem exists_of_pictureName? {t name : Text} (h : pictureName? t = some name) :
    (∀ c ∈ name, insideName c = true) ∧ ∃ rest, t = ':' :: (name ++ ':' :: rest) := by
  cases t with
  | nil => cases h
  | cons c t =>
    by_cases hc : c = ':'
    · subst hc
      rw [pictureName?_colon] at h
      split at h
      · next hcolon =>
        obtain rfl := Option.some.inj h
        obtain ⟨rest, hrest⟩ := List.head?_eq_some_iff.mp hcolon
        refine ⟨fun d hd => List.all_eq_true.mp List.all_takeWhile d hd, rest, ?_⟩
        rw [← hrest, List.takeWhile_append_dropWhile]
      · cases h
    · rw [pictureName?_of_ne hc] at h
      cases h

/-- **Induction over a text from name to name**, where names stand between colons. -/
theorem nameInduction {motive : Text → Prop} (nil : motive [])
    (char : ∀ c t, pictureName? (c :: t) = none → motive t → motive (c :: t))
    (name : ∀ name rest, (∀ c ∈ name, insideName c = true) → motive rest →
      motive (':' :: (name ++ ':' :: rest))) (t : Text) : motive t := by
  induction hlen : t.length using Nat.strongRecOn generalizing t with
  | _ k ih =>
    cases t with
    | nil => exact nil
    | cons c t =>
      cases hname : pictureName? (c :: t) with
      | none => exact char c t hname (ih t.length (by simp [← hlen]) t rfl)
      | some w =>
        obtain ⟨hw, rest, hrest⟩ := exists_of_pictureName? hname
        rw [hrest] at hlen ⊢
        refine name w rest hw (ih rest.length ?_ rest rfl)
        rw [← hlen]
        simp
        omega

theorem picturesFrom_skip (u v : Text) : picturesFrom u.length (u ++ v) = picturesFrom 0 v := by
  induction u with
  | nil => rfl
  | cons c u ih => rw [List.length_cons, List.cons_append, picturesFrom, ih]

theorem picturesFrom_of_none {c : Char} {t : Text} (h : pictureName? (c :: t) = none) :
    picturesFrom 0 (c :: t) = c :: picturesFrom 0 t := by
  rw [picturesFrom, h]

theorem picturesFrom_name {name : Text} (hname : ∀ c ∈ name, insideName c = true) (rest : Text) :
    picturesFrom 0 (':' :: (name ++ ':' :: rest))
      = (picture? name).getD (':' :: name ++ [':']) ++ picturesFrom 0 rest := by
  have hskip := picturesFrom_skip (name ++ [':']) rest
  rw [List.length_append, List.length_singleton, List.append_assoc, List.singleton_append] at hskip
  rw [picturesFrom, pictureName?_name hname]
  simp only [hskip]

theorem picturesFrom_eq_self {t : Text} (h : ':' ∉ t) : picturesFrom 0 t = t := by
  induction t with
  | nil => rfl
  | cons c t ih =>
    rw [List.mem_cons, not_or] at h
    rw [picturesFrom_of_none (pictureName?_of_ne (Ne.symm h.1) t), ih h.2]

/-- Backslashes at the end of a text stay there: they end no name. -/
theorem picturesFrom_append_replicate (w : Text) (count : Nat) :
    picturesFrom 0 (w ++ List.replicate count '\\')
      = picturesFrom 0 w ++ List.replicate count '\\' := by
  induction w using nameInduction with
  | nil =>
    induction count with
    | zero => rfl
    | succ count ih =>
      rw [List.nil_append] at ih ⊢
      rw [List.replicate_succ, picturesFrom_of_none (pictureName?_of_ne (by decide) _), ih]
      rfl
  | char c t hnone ih =>
    have hnone' : pictureName? (c :: (t ++ List.replicate count '\\')) = none := by
      by_cases hc : c = ':'
      · subst hc
        have hopen : (t.dropWhile insideName).head? ≠ some ':' := by
          intro hcolon
          rw [pictureName?_colon, if_pos hcolon] at hnone
          cases hnone
        have hslashes : ((List.replicate count '\\').dropWhile insideName).head? ≠ some ':' := by
          intro hcolon
          have hmem := (List.dropWhile_sublist insideName).mem (List.mem_of_head? hcolon)
          cases List.eq_of_mem_replicate hmem
        rw [pictureName?_colon, if_neg (Text.head?_dropWhile_append_ne hopen hslashes)]
      · exact pictureName?_of_ne hc _
    rw [List.cons_append, picturesFrom_of_none hnone', ih, picturesFrom_of_none hnone,
      List.cons_append]
  | name name rest hname ih =>
    rw [List.cons_append, List.append_assoc, List.cons_append, picturesFrom_name hname, ih,
      picturesFrom_name hname, List.append_assoc]

theorem length_le_of_picture? {name u : Text} (h : picture? name = some u) :
    u.length ≤ name.length + 1 := by
  unfold picture? splitForm at h
  split at h
  · next base form hform =>
    obtain ⟨c, -, rfl⟩ := Option.map_eq_some_iff.mp h
    split at hform
    · next suffix x hfind =>
      -- a suffix that chooses a form is not empty
      obtain ⟨-, rfl⟩ := Prod.mk.inj hform
      have hsuffix : suffix ≠ [] := by
        have hmem := List.mem_of_find?_eq_some hfind
        simp only [pictureForms, List.mem_cons, Prod.mk.injEq, List.not_mem_nil, or_false] at hmem
        rcases hmem with ⟨rfl, -⟩ | ⟨rfl, -⟩ <;> decide
      have hlen : suffix.length ≤ name.length := by
        have hfound := List.find?_some hfind
        exact (List.isSuffixOf_iff_suffix.mp hfound).length_le
      have hpos := List.length_pos_iff.mpr hsuffix
      simp
      omega
    · obtain ⟨-, rfl⟩ := Prod.mk.inj hform
      simp

/-- A picture takes less room than its name between colons. -/
theorem shortens_picturesFrom : Text.Shortens (picturesFrom 0) := by
  intro t
  induction t using nameInduction with
  | nil => exact .inl rfl
  | char c t hnone ih =>
    rw [picturesFrom_of_none hnone]
    rcases ih with ih | ih
    · exact .inl (by rw [ih])
    · exact .inr (by simpa using ih)
  | name name rest hname ih =>
    rw [picturesFrom_name hname]
    cases hpicture : picture? name with
    | none =>
      rcases ih with ih | ih
      · exact .inl (by simp [ih])
      · exact .inr (by simpa using ih)
    | some u =>
      have hle : (picturesFrom 0 rest).length ≤ rest.length := by
        rcases ih with ih | ih
        · exact Nat.le_of_eq (congrArg List.length ih)
        · exact Nat.le_of_lt ih
      have hshort := length_le_of_picture? hpicture
      refine .inr ?_
      simp
      omega


/-! ### Stretches of text -/

theorem shortens_shown : Text.Shortens shown :=
  (Text.shortens_filter _).comp (shortens_picturesFrom.comp shortens_unescapeBrackets)

/-- A stretch is shown as it is if it has no escaped bracket, no picture takes the place of a name
in it and no character of it is dropped; and only then. -/
theorem shown_eq_self_iff {t : Text} :
    shown t = t ↔ ¬['\\', '['] <:+: t ∧ picturesFrom 0 t = t ∧ ∀ c ∈ t, isDropped c = false := by
  unfold shown
  rw [(Text.shortens_filter _).comp_eq_self_iff
      (shortens_picturesFrom.comp shortens_unescapeBrackets),
    shortens_picturesFrom.comp_eq_self_iff shortens_unescapeBrackets,
    unescapeBrackets_eq_self_iff, List.filter_eq_self, and_assoc]
  simp

theorem shown_append_replicate (w : Text) (count : Nat) :
    shown (w ++ List.replicate count '\\') = shown w ++ List.replicate count '\\' := by
  have hkept : (List.replicate count '\\').filter (fun c => !isDropped c)
      = List.replicate count '\\' := by
    rw [List.filter_eq_self]
    intro c hc
    rw [List.eq_of_mem_replicate hc]
    rfl
  rw [shown, unescapeBrackets_append_replicate, picturesFrom_append_replicate, List.filter_append,
    hkept, shown]

theorem shown_replicate (count : Nat) :
    shown (List.replicate count '\\') = List.replicate count '\\' :=
  shown_append_replicate [] count

theorem shown_blank_cons (t : Text) : shown (' ' :: t) = ' ' :: shown t := by
  have hunescaped : unescapeBrackets (' ' :: t) = ' ' :: unescapeBrackets t :=
    unescapeBrackets_cons fun h => absurd h (by decide)
  rw [shown, hunescaped, picturesFrom_of_none (pictureName?_of_ne (by decide) _)]
  rfl

end Markup
end QueryTree
