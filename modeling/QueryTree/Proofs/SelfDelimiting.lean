import Mathlib.Data.List.Basic
import QueryTree.Text.Basic

/-!
# Texts that show where they end

Something is written as a text, and further text is put behind it.  The written text shows where it
ends if it can be told from any such text: two of them agree only if what was written agrees, and
then what was put behind agrees too.  A way of writing with this property is injective, and it can
be used inside another one without brackets.

A reader that gives back what was written, and the text behind it, is a proof of the property.  It
passes from characters to texts, if the text ends with a character that no written character
starts with.

It passes from the items of a list to the list too, if what separates the items can be told from
what ends the list.

## Main definitions

* `Text.SelfDelimiting write a`: the text that `write` gives for `a` shows where it ends.
* `Text.itemsRest`: what stands behind the first item of a written list.

## Main results

* `Text.selfDelimiting_of_read` — what is read back shows where it ends.
* `Text.selfDelimiting_of_head?` — words that differ in their first characters show where they end.
* `Text.selfDelimiting_flatMap` — **a text that is written character by character shows where it
  ends.**
* `Text.eq_of_itemsRest_append` — **the items of a written list can be told apart.**
-/

namespace QueryTree.Text

variable {α : Type} {write : α → Text}

/-- The text that `write` gives for `a` shows where it ends: with anything behind it, it is not the
text of another one with something behind it. -/
def SelfDelimiting (write : α → Text) (a : α) : Prop :=
  ∀ b s t, write a ++ s = write b ++ t → a = b ∧ s = t

theorem SelfDelimiting.eq_of_eq {a b : α} (ha : SelfDelimiting write a) (h : write a = write b) :
    a = b := by
  have hnil : write a ++ [] = write b ++ [] := by rw [h]
  exact (ha b [] [] hnil).1

/-- What is read back shows where it ends. -/
theorem selfDelimiting_of_read (read : Text → Option (α × Text))
    (h : ∀ a s, read (write a ++ s) = some (a, s)) (a : α) : SelfDelimiting write a := by
  intro b s t hab
  have hread : some (a, s) = some (b, t) := by rw [← h a s, hab, h b t]
  exact Prod.mk.inj (Option.some.inj hread)

/-- Words that differ in their first characters show where they end. -/
theorem selfDelimiting_of_head? (hne : ∀ a, write a ≠ [])
    (h : ∀ a b, (write a).head? = (write b).head? → a = b) (a : α) : SelfDelimiting write a := by
  intro b s t hab
  have hfront : ∀ c r, (write c ++ r).head? = (write c).head? :=
    fun c r => List.head?_append_of_ne_nil _ (hne c)
  have hhead : (write a).head? = (write b).head? := by rw [← hfront a s, hab, hfront b t]
  obtain rfl := h a b hhead
  exact ⟨rfl, List.append_cancel_left hab⟩

/-- **A text that is written character by character shows where it ends**, if it ends with a
character that no written character starts with. -/
theorem selfDelimiting_flatMap {write : Char → Text} {stop : Char}
    (hwrite : ∀ c, SelfDelimiting write c) (hstart : ∀ c, ∃ d u, write c = d :: u ∧ d ≠ stop)
    (t : Text) : SelfDelimiting (fun t => t.flatMap write ++ [stop]) t := by
  -- along the written characters: the two texts go on together, or stop together
  induction t with
  | nil =>
    intro u r s h
    cases u with
    | nil => exact ⟨rfl, by simpa using h⟩
    | cons c u =>
      obtain ⟨d, v, hc, hd⟩ := hstart c
      simp only [List.flatMap_nil, List.flatMap_cons, hc, List.nil_append, List.cons_append,
        List.cons.injEq] at h
      exact absurd h.1.symm hd
  | cons c t ih =>
    intro u r s h
    cases u with
    | nil =>
      obtain ⟨d, v, hc, hd⟩ := hstart c
      simp only [List.flatMap_nil, List.flatMap_cons, hc, List.nil_append, List.cons_append,
        List.cons.injEq] at h
      exact absurd h.1 hd
    | cons e u =>
      simp only [List.flatMap_cons, List.append_assoc] at h
      obtain ⟨rfl, h⟩ := hwrite c e _ _ h
      obtain ⟨rfl, rfl⟩ := ih u r s (by simpa using h)
      exact ⟨rfl, rfl⟩

/-! ### Lists -/

/-- What stands behind the first item of a written list: the other items, each of them behind a
separator, and the end of the list. -/
def itemsRest (sep fin : Text) : List Text → Text
  | [] => fin
  | t :: ts => sep ++ (t ++ itemsRest sep fin ts)

theorem joinWith_append_itemsRest (sep fin t : Text) (ts : List Text) :
    joinWith sep (t :: ts) ++ fin = t ++ itemsRest sep fin ts := by
  induction ts generalizing t with
  | nil => rfl
  | cons u ts ih =>
    rw [joinWith_cons_cons, List.append_assoc, ih u, itemsRest, List.append_assoc]

/-- **The items of a written list can be told apart**, if each of them shows where it ends and what
separates them is not mistaken for the end of the list. -/
theorem eq_of_itemsRest_append {sep fin : Text} (hsep : ∀ s t, sep ++ s ≠ fin ++ t)
    {as bs : List α} {s t : Text} (has : ∀ a ∈ as, SelfDelimiting write a)
    (h : itemsRest sep fin (as.map write) ++ s = itemsRest sep fin (bs.map write) ++ t) :
    as = bs ∧ s = t := by
  induction as generalizing bs with
  | nil =>
    cases bs with
    | nil => exact ⟨rfl, List.append_cancel_left h⟩
    | cons b bs =>
      rw [List.map_cons, itemsRest, List.append_assoc] at h
      exact absurd h.symm (hsep _ _)
  | cons a as ih =>
    rw [List.forall_mem_cons] at has
    cases bs with
    | nil =>
      rw [List.map_cons, itemsRest, List.append_assoc] at h
      exact absurd h (hsep _ _)
    | cons b bs =>
      simp only [List.map_cons, itemsRest, List.append_assoc] at h
      obtain ⟨rfl, hrest⟩ := has.1 b _ _ (List.append_cancel_left h)
      obtain ⟨rfl, rfl⟩ := ih has.2 hrest
      exact ⟨rfl, rfl⟩

end QueryTree.Text
