import Mathlib.Data.List.Basic
import QueryTree.Query.Printer

/-!
# Trees and their folds

A list of trees folds into one tree: none for no tree, a single tree itself, a branch for more.
Both levels of a query are such folds, so the operations on trees are described here by what they
do to a fold.

## Main definitions

* `Node.leavesOption` — the literals of a tree that may be missing.

## Main results

* `Node.inductionOn` — induction over trees, with a hypothesis for every child.
* `Node.leavesOption_fold`, `Node.printOption_fold` — literals and written form of a fold.
* `Node.print_map`, `Node.leaves_map` — normalizers do not matter for the written form.
-/

namespace QueryTree

variable {ν μ : Type}

/-- Without a normalizer, a literal is its kind, its text and its sign. -/
theorem Literal.eq_of_parts {l l' : Literal Unit} (hkind : l.kind = l'.kind)
    (htext : l.text = l'.text) (hnegated : l.negated = l'.negated) : l = l' := by
  cases l
  cases l'
  cases hkind
  cases htext
  cases hnegated
  rfl

namespace Node

/-! ### Induction -/

mutual

/-- Induction over trees: a statement that holds of every literal, and of a branch if it holds of
its children, holds of every tree. -/
theorem inductionOn {motive : Node ν → Prop} (literal : ∀ l, motive (.literal l))
    (branch : ∀ op a b rest, (∀ c ∈ a :: b :: rest, motive c) → motive (.branch op a b rest)) :
    ∀ t, motive t
  | .literal l => literal l
  | .branch op a b rest => branch op a b rest <| by
      rw [List.forall_mem_cons, List.forall_mem_cons]
      exact ⟨inductionOn literal branch a, inductionOn literal branch b,
        inductionOnAll literal branch rest⟩

/-- The same for the trees of a list. -/
theorem inductionOnAll {motive : Node ν → Prop} (literal : ∀ l, motive (.literal l))
    (branch : ∀ op a b rest, (∀ c ∈ a :: b :: rest, motive c) → motive (.branch op a b rest)) :
    ∀ ts : List (Node ν), ∀ c ∈ ts, motive c
  | [] => by simp
  | t :: ts => by
      rw [List.forall_mem_cons]
      exact ⟨inductionOn literal branch t, inductionOnAll literal branch ts⟩

end

/-! ### Folds -/

theorem fold_eq_none_iff {op : Connective} {ns : List (Node ν)} :
    fold op ns = none ↔ ns = [] := by
  match ns with
  | [] => simp [fold]
  | [n] => simp [fold]
  | n :: m :: ns => simp [fold]

theorem fold_toList (op : Connective) (o : Option (Node ν)) : fold op o.toList = o := by
  cases o <;> rfl

/-- The literals of a tree that may be missing. -/
def leavesOption : Option (Node ν) → List (Literal ν)
  | none => []
  | some t => t.leaves

theorem leaves_branch (op : Connective) (a b : Node ν) (rest : List (Node ν)) :
    (branch op a b rest).leaves = (a :: b :: rest).flatMap leaves := by
  rw [leaves, leavesAll_eq_flatMap, List.flatMap_cons, List.flatMap_cons]

theorem leavesOption_fold (op : Connective) (ns : List (Node ν)) :
    leavesOption (fold op ns) = ns.flatMap leaves := by
  match ns with
  | [] => rfl
  | [n] => simp [fold, leavesOption]
  | n :: m :: ns => exact leaves_branch op n m ns

theorem leaves_of_fold {op : Connective} {ns : List (Node ν)} {t : Node ν}
    (h : fold op ns = some t) : t.leaves = ns.flatMap leaves := by
  rw [← leavesOption_fold op ns, h]
  rfl

theorem printOption_fold (op : Connective) (ns : List (Node ν)) :
    printOption (fold op ns) = Text.joinWith op.separator (ns.map print) := by
  match ns with
  | [] => rfl
  | [n] => rfl
  | n :: m :: ns =>
    rw [fold, printOption, print, printAll_eq_map]
    rfl

/-! ### Normalizers -/

theorem map_branch (f : ν → μ) (op : Connective) (a b : Node ν) (rest : List (Node ν)) :
    (branch op a b rest).map f = branch op (a.map f) (b.map f) (rest.map (map f)) := by
  rw [map, mapAll_eq_map]

theorem map_map {ξ : Type} (g : μ → ξ) (f : ν → μ) (t : Node ν) :
    (t.map f).map g = t.map fun n => g (f n) := by
  induction t using inductionOn with
  | literal l => rfl
  | branch op a b rest ih =>
    rw [List.forall_mem_cons, List.forall_mem_cons] at ih
    have hrest : rest.map (map g ∘ map f) = rest.map (map fun n => g (f n)) :=
      List.map_congr_left ih.2.2
    rw [map_branch, map_branch, map_branch, List.map_map, ih.1, ih.2.1, hrest]

theorem print_map (f : ν → μ) (t : Node ν) : (t.map f).print = t.print := by
  induction t using inductionOn with
  | literal l => rfl
  | branch op a b rest ih =>
    rw [List.forall_mem_cons, List.forall_mem_cons] at ih
    have hrest : rest.map (print ∘ map f) = rest.map print := List.map_congr_left ih.2.2
    rw [map_branch, print, print, printAll_eq_map, printAll_eq_map, List.map_map, ih.1, ih.2.1,
      hrest]

theorem print_erase (t : Node ν) : t.erase.print = t.print := print_map _ t

theorem leaves_map (f : ν → μ) (t : Node ν) :
    (t.map f).leaves = t.leaves.map (Literal.map f) := by
  induction t using inductionOn with
  | literal l => rfl
  | branch op a b rest ih =>
    rw [map_branch, leaves_branch, leaves_branch, ← List.map_cons, ← List.map_cons,
      List.flatMap_map, List.map_flatMap]
    exact List.flatMap_congr ih

end Node
end QueryTree
