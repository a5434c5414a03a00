import Mathlib.Data.List.DropRight
import QueryTree.Proofs.Text
import QueryTree.Query.Scan

/-!
# The pieces of a query and their places

A query is cut at every `+`.  A piece with anything but spaces in it is a group of the query: its
leading spaces are left out, and so are the trailing ones if a `+` follows, whereas the last group
keeps them.  Here the groups are read off the pieces, each with the place where it stands in the
query, and without a scanner.

A scanner that looks for groups starts in the middle of a piece, behind the group it has just
found.  So the places are followed from any offset on: a space or a `+` in front of a query moves
them by one and changes nothing else.

## Main definitions

* `Piece`: a piece of a query, with `Piece.group` and `Piece.bounds`.
* `Query.written`: the pieces of a query that are not blank.
* `Query.places`: their groups, with the places.

## Main results

* `Query.places_separators_append`: separators in front of a query move its groups.
* `Query.places_last`, `Query.places_inner`: a query that starts with a group.
-/

namespace QueryTree

/-- A piece of a query between two `+`: where it starts, and whether a `+` follows. -/
structure Piece where
  start : Int
  text : Text
  followed : Bool
deriving DecidableEq, Repr

namespace Piece

/-- Whether a piece has only spaces. -/
def isBlank (p : Piece) : Bool := p.text.all (· = ' ')

/-- A piece without its leading spaces, and without its trailing spaces if a `+` follows. -/
def group (p : Piece) : Text :=
  let rest := p.text.dropWhile (· = ' ')
  if p.followed then rest.rdropWhile (· = ' ') else rest

/-- Where the group of a piece stands in the query. -/
def bounds (p : Piece) : Bounds :=
  ⟨p.start + (p.text.takeWhile (· = ' ')).length, p.group.length⟩

theorem isBlank_eq_true {p : Piece} : p.isBlank = true ↔ ∀ c ∈ p.text, c = ' ' := by
  simp [isBlank]

/-! A space in front of a piece moves it by one. -/

@[simp] theorem isBlank_cons_space (i : Int) (t : Text) (f : Bool) :
    (⟨i, ' ' :: t, f⟩ : Piece).isBlank = (⟨i + 1, t, f⟩ : Piece).isBlank := by
  simp [isBlank]

@[simp] theorem group_cons_space (i : Int) (t : Text) (f : Bool) :
    (⟨i, ' ' :: t, f⟩ : Piece).group = (⟨i + 1, t, f⟩ : Piece).group := by
  simp [group]

@[simp] theorem bounds_cons_space (i : Int) (t : Text) (f : Bool) :
    (⟨i, ' ' :: t, f⟩ : Piece).bounds = (⟨i + 1, t, f⟩ : Piece).bounds := by
  simp only [bounds, group_cons_space, List.takeWhile_cons, decide_true, if_true,
    List.length_cons, Bounds.mk.injEq, and_true]
  omega

/-! A piece that starts with its group. -/

section Stops

variable {t : Text} (hstop : Text.Stops (· = ' ') t)

include hstop

theorem isBlank_of_stops (i : Int) (f : Bool) (hne : t ≠ []) :
    (⟨i, t, f⟩ : Piece).isBlank = false := by
  cases t with
  | nil => exact absurd rfl hne
  | cons c t =>
    have hc := Text.stops_cons.mp hstop
    simp [isBlank, List.all_cons, hc]

theorem bounds_of_stops (i : Int) (f : Bool) :
    (⟨i, t, f⟩ : Piece).bounds = ⟨i, (⟨i, t, f⟩ : Piece).group.length⟩ := by
  have hrun := Text.takeWhile_append (w := []) (by simp) hstop
  rw [List.nil_append] at hrun
  simp [bounds, hrun]

theorem group_of_stops (i : Int) : (⟨i, t, false⟩ : Piece).group = t := by
  have hrun := Text.dropWhile_append (w := []) (by simp) hstop
  rw [List.nil_append] at hrun
  simp [group, hrun]

/-- Before a `+` the trailing spaces are left out. -/
theorem group_append_spaces {b : Text} (i : Int) (hne : t ≠ [])
    (hlast : Text.Stops (· = ' ') t.reverse) (hb : ∀ c ∈ b, c = ' ') :
    (⟨i, t ++ b, true⟩ : Piece).group = t := by
  have hrun := Text.dropWhile_append (w := []) (by simp) ((Text.stops_append_iff hne b).mpr hstop)
  rw [List.nil_append] at hrun
  have hback : (b.reverse ++ t.reverse).dropWhile (· = ' ') = t.reverse :=
    Text.dropWhile_append (by simpa using hb) hlast
  simp [group, hrun, List.rdropWhile, hback]

end Stops

end Piece

namespace Query

open Scan

/-- Texts as pieces, from an offset on and with one character between neighbours. -/
def placed (start : Int) : List Text → List Piece
  | [] => []
  | t :: ts => ⟨start, t, !ts.isEmpty⟩ :: placed (start + t.length + 1) ts

/-- The pieces of a query that are not blank, from an offset on. -/
def writtenFrom (start : Int) (q : Text) : List Piece :=
  (placed start (Text.pieces (· = '+') q)).filter fun p => !p.isBlank

/-- The pieces of a query that are not blank. -/
def written (q : Text) : List Piece := writtenFrom 0 q

/-- The groups of the pieces of a query that are not blank, with their places, from an offset
on. -/
def places (start : Int) (q : Text) : List (Bounds × Text) :=
  (writtenFrom start q).map fun p => (p.bounds, p.group)

theorem map_text_placed (start : Int) (ts : List Text) :
    (placed start ts).map Piece.text = ts := by
  induction ts generalizing start with
  | nil => rfl
  | cons t ts ih => rw [placed, List.map_cons, ih]

/-! ### Separators -/

theorem isGroupSeparator_space : isGroupSeparator ' ' = true := by decide

theorem isGroupSeparator_plus : isGroupSeparator '+' = true := by decide

theorem isGroupSeparator_of_eq_space {b : Text} (hb : ∀ c ∈ b, c = ' ') :
    ∀ c ∈ b, isGroupSeparator c = true := by
  intro c hc
  rw [hb c hc, isGroupSeparator_space]

theorem ne_plus_of_notMem {g : Text} (h : '+' ∉ g) : ∀ c ∈ g, decide (c = '+') = false := by
  intro c hc
  rw [decide_eq_false_iff_not]
  rintro rfl
  exact h hc

theorem places_nil (i : Int) : places i [] = [] := rfl

theorem places_cons_plus (i : Int) (s : Text) : places i ('+' :: s) = places (i + 1) s := by
  simp [places, writtenFrom, Text.pieces, placed, Piece.isBlank]

theorem places_cons_space (i : Int) (s : Text) : places i (' ' :: s) = places (i + 1) s := by
  -- the space belongs to the first piece, and no piece is blank or not because of it
  cases hs : Text.pieces (· = '+') s with
  | nil => exact absurd hs (Text.pieces_ne_nil _ s)
  | cons t ts =>
    have hcons : Text.pieces (· = '+') (' ' :: s) = (' ' :: t) :: ts := by
      simp [Text.pieces, hs]
    have hnext : i + (' ' :: t).length + 1 = i + 1 + t.length + 1 := by
      rw [List.length_cons]
      omega
    simp only [places, writtenFrom, hs, hcons, placed, hnext, List.filter_cons,
      Piece.isBlank_cons_space]
    split <;> simp

/-- Separators in front of a query move its groups. -/
theorem places_separators_append {w : Text} (hw : ∀ c ∈ w, isGroupSeparator c = true) (s : Text)
    (i : Int) : places i (w ++ s) = places (i + w.length) s := by
  induction w generalizing i with
  | nil => simp
  | cons c w ih =>
    rw [List.forall_mem_cons] at hw
    have hc : c = ' ' ∨ c = '+' := by simpa [isGroupSeparator] using hw.1
    have hnext : i + 1 + w.length = i + (c :: w).length := by
      rw [List.length_cons]
      omega
    rw [List.cons_append, ← hnext, ← ih hw.2]
    rcases hc with rfl | rfl
    · exact places_cons_space i (w ++ s)
    · exact places_cons_plus i (w ++ s)

/-- What stops a run of separators stops a run of spaces. -/
theorem stops_space {g : Text} (hg : Text.Stops isGroupSeparator g) : Text.Stops (· = ' ') g := by
  intro c hc
  have hsep := hg c hc
  simp only [isGroupSeparator, Bool.or_eq_false_iff] at hsep
  exact hsep.1

/-- The last group of a query. -/
theorem places_last {g : Text} (i : Int) (hne : g ≠ []) (hg : Text.Stops isGroupSeparator g)
    (hplus : '+' ∉ g) : places i g = [(⟨i, g.length⟩, g)] := by
  have hstop := stops_space hg
  have hblank := Piece.isBlank_of_stops hstop i false hne
  have hpieces : Text.pieces (· = '+') g = [g] := Text.pieces_of_forall (ne_plus_of_notMem hplus)
  simp [places, writtenFrom, hpieces, placed, hblank, Piece.bounds_of_stops hstop,
    Piece.group_of_stops hstop]

/-- A group before a `+`, and the rest of the query from where the group ends. -/
theorem places_inner {g b : Text} (i : Int) (s : Text) (hne : g ≠ [])
    (hg : Text.Stops isGroupSeparator g) (hlast : Text.Stops isGroupSeparator g.reverse)
    (hplus : '+' ∉ g) (hb : ∀ c ∈ b, c = ' ') :
    places i (g ++ (b ++ '+' :: s))
      = (⟨i, g.length⟩, g) :: places (i + g.length) (b ++ '+' :: s) := by
  have hstop : Text.Stops (· = ' ') (g ++ b) :=
    (Text.stops_append_iff hne b).mpr (stops_space hg)
  have hblank := Piece.isBlank_of_stops hstop i true (by simp [hne])
  have hgroup := Piece.group_append_spaces (stops_space hg) i hne (stops_space hlast) hb
  have hplus' : '+' ∉ g ++ b := by
    rw [List.mem_append, not_or]
    exact ⟨hplus, fun h => absurd (hb _ h) (by decide)⟩
  have hpieces : Text.pieces (· = '+') (g ++ (b ++ '+' :: s))
      = (g ++ b) :: Text.pieces (· = '+') s := by
    rw [← List.append_assoc, Text.pieces_append_cons (by simp),
      Text.pieces_of_forall (ne_plus_of_notMem hplus')]
    rfl
  -- what is left of the piece is blank, and the next piece starts behind the `+`
  have hrest : places (i + g.length) (b ++ '+' :: s) = places (i + (g ++ b).length + 1) s := by
    have hstart : i + g.length + b.length + 1 = i + (g ++ b).length + 1 := by
      rw [List.length_append]
      omega
    rw [places_separators_append (isGroupSeparator_of_eq_space hb), places_cons_plus, hstart]
  have hfollowed : (!(Text.pieces (· = '+') s).isEmpty) = true := by
    simpa using Text.pieces_ne_nil _ s
  rw [hrest]
  simp only [places, writtenFrom, hpieces, placed, hfollowed]
  rw [List.filter_cons_of_pos (by simp [hblank]), List.map_cons, Piece.bounds_of_stops hstop,
    hgroup]

end Query
end QueryTree
