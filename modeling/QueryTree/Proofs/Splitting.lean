import QueryTree.Proofs.Places
import QueryTree.Proofs.Reading

/-!
# How a query splits into groups

The group scanner never splits a query.  It passes over separators, looks for the next `+`,
walks back over the separators before it and resumes from there; the last group keeps its
trailing spaces.  Here the groups of a query are described without offsets, by what stands
before, in and after each of them.  Along that description the scanner is followed step by step,
and it finds the groups at the places of the pieces that are not blank.

## Main definitions

* `Query.Splits q gs` — the query `q` splits into the groups `gs`.

## Main results

* `Scan.groupAt_last`, `Scan.groupAt_inner` — one step of the group scanner.
* `Query.groups_eq_places` — **the groups of a query are its pieces that are not blank, where they
  stand.**
* `Query.map_snd_groups_eq_iff` — **the groups found in a query are those it splits into.**
-/

namespace QueryTree

namespace Query

open Scan

/-- `Splits q gs` says that the query `q` splits into the groups `gs`. -/
inductive Splits : Text → List Text → Prop
  /-- Separators alone have no group. -/
  | nil {w : Text} : (∀ c ∈ w, isGroupSeparator c = true) → Splits w []
  /-- The last group runs to the end of the query. -/
  | last {w g : Text} : (∀ c ∈ w, isGroupSeparator c = true) → g ≠ [] →
      Text.Stops isGroupSeparator g → '+' ∉ g → Splits (w ++ g) [g]
  /-- A group before a `+` does without the spaces that stand there. -/
  | inner {w g b s : Text} {gs : List Text} : (∀ c ∈ w, isGroupSeparator c = true) → g ≠ [] →
      Text.Stops isGroupSeparator g → Text.Stops isGroupSeparator g.reverse → '+' ∉ g →
      (∀ c ∈ b, c = ' ') → Splits (b ++ '+' :: s) gs →
      Splits (w ++ (g ++ (b ++ '+' :: s))) (g :: gs)

end Query

namespace Scan

open Query

/-! ### One group -/

theorem groupAt_separators {u w : Text} {i : Int} (hi : i = u.length)
    (hw : ∀ c ∈ w, isGroupSeparator c = true) : groupAt (u ++ w) i = none := by
  have hskip := skip_append (s := []) hi hw (Text.stops_nil _)
  rw [List.append_nil] at hskip
  unfold groupAt
  rw [hskip, if_pos (by rw [List.length_append]; omega)]

/-- Where a group starts, and how the next `+` is looked for from there. -/
theorem groupAt_of_stops {u w t : Text} {c : Char} {i : Int} (hi : i = u.length)
    (hw : ∀ c ∈ w, isGroupSeparator c = true) (hc : isGroupSeparator c = false) :
    groupAt (u ++ (w ++ c :: t)) i = match (Text.indexOf? '+' t) with
      | none => some ⟨i + w.length, (c :: t).length⟩
      | some k => some ⟨i + w.length,
          skipBack isGroupSeparator (u ++ (w ++ c :: t)) (k + ((u ++ w).length + 1)) + 1
            - (i + w.length)⟩ := by
  have hskip := skip_append (s := c :: t) hi hw (Text.stops_cons.mpr hc)
  have hlen : ((u ++ (w ++ c :: t)).length : Int) = i + w.length + (c :: t).length := by
    rw [List.length_append, List.length_append]
    omega
  have hfind : (u ++ (w ++ c :: t)).findFrom? '+' (i + w.length + 1)
      = (Text.indexOf? '+' t).map (· + ((u ++ w).length + 1)) := by
    -- the search starts behind the first character, which is no separator
    have hcut : u ++ (w ++ c :: t) = (u ++ w ++ [c]) ++ t := by simp
    have hcutLen : (u ++ w ++ [c]).length = (u ++ w).length + 1 := by
      rw [List.length_append, List.length_singleton]
    have hoffset : i + w.length + 1 = (u ++ w ++ [c]).length := by
      rw [hcutLen, List.length_append]
      omega
    rw [hcut, Text.findFrom?_append _ hoffset, hcutLen]
  unfold groupAt
  rw [hskip, if_neg (by rw [hlen, List.length_cons]; omega), hfind]
  cases Text.indexOf? '+' t with
  | none =>
    have hrest : i + w.length + ((c :: t).length : Int) - (i + w.length) = (c :: t).length := by
      omega
    simp only [Option.map_none, hlen, hrest]
  | some k => rfl

/-- **The last group runs to the end of the query.** -/
theorem groupAt_last {u w g : Text} {i : Int} (hi : i = u.length)
    (hw : ∀ c ∈ w, isGroupSeparator c = true) (hne : g ≠ []) (hg : Text.Stops isGroupSeparator g)
    (hplus : '+' ∉ g) : groupAt (u ++ (w ++ g)) i = some ⟨i + w.length, g.length⟩ := by
  cases g with
  | nil => exact absurd rfl hne
  | cons c t =>
    rw [List.mem_cons, not_or] at hplus
    rw [groupAt_of_stops hi hw (Text.stops_cons.mp hg), Text.indexOf?_of_notMem hplus.2]

/-- Walking back from a `+` over the spaces before it. -/
theorem skipBack_append {u g b s : Text} (hne : g ≠ [])
    (hg : Text.Stops isGroupSeparator g.reverse) (hb : ∀ c ∈ b, c = ' ') :
    skipBack isGroupSeparator (u ++ (g ++ (b ++ '+' :: s))) (u ++ (g ++ b)).length + 1
      = (u ++ g).length := by
  have htake : (u ++ (g ++ (b ++ '+' :: s))).take ((u ++ (g ++ b)).length + 1)
      = u ++ (g ++ (b ++ ['+'])) := by
    have hcut : u ++ (g ++ (b ++ '+' :: s)) = (u ++ (g ++ (b ++ ['+']))) ++ s := by simp
    refine hcut ▸ List.take_left' ?_
    simp only [List.length_append, List.length_cons, List.length_nil]
    omega
  -- read backwards, the separators come first and the group stops them
  have hback : (u ++ (g ++ (b ++ '+' :: s))).upToOffset (u ++ (g ++ b)).length
      = ('+' :: b.reverse)
        ++ (g.reverse ++ (u.reverse ++ (u ++ (g ++ (b ++ '+' :: s))).reverse)) := by
    rw [Text.upToOffset, htake, List.reverse_append]
    simp
  have hseparators : ∀ c ∈ '+' :: b.reverse, isGroupSeparator c = true := by
    rw [List.forall_mem_cons]
    exact ⟨isGroupSeparator_plus,
      fun c hc => isGroupSeparator_of_eq_space hb c (List.mem_reverse.mp hc)⟩
  have hstops : Text.Stops isGroupSeparator
      (g.reverse ++ (u.reverse ++ (u ++ (g ++ (b ++ '+' :: s))).reverse)) := by
    have hne' : g.reverse ≠ [] := mt List.reverse_eq_nil_iff.mp hne
    exact (Text.stops_append_iff hne' _).mpr hg
  rw [skipBack, hback, Text.takeWhile_append hseparators hstops]
  simp only [List.length_append, List.length_cons, List.length_reverse]
  omega

/-- **A group before a `+` ends where its trailing spaces begin.** -/
theorem groupAt_inner {u w g b s : Text} {i : Int} (hi : i = u.length)
    (hw : ∀ c ∈ w, isGroupSeparator c = true) (hne : g ≠ []) (hg : Text.Stops isGroupSeparator g)
    (hlast : Text.Stops isGroupSeparator g.reverse) (hplus : '+' ∉ g) (hb : ∀ c ∈ b, c = ' ') :
    groupAt (u ++ (w ++ (g ++ (b ++ '+' :: s)))) i = some ⟨i + w.length, g.length⟩ := by
  have hback := skipBack_append (u := u ++ w) (s := s) hne hlast hb
  cases g with
  | nil => exact absurd rfl hne
  | cons c t =>
    rw [List.mem_cons, not_or] at hplus
    have hfind : Text.indexOf? '+' (t ++ (b ++ '+' :: s)) = some (t.length + b.length) := by
      have hplus' : '+' ∉ t ++ b := by
        rw [List.mem_append, not_or]
        exact ⟨hplus.2, fun h => absurd (hb _ h) (by decide)⟩
      rw [← List.append_assoc, Text.indexOf?_append hplus', Text.indexOf?_cons_self,
        Option.map_some, List.length_append, Nat.zero_add]
    have hpos : t.length + b.length + ((u ++ w).length + 1)
        = (u ++ w ++ (c :: t ++ b)).length := by
      simp only [List.length_append, List.length_cons]
      omega
    rw [List.append_assoc] at hback
    rw [List.cons_append, groupAt_of_stops hi hw (Text.stops_cons.mp hg), hfind, ← List.cons_append]
    simp only [hpos, hback, Option.some.injEq, Bounds.mk.injEq, true_and]
    simp only [List.length_append, List.length_cons]
    omega

/-! ### A run that has come to a group -/

theorem runs_groupAt_separators {u w : Text} {i : Int} (limit : Nat) (hi : i = u.length)
    (hw : ∀ c ∈ w, isGroupSeparator c = true) :
    runs (groupAt (u ++ w)) Bounds.stop (limit + 1) i = [] := by
  rw [runs, groupAt_separators hi hw]

theorem runs_groupAt_last {u w g : Text} {i : Int} (limit : Nat) (hi : i = u.length)
    (hw : ∀ c ∈ w, isGroupSeparator c = true) (hne : g ≠ []) (hg : Text.Stops isGroupSeparator g)
    (hplus : '+' ∉ g) :
    runs (groupAt (u ++ (w ++ g))) Bounds.stop (limit + 2) i = [⟨i + w.length, g.length⟩] := by
  -- a second step, from the end of the query, finds nothing
  have hend : i + w.length + g.length = (u ++ (w ++ g)).length := by
    rw [List.length_append, List.length_append]
    omega
  have hnone := runs_groupAt_separators (w := []) limit hend (by simp)
  rw [List.append_nil] at hnone
  rw [runs, groupAt_last hi hw hne hg hplus]
  simp only [Bounds.stop_mk, hnone]

/-- The spaces and the `+` behind a group are left for the next step. -/
theorem runs_groupAt_inner {u w g b s : Text} {i : Int} (limit : Nat) (hi : i = u.length)
    (hw : ∀ c ∈ w, isGroupSeparator c = true) (hne : g ≠ []) (hg : Text.Stops isGroupSeparator g)
    (hlast : Text.Stops isGroupSeparator g.reverse) (hplus : '+' ∉ g) (hb : ∀ c ∈ b, c = ' ') :
    runs (groupAt (u ++ (w ++ (g ++ (b ++ '+' :: s))))) Bounds.stop (limit + 1) i
      = ⟨i + w.length, g.length⟩ :: runs (groupAt (u ++ (w ++ (g ++ (b ++ '+' :: s)))))
          Bounds.stop limit (i + w.length + g.length) := by
  rw [runs, groupAt_inner hi hw hne hg hlast hplus hb]
  rfl

theorem slice_group {u w g r : Text} {i : Int} (hi : i = u.length) :
    (⟨i + w.length, g.length⟩ : Bounds).slice (u ++ (w ++ (g ++ r))) = g := by
  rw [Bounds.slice_mk, ← List.append_assoc u w]
  exact Text.slice_append (by rw [hi]; simp) rfl

end Scan

namespace Query

open Scan

/-! ### All groups -/

/-- **The run of the group scanner.**  From the offset where a query is cut, and with more steps
than there are characters left, the scanner finds the groups of the rest where they stand. -/
theorem Splits.map_runs {s : Text} {gs : List Text} (h : Splits s gs) :
    ∀ (u : Text) (i : Int) (limit : Nat), i = u.length → s.length < limit →
      (runs (groupAt (u ++ s)) Bounds.stop limit i).map (fun b => (b, b.slice (u ++ s)))
        = places i s := by
  induction h with
  | @nil w hw =>
    intro u i limit hi hlimit
    obtain ⟨limit, rfl⟩ : ∃ k, limit = k + 1 := ⟨limit - 1, by omega⟩
    rw [runs_groupAt_separators limit hi hw, ← List.append_nil w, places_separators_append hw,
      places_nil]
    rfl
  | @last w g hw hne hg hplus =>
    intro u i limit hi hlimit
    have hpos : 0 < g.length := List.length_pos_iff.mpr hne
    rw [List.length_append] at hlimit
    obtain ⟨limit, rfl⟩ : ∃ k, limit = k + 2 := ⟨limit - 2, by omega⟩
    have hslice := slice_group (w := w) (g := g) (r := []) hi
    rw [List.append_nil] at hslice
    rw [runs_groupAt_last limit hi hw hne hg hplus, List.map_singleton, hslice,
      places_separators_append hw, places_last _ hne hg hplus]
  | @inner w g b s gs hw hne hg hlast hplus hb _ ih =>
    intro u i limit hi hlimit
    have hpos : 0 < g.length := List.length_pos_iff.mpr hne
    rw [List.length_append, List.length_append] at hlimit
    obtain ⟨limit, rfl⟩ : ∃ k, limit = k + 1 := ⟨limit - 1, by omega⟩
    have hnext : i + w.length + g.length = (u ++ (w ++ g)).length := by
      rw [List.length_append, List.length_append]
      omega
    have hrest := ih (u ++ (w ++ g)) _ limit hnext (by omega)
    have hcut : (u ++ (w ++ g)) ++ (b ++ '+' :: s) = u ++ (w ++ (g ++ (b ++ '+' :: s))) := by
      simp
    rw [hcut] at hrest
    rw [runs_groupAt_inner limit hi hw hne hg hlast hplus hb, List.map_cons, slice_group hi, hrest,
      places_separators_append hw, places_inner _ _ hne hg hlast hplus hb]

theorem Splits.map_snd_places {s : Text} {gs : List Text} (h : Splits s gs) (i : Int) :
    (places i s).map Prod.snd = gs := by
  induction h generalizing i with
  | @nil w hw =>
    rw [← List.append_nil w, places_separators_append hw, places_nil]
    rfl
  | @last w g hw hne hg hplus =>
    rw [places_separators_append hw, places_last _ hne hg hplus]
    rfl
  | @inner w g b s gs hw hne hg hlast hplus hb _ ih =>
    rw [places_separators_append hw, places_inner _ _ hne hg hlast hplus hb, List.map_cons, ih]

/-- A text without trailing separators, and those separators. -/
theorem exists_trailing (t : Text) :
    ∃ g b, t = g ++ b ∧ Text.Stops isGroupSeparator g.reverse ∧
      ∀ c ∈ b, isGroupSeparator c = true := by
  obtain ⟨b, g, ht, hb, hg⟩ := Text.exists_run isGroupSeparator t.reverse
  refine ⟨g.reverse, b.reverse, ?_, by rwa [List.reverse_reverse], ?_⟩
  · rw [← List.reverse_append, ← ht, List.reverse_reverse]
  · intro c hc
    exact hb c (List.mem_reverse.mp hc)

/-- Every query splits into some groups. -/
theorem exists_splits (q : Text) : ∃ gs, Splits q gs := by
  -- strong induction on the length: each group takes at least one character
  induction hk : q.length using Nat.strongRecOn generalizing q with
  | _ k ih =>
    subst hk
    obtain ⟨w, r, rfl, hw, hr⟩ := Text.exists_run isGroupSeparator q
    by_cases hne : r = []
    · subst hne
      rw [List.append_nil]
      exact ⟨[], .nil hw⟩
    by_cases hplus : '+' ∈ r
    · obtain ⟨g₀, s, rfl, hg₀⟩ := List.eq_append_cons_of_mem hplus
      obtain ⟨g, b, rfl, hlast, hb⟩ := exists_trailing g₀
      rw [List.mem_append, not_or] at hg₀
      have hspaces : ∀ c ∈ b, c = ' ' := by
        intro c hc
        have hsep := hb c hc
        have hcp : c ≠ '+' := fun h => hg₀.2 (h ▸ hc)
        simpa [isGroupSeparator, hcp] using hsep
      -- the group starts with the character that stopped the separators
      have hgne : g ≠ [] := by
        rintro rfl
        cases b with
        | nil => simp [isGroupSeparator] at hr
        | cons c b => simp [hb c List.mem_cons_self] at hr
      have hgstop : Text.Stops isGroupSeparator g := by
        rw [List.append_assoc] at hr
        exact (Text.stops_append_iff hgne _).mp hr
      have hpos : 0 < g.length := List.length_pos_iff.mpr hgne
      obtain ⟨gs, hgs⟩ := ih (b ++ '+' :: s).length
        (by simp only [List.length_append]; omega) _ rfl
      rw [List.append_assoc]
      exact ⟨g :: gs, .inner hw hgne hgstop hlast hg₀.1 hspaces hgs⟩
    · exact ⟨[r], .last hw hne hr hplus⟩

/-- **The groups of a query are its pieces that are not blank**, where they stand. -/
theorem groups_eq_places (q : Text) : groups q = places 0 q := by
  obtain ⟨gs, hgs⟩ := exists_splits q
  exact hgs.map_runs [] 0 (q.length + 1) rfl (by omega)

/-- **The groups found in a query are those it splits into.** -/
theorem map_snd_groups_eq_iff {q : Text} {gs : List Text} :
    (groups q).map Prod.snd = gs ↔ Splits q gs := by
  have hfound : ∀ gs, Splits q gs → (groups q).map Prod.snd = gs := by
    intro gs h
    rw [groups_eq_places, h.map_snd_places]
  constructor
  · rintro rfl
    obtain ⟨gs, hgs⟩ := exists_splits q
    rwa [hfound gs hgs]
  · exact hfound gs

end Query
end QueryTree
