import Mathlib.Tactic.Choose
import QueryTree.Pattern.Regex

/-!
# Matching as a search

A part of a pattern is matched with what comes after it as an argument, and tries its next choice
when that fails.  So a part at a place stands for a list of further places, those at which it can
end, in the order in which it tries them, and its match is the first of them that is accepted by
what comes after.  What comes after has no other influence.

None of these places lies before the one where the part starts, look-behinds and references
included: a part passes characters of the text or stays where it is.

The proof follows the tree of a pattern.  The repeats need most of it: each kind of round is a
sequence of searches again, and a repeat that keeps its first match ends at one place at most.

## Main definitions

* `Cursor.Precedes c d` — `d` is reached from `c` by passing characters.
* `Regex.Searches m` — the matcher `m` is a search through places that its start precedes.

## Main results

* `Regex.Searches.bind`, `Regex.Searches.or` — searches one after the other, and one or else the
  other.
* `Regex.searches_runRepeated` — every kind of repeat is a search if its rounds are.
* `Regex.searches_run` — **matching a pattern is a search through places ahead.**
-/

namespace QueryTree

namespace Cursor

/-- `c.Precedes d` says that `d` is reached from `c` by passing characters.  What the groups have
captured does not matter. -/
def Precedes (c d : Cursor) : Prop := ∃ w, c.after = w ++ d.after ∧ d.before = w.reverse ++ c.before

theorem Precedes.refl (c : Cursor) : c.Precedes c := ⟨[], rfl, rfl⟩

theorem Precedes.trans {c d e : Cursor} (hcd : c.Precedes d) (hde : d.Precedes e) :
    c.Precedes e := by
  obtain ⟨u, hafter, hbefore⟩ := hcd
  obtain ⟨v, hafter', hbefore'⟩ := hde
  refine ⟨u ++ v, ?_, ?_⟩
  · rw [hafter, hafter', List.append_assoc]
  · rw [hbefore', hbefore, List.reverse_append, List.append_assoc]

/-- A place passes one character at a time. -/
theorem precedes_next {c : Cursor} {x : Char} {xs : Text} (h : c.after = x :: xs) :
    c.Precedes { c with before := x :: c.before, after := xs } := ⟨[x], h, rfl⟩

theorem precedes_record (group : Nat) (start c : Cursor) : c.Precedes (record group start c) :=
  ⟨[], rfl, rfl⟩

theorem precedes_of_follow? {mode : CaseMode} {t : Text} {c d : Cursor}
    (h : follow? mode t c = some d) : c.Precedes d := by
  induction t generalizing c with
  | nil =>
    obtain rfl := Option.some.inj h
    exact Precedes.refl c
  | cons x xs ih =>
    rw [follow?] at h
    split at h
    · cases h
    · next hafter =>
      split at h
      · exact (precedes_next hafter).trans (ih h)
      · cases h

/-- No more is left at a place that comes later. -/
theorem Precedes.left_le {c d : Cursor} (h : c.Precedes d) : d.left ≤ c.left := by
  obtain ⟨w, hafter, -⟩ := h
  rw [left, left, hafter, List.length_append]
  omega

end Cursor

namespace Regex

/-! ### Searches -/

/-- The matcher `m` is a search: at each place there is a list of places that come later, and `m`
gives what its continuation gives at the first of them that it accepts. -/
structure Searches (m : Next → Next) : Prop where
  exists_ends : ∀ c, ∃ ends : List Cursor,
    (∀ d ∈ ends, c.Precedes d) ∧ ∀ next, m next c = ends.findSome? next

/-- A match ends at a place that comes later. -/
theorem Searches.precedes {m : Next → Next} (hm : Searches m) {c d : Cursor}
    (h : m some c = some d) : c.Precedes d := by
  obtain ⟨ends, hends, hsearch⟩ := hm.exists_ends c
  rw [hsearch] at h
  obtain ⟨e, he, hsome⟩ := List.exists_of_findSome?_eq_some h
  obtain rfl := Option.some.inj hsome
  exact hends _ he

/-- A matcher that at each place fails, or goes on from one place that comes later. -/
theorem searches_of_place {m : Next → Next}
    (h : ∀ c, (∀ next, m next c = none) ∨ ∃ d, c.Precedes d ∧ ∀ next, m next c = next d) :
    Searches m := by
  constructor
  intro c
  rcases h c with hfail | ⟨d, hd, hm⟩
  · exact ⟨[], by simp, hfail⟩
  · refine ⟨[d], by simpa using hd, fun next => ?_⟩
    rw [hm, List.findSome?_singleton]

theorem searches_id : Searches fun next => next :=
  searches_of_place fun c => Or.inr ⟨c, Cursor.Precedes.refl c, fun _ => rfl⟩

theorem searches_none : Searches fun _ _ => none := searches_of_place fun _ => Or.inl fun _ => rfl

/-- What a search looks for may depend on the place where it starts. -/
theorem Searches.pointwise {α : Type} {m : α → Next → Next} (hm : ∀ a, Searches (m a))
    (f : Cursor → α) : Searches fun next c => m (f c) next c :=
  ⟨fun c => (hm (f c)).exists_ends c⟩

theorem findSome?_flatMap {α β γ : Type} (xs : List α) (f : α → List β) (g : β → Option γ) :
    (xs.flatMap f).findSome? g = xs.findSome? fun x => (f x).findSome? g := by
  induction xs with
  | nil => rfl
  | cons x xs ih =>
    rw [List.flatMap_cons, List.findSome?_append, ih, List.findSome?_cons]
    cases (f x).findSome? g <;> rfl

/-- One search after the other.  The second may depend on where the first started. -/
theorem Searches.bind {m : Next → Next} {k : Cursor → Next → Next} (hm : Searches m)
    (hk : ∀ c, Searches (k c)) : Searches fun next c => m (k c next) c := by
  constructor
  intro c
  obtain ⟨ends, hends, hsearch⟩ := hm.exists_ends c
  choose further hfurther hsearch' using fun d => (hk c).exists_ends d
  refine ⟨ends.flatMap further, fun e he => ?_, fun next => ?_⟩
  · obtain ⟨d, hd, he⟩ := List.mem_flatMap.mp he
    exact (hends d hd).trans (hfurther d e he)
  · have hnext : k c next = fun d => (further d).findSome? next :=
      funext fun d => hsearch' d next
    rw [hsearch, hnext, findSome?_flatMap]

/-- One search, or else the other. -/
theorem Searches.or {m m' : Next → Next} (hm : Searches m) (hm' : Searches m') :
    Searches fun next c => (m next c).or (m' next c) := by
  constructor
  intro c
  obtain ⟨ends, hends, hsearch⟩ := hm.exists_ends c
  obtain ⟨ends', hends', hsearch'⟩ := hm'.exists_ends c
  refine ⟨ends ++ ends', fun d hd => ?_, fun next => ?_⟩
  · rcases List.mem_append.mp hd with hd | hd
    · exact hends d hd
    · exact hends' d hd
  · rw [hsearch, hsearch', List.findSome?_append]

/-- One of two searches, by a test on the place. -/
theorem Searches.ite {m m' : Next → Next} (p : Cursor → Prop) [DecidablePred p] (hm : Searches m)
    (hm' : Searches m') : Searches fun next c => if p c then m next c else m' next c := by
  constructor
  intro c
  by_cases hp : p c
  · simpa only [if_pos hp] using hm.exists_ends c
  · simpa only [if_neg hp] using hm'.exists_ends c

/-! ### Repeats -/

section Repeats

variable {body : Next → Next}

theorem searches_rounds (hbody : Searches body) (n : Nat) : Searches (rounds body n) := by
  induction n with
  | zero => exact searches_id
  | succ n ih => exact hbody.bind fun _ => ih

theorem moreRounds_succ (body : Next → Next) (next : Next) (n : Nat) (last : Option Nat)
    (c : Cursor) :
    moreRounds body next (n + 1) last c =
      if last = some c.left then next c
      else (body (moreRounds body next n (some c.left)) c).or (next c) := by
  rw [moreRounds]
  split
  · rfl
  · split <;> simp [*]

theorem searches_moreRounds (hbody : Searches body) (n : Nat) (last : Option Nat) :
    Searches fun next => moreRounds body next n last := by
  induction n generalizing last with
  | zero => exact searches_id
  | succ n ih =>
    simp only [funext fun next => funext (moreRounds_succ body next n last)]
    exact searches_id.ite _ ((hbody.bind fun c => ih (some c.left)).or searches_id)

theorem fewRounds_succ (body : Next → Next) (next : Next) (n : Nat) (last : Option Nat)
    (c : Cursor) :
    fewRounds body next (n + 1) last c =
      (next c).or (if last = some c.left then none
        else body (fewRounds body next n (some c.left)) c) := by
  rw [fewRounds]
  split <;> simp [*]

theorem searches_fewRounds (hbody : Searches body) (n : Nat) (last : Option Nat) :
    Searches fun next => fewRounds body next n last := by
  induction n generalizing last with
  | zero => exact searches_id
  | succ n ih =>
    simp only [funext fun next => funext (fewRounds_succ body next n last)]
    exact searches_id.or (searches_none.ite _ (hbody.bind fun c => ih (some c.left)))

theorem precedes_keptRounds (hbody : Searches body) {n : Nat} {c d : Cursor}
    (h : keptRounds body n c = some d) : c.Precedes d := by
  induction n generalizing c with
  | zero =>
    obtain rfl := Option.some.inj h
    exact Cursor.Precedes.refl c
  | succ n ih =>
    rw [keptRounds] at h
    split at h
    · cases h
    · next hround => exact (hbody.precedes hround).trans (ih h)

theorem precedes_keptMore (hbody : Searches body) (n : Nat) (c : Cursor) :
    c.Precedes (keptMore body n c) := by
  induction n generalizing c with
  | zero => exact Cursor.Precedes.refl c
  | succ n ih =>
    rw [keptMore]
    split
    · exact Cursor.Precedes.refl c
    · next d hround =>
      split
      · exact hbody.precedes hround
      · exact (hbody.precedes hround).trans (ih d)

/-- Every kind of repeat is a search if its rounds are. -/
theorem searches_runRepeated (hbody : Searches body) (kind : RepeatKind) (least : Nat)
    (most : Option Nat) : Searches (runRepeated kind least most body) := by
  cases kind with
  | greedy =>
    exact (searches_rounds hbody least).bind fun _ =>
      Searches.pointwise (fun n => searches_moreRounds hbody n none) (spare least most)
  | lazy =>
    exact (searches_rounds hbody least).bind fun _ =>
      Searches.pointwise (fun n => searches_fewRounds hbody n none) (spare least most)
  | possessive =>
    -- the rounds keep their matches, so there is one place to go on from
    refine searches_of_place fun c => ?_
    cases hrounds : keptRounds body least c with
    | none => exact Or.inl fun next => by simp only [runRepeated, hrounds]
    | some d =>
      refine Or.inr ⟨keptMore body (spare least most d) d, ?_, fun next => ?_⟩
      · exact (precedes_keptRounds hbody hrounds).trans (precedes_keptMore hbody _ d)
      · simp only [runRepeated, hrounds]

end Repeats

/-! ### Patterns -/

/-- **Matching a pattern is a search through places ahead.** -/
theorem searches_run (r : Regex) : Searches (run r) := by
  induction r with
  | empty => exact searches_id
  | char t =>
    refine searches_of_place fun c => ?_
    cases hafter : c.after with
    | nil => exact Or.inl fun next => by simp only [run, hafter]
    | cons x xs =>
      by_cases htest : t.test x = true
      · refine Or.inr ⟨_, Cursor.precedes_next hafter, fun next => ?_⟩
        simp only [run, hafter, if_pos htest]
      · exact Or.inl fun next => by simp only [run, hafter, if_neg htest]
  | cat a b iha ihb => exact iha.bind fun _ => ihb
  | alt a b iha ihb =>
    have h : run (.alt a b) = fun next c => (run a next c).or (run b next c) := by
      funext next c
      rw [run]
      split <;> simp [*]
    rw [h]
    exact iha.or ihb
  | capture group r ih =>
    exact ih.bind fun c => searches_of_place fun d =>
      Or.inr ⟨_, Cursor.precedes_record group c d, fun _ => rfl⟩
  | reference group mode =>
    refine searches_of_place fun c => ?_
    cases hcapture : c.captures.lookup group with
    | none => exact Or.inl fun next => by simp only [run, hcapture]
    | some t =>
      cases hfollow : Cursor.follow? mode t c with
      | none => exact Or.inl fun next => by simp only [run, hcapture, hfollow]
      | some d =>
        refine Or.inr ⟨d, Cursor.precedes_of_follow? hfollow, fun next => ?_⟩
        simp only [run, hcapture, hfollow]
  | place t => exact searches_id.ite _ searches_none
  | look behind negated r ih =>
    -- whatever is found, matching goes on from where it was
    refine searches_of_place fun c => ?_
    cases hfound : (c.back? behind).bind (run r some) with
    | none =>
      cases negated with
      | false => exact Or.inl fun next => by simp only [run, hfound]; rfl
      | true =>
        exact Or.inr ⟨c, Cursor.Precedes.refl c, fun next => by simp only [run, hfound, if_pos]⟩
    | some d =>
      cases negated with
      | false =>
        refine Or.inr ⟨{ c with captures := d.captures }, ⟨[], rfl, rfl⟩, fun next => ?_⟩
        simp only [run, hfound]
        rfl
      | true => exact Or.inl fun next => by simp only [run, hfound, if_pos]
  | atomic r ih =>
    refine searches_of_place fun c => ?_
    cases hmatch : run r some c with
    | none => exact Or.inl fun next => by simp only [run, hmatch]
    | some d => exact Or.inr ⟨d, ih.precedes hmatch, fun next => by simp only [run, hmatch]⟩
  | repeated kind least most r ih => exact searches_runRepeated ih kind least most
  | condition group yes no ihyes ihno => exact ihyes.ite _ ihno

end Regex
end QueryTree
