import QueryTree.Normalizer
import QueryTree.Proofs.LowerCase
import QueryTree.Proofs.Matching

/-!
# What stripping deletes

At each place a pattern is matched once, and once more if the first match is empty.  Since matching
is a search through places ahead, the two attempts come to the same thing: what is deleted is the
first match that is not empty, if there is one.  An empty match before it in the order of the search
hides nothing, and an empty match alone deletes nothing.  So stripping cuts a text into characters
that stay, where no such match starts, and matches that go, and it comes to an end because a match
that goes has a character in it.

A normalizer strips a token and then lower-cases what is left, if it is asked to.  What is left does
not depend on that.

## Main definitions

* `Program.FirstMatch p before w after`: the first match at a place that is not empty is `w`.
* `Program.Strips p before t kept`: deleting such matches from `t`, from left to right, leaves
  `kept`.

## Main results

* `Program.removal_eq`: only matches that are not empty count.
* `Program.strips_iff` — **what stripping leaves.**
* `Pattern.strip_nonWord`: the standard pattern deletes what is no word character.
* `Normalizer.processToken_of_pattern` — **the term of a token is what its pattern leaves of it.**
-/

namespace QueryTree

namespace Program

variable {p : Program}

/-! ### Deleting at a place -/

/-- The matches of a program at a place are found in a list of places ahead. -/
theorem exists_ends (p : Program) (before after : Text) :
    ∃ ends : List Cursor, (∀ d ∈ ends, d.left ≤ after.length) ∧
      ∀ wantsEmpty, p.matchLength? wantsEmpty before after =
        (ends.find? fun d => wantsEmpty || d.left ≠ after.length).map
          fun d => after.length - d.left := by
  obtain ⟨ends, hends, hsearch⟩ := (Regex.searches_run p.regex).exists_ends ⟨before, after, []⟩
  refine ⟨ends, ?_, ?_⟩
  · intro d hd
    exact (hends d hd).left_le
  · intro wantsEmpty
    have haccept : (fun d : Cursor =>
        if d.left = after.length && !wantsEmpty then none else some d)
          = Option.guard fun d => wantsEmpty || d.left ≠ after.length := by
      funext d
      by_cases h : d.left = after.length <;> cases wantsEmpty <;> simp [Option.guard, h]
    rw [matchLength?, haccept, hsearch, List.findSome?_guard]

/-- A match that is not empty has a character in it, and not more than there are. -/
theorem of_matchLength?_eq_some {before after : Text} {n : Nat}
    (h : p.matchLength? false before after = some n) : 0 < n ∧ n ≤ after.length := by
  obtain ⟨ends, hends, hlength⟩ := p.exists_ends before after
  rw [hlength] at h
  obtain ⟨d, hd, rfl⟩ := Option.map_eq_some_iff.mp h
  have hle := hends d (List.mem_of_find?_eq_some hd)
  have hne := List.find?_some hd
  simp only [Bool.false_or, decide_eq_true_eq, ne_eq] at hne
  omega

/-- Only matches that are not empty count. -/
theorem removal_eq (p : Program) (before after : Text) :
    p.removal before after =
      if p.mayStart after then (p.matchLength? false before after).getD 0 else 0 := by
  rw [removal]
  cases p.mayStart after with
  | false => rfl
  | true =>
    obtain ⟨ends, hends, hlength⟩ := p.exists_ends before after
    rw [hlength, hlength]
    cases ends with
    | nil => rfl
    | cons d ds =>
      have hle := hends d List.mem_cons_self
      by_cases hd : d.left = after.length
      · -- the first match is empty, and the search is made again
        simp [hd]
      · -- the first match is not empty, so the other search finds it first, too
        obtain ⟨n, hn⟩ : ∃ n, after.length - d.left = n + 1 :=
          ⟨after.length - d.left - 1, by omega⟩
        simp [hd, hn]

theorem removal_le (p : Program) (before after : Text) : p.removal before after ≤ after.length := by
  rw [removal_eq]
  split
  · cases hlength : p.matchLength? false before after with
    | none => exact Nat.zero_le _
    | some n => exact (of_matchLength?_eq_some hlength).2
  · exact Nat.zero_le _

/-- The first match at a place that is not empty is `w`. -/
structure FirstMatch (p : Program) (before w after : Text) : Prop where
  ne_nil : w ≠ []
  mayStart : p.mayStart (w ++ after) = true
  found : p.matchLength? false before (w ++ after) = some w.length

theorem firstMatch_iff {before w after : Text} :
    p.FirstMatch before w after ↔ w ≠ [] ∧ p.removal before (w ++ after) = w.length := by
  constructor
  · rintro ⟨hne, hstart, hfound⟩
    refine ⟨hne, ?_⟩
    rw [removal_eq, hstart, if_pos rfl, hfound, Option.getD_some]
  · rintro ⟨hne, hremoval⟩
    have hpos : 0 < w.length := List.length_pos_iff.mpr hne
    rw [removal_eq] at hremoval
    split at hremoval
    · next hstart =>
      refine ⟨hne, hstart, ?_⟩
      cases hlength : p.matchLength? false before (w ++ after) with
      | none =>
        rw [hlength, Option.getD_none] at hremoval
        omega
      | some n => rw [← hremoval, hlength, Option.getD_some]
    · omega

/-- What is deleted at a place is a match. -/
theorem exists_firstMatch {before t : Text} (h : p.removal before t ≠ 0) :
    ∃ w after, t = w ++ after ∧ p.FirstMatch before w after := by
  have hle := p.removal_le before t
  have hlength : (t.take (p.removal before t)).length = p.removal before t := by
    rw [List.length_take]
    omega
  refine ⟨_, _, (List.take_append_drop (p.removal before t) t).symm, firstMatch_iff.mpr ⟨?_, ?_⟩⟩
  · intro hnil
    rw [hnil] at hlength
    exact h hlength.symm
  · rw [List.take_append_drop, hlength]

/-- A character stays where no match starts that is not empty. -/
theorem removal_eq_zero_iff {before t : Text} :
    p.removal before t = 0 ↔ ∀ w after, t = w ++ after → ¬ p.FirstMatch before w after := by
  constructor
  · rintro hzero w after rfl hmatch
    obtain ⟨hne, hremoval⟩ := firstMatch_iff.mp hmatch
    rw [hzero] at hremoval
    exact hne (List.length_eq_zero_iff.mp hremoval.symm)
  · intro h
    by_contra hne
    obtain ⟨w, after, heq, hmatch⟩ := exists_firstMatch hne
    exact h w after heq hmatch

/-! ### Deleting along a text -/

theorem stripFrom_skip (p : Program) (w before t : Text) :
    p.stripFrom w.length before (w ++ t) = p.stripFrom 0 (w.reverse ++ before) t := by
  induction w generalizing before with
  | nil => rfl
  | cons c w ih =>
    rw [List.length_cons, List.cons_append, stripFrom, ih, List.reverse_cons, List.append_assoc,
      List.singleton_append]

theorem stripFrom_of_removal_eq_zero {before t : Text} {c : Char}
    (h : p.removal before (c :: t) = 0) :
    p.stripFrom 0 before (c :: t) = c :: p.stripFrom 0 (c :: before) t := by
  rw [stripFrom, h]

theorem stripFrom_of_firstMatch {before w t : Text} (h : p.FirstMatch before w t) :
    p.stripFrom 0 before (w ++ t) = p.stripFrom 0 (w.reverse ++ before) t := by
  obtain ⟨hne, hremoval⟩ := firstMatch_iff.mp h
  cases w with
  | nil => exact absurd rfl hne
  | cons c w =>
    rw [List.cons_append, List.length_cons] at hremoval
    rw [List.cons_append, stripFrom, hremoval, List.reverse_cons, List.append_assoc,
      List.singleton_append]
    exact p.stripFrom_skip w (c :: before) t

/-- `Strips p before t kept` says that deleting, from left to right, the first match at each place
that is not empty leaves `kept` of `t`, where `before` stands before `t`, nearest character first.
Nothing is looked for in what is deleted. -/
inductive Strips (p : Program) : Text → Text → Text → Prop
  /-- The text is at its end. -/
  | nil {before : Text} : Strips p before [] []
  /-- A character stays where no match starts. -/
  | keep {before t kept : Text} {c : Char} :
      (∀ w after, c :: t = w ++ after → ¬ p.FirstMatch before w after) →
      Strips p (c :: before) t kept → Strips p before (c :: t) (c :: kept)
  /-- A match goes, and matching goes on behind it. -/
  | delete {before w t kept : Text} : p.FirstMatch before w t →
      Strips p (w.reverse ++ before) t kept → Strips p before (w ++ t) kept

theorem strips_stripFrom (p : Program) (before t : Text) :
    p.Strips before t (p.stripFrom 0 before t) := by
  -- a match that goes is not empty, so the rest of the text gets shorter
  induction hn : t.length using Nat.strongRecOn generalizing before t with
  | ind n ih =>
    cases t with
    | nil => exact .nil
    | cons c t =>
      by_cases hzero : p.removal before (c :: t) = 0
      · rw [stripFrom_of_removal_eq_zero hzero]
        rw [List.length_cons] at hn
        exact .keep (removal_eq_zero_iff.mp hzero) (ih t.length (by omega) _ t rfl)
      · obtain ⟨w, after, heq, hmatch⟩ := exists_firstMatch hzero
        have hpos : 0 < w.length := List.length_pos_iff.mpr hmatch.ne_nil
        rw [heq, List.length_append] at hn
        rw [heq, stripFrom_of_firstMatch hmatch]
        exact .delete hmatch (ih after.length (by omega) _ after rfl)

theorem Strips.eq_stripFrom {before t kept : Text} (h : p.Strips before t kept) :
    kept = p.stripFrom 0 before t := by
  induction h with
  | nil => rfl
  | keep hnone _ ih => rw [ih, stripFrom_of_removal_eq_zero (removal_eq_zero_iff.mpr hnone)]
  | delete hmatch _ ih => rw [ih, stripFrom_of_firstMatch hmatch]

/-- **What stripping leaves** is what is left when the first match at each place that is not empty
is deleted, from left to right. -/
theorem strips_iff {t kept : Text} : p.Strips [] t kept ↔ kept = p.strip t := by
  constructor
  · intro h
    exact h.eq_stripFrom
  · rintro rfl
    exact p.strips_stripFrom [] t

/-! ### Patterns of no and of one character -/

/-- A program that never finds more than nothing leaves every text as it is. -/
theorem strip_of_empty {look : Option CharTest} (t : Text) :
    (⟨.empty, look⟩ : Program).strip t = t := by
  have hzero : ∀ before after, (⟨.empty, look⟩ : Program).removal before after = 0 := by
    intro before after
    rw [removal_eq]
    simp [matchLength?, Regex.run, Cursor.left]
  have hfrom : ∀ before, (⟨.empty, look⟩ : Program).stripFrom 0 before t = t := by
    induction t with
    | nil =>
      intro before
      rfl
    | cons c t ih =>
      intro before
      rw [stripFrom_of_removal_eq_zero (hzero before _), ih]
  exact hfrom []

/-- A program that deletes single characters, whatever stands around them. -/
theorem stripFrom_eq_filter {keeps : Char → Bool}
    (h : ∀ before c t, p.removal before (c :: t) = if keeps c then 0 else 1) (before t : Text) :
    p.stripFrom 0 before t = t.filter keeps := by
  induction t generalizing before with
  | nil => rfl
  | cons c t ih =>
    rw [stripFrom, h]
    cases hc : keeps c with
    | true => simp [hc, ih]
    | false => simp [hc, ih]

end Program

namespace Pattern

/-- A pattern is the pattern of its text. -/
theorem ofText_source (p : Pattern) : ofText p.source = .ok p := by
  unfold ofText
  split
  · exact congrArg Except.ok (eq_of_source_eq rfl)
  · next e h =>
    rw [p.compiled] at h
    cases h

theorem source_of_ofText {source : Text} {p : Pattern} (h : ofText source = .ok p) :
    p.source = source := by
  unfold ofText at h
  split at h
  · obtain rfl := Except.ok.inj h
    rfl
  · cases h

/-- The pattern without characters leaves every text as it is. -/
theorem strip_of_source_eq_nil {p : Pattern} (h : p.source = []) (t : Text) : p.strip t = t := by
  have hprogram : p.program = ⟨.empty, none⟩ := by
    have hcompiled := p.compiled
    rw [h] at hcompiled
    exact (Except.ok.inj hcompiled).symm
  rw [strip, hprogram, Program.strip_of_empty]

/-- The standard pattern deletes what is no word character. -/
theorem strip_nonWord (t : Text) : nonWord.strip t = t.filter Text.isAsciiWord := by
  refine Program.stripFrom_eq_filter ?_ [] t
  intro before c t
  rw [Program.removal_eq]
  cases hc : Text.isAsciiWord c with
  | true =>
    simp [nonWord, Program.mayStart, CharTest.test, SetMember.covers, Category.has, hc]
  | false =>
    simp [nonWord, Program.mayStart, CharTest.test, SetMember.covers, Category.has, hc,
      Program.matchLength?, Regex.run, Cursor.left]

end Pattern

namespace Normalizer

theorem make_of_ofText {source : Text} {p : Pattern} (h : Pattern.ofText source = .ok p)
    (lowercase : Bool) : make lowercase source = .ok ⟨lowercase, p⟩ := by
  rw [make, h]
  rfl

theorem processToken_eq (n : Normalizer) (token : Text) :
    n.processToken token = if n.normalize token = [] then [] else [n.normalize token] := by
  rw [processToken]
  split
  · next h => rw [if_pos h]
  · next c cs h => rw [h, if_neg (List.cons_ne_nil c cs)]

/-- A normalizer leaves something of a token exactly when its pattern does. -/
theorem normalize_eq_nil_iff {n : Normalizer} {token : Text} :
    n.normalize token = [] ↔ n.pattern.strip token = [] := by
  unfold normalize
  cases n.lowercase with
  | true => exact Text.lower_eq_nil_iff
  | false => rfl

/-- **The term of a token is what its pattern leaves of it.**  For every pattern there is one
subsequence of a token, the one that is left when the first match at each place that is not empty is
deleted, such that a normalizer with this pattern gives no term if nothing is left, and otherwise
what is left as it is, or lower-cased.  The pattern without characters leaves the whole token. -/
theorem processToken_of_pattern {source : Text} {p : Pattern} (h : Pattern.ofText source = .ok p)
    (token : Text) :
    ∃ kept : Text, p.program.Strips [] token kept ∧ kept.Sublist token ∧
      (source = [] → kept = token) ∧
      ∀ lowercase, ∃ n, make lowercase source = .ok n ∧
        (kept = [] ∧ n.processToken token = [] ∨
          ∃ s, s ≠ [] ∧ n.processToken token = [s] ∧
            s = if lowercase then kept.lower else kept) := by
  refine ⟨p.strip token, Program.strips_iff.mpr rfl, p.program.stripFrom_sublist 0 [] token, ?_, ?_⟩
  · intro hsource
    exact Pattern.strip_of_source_eq_nil ((Pattern.source_of_ofText h).trans hsource) token
  · intro lowercase
    refine ⟨_, make_of_ofText h lowercase, ?_⟩
    rw [processToken_eq]
    by_cases hkept : p.strip token = []
    · left
      exact ⟨hkept, if_pos (normalize_eq_nil_iff.mpr hkept)⟩
    · right
      have hterm : normalize ⟨lowercase, p⟩ token ≠ [] := fun hnil =>
        hkept (normalize_eq_nil_iff.mp hnil)
      exact ⟨_, hterm, if_neg hterm, rfl⟩

/-- The pattern `|(?<=B)a` finds nothing first, everywhere, and deletes an `a` behind a `B` all the
same. -/
theorem processToken_of_pattern_behind :
    ∃ (p : Pattern) (n : Normalizer),
      Pattern.ofText ['|', '(', '?', '<', '=', 'B', ')', 'a'] = .ok p ∧
        p.program.Strips [] ['a', 'B', 'a'] ['a', 'B'] ∧
        make true ['|', '(', '?', '<', '=', 'B', ')', 'a'] = .ok n ∧
        n.processToken ['a', 'B', 'a'] = [['a', 'b']] := by
  let p : Pattern :=
    { source := ['|', '(', '?', '<', '=', 'B', ')', 'a']
      program :=
        { regex := .cat (.alt .empty
            (.cat (.look 1 false (.cat (.char ⟨.exact, false, false, [.code 66]⟩) .empty))
              (.cat (.char ⟨.exact, false, false, [.code 97]⟩) .empty))) .empty
          firstLook := none }
      compiled := rfl }
  have hp : Pattern.ofText ['|', '(', '?', '<', '=', 'B', ')', 'a'] = .ok p := p.ofText_source
  obtain ⟨kept, hstrips, -, -, hterms⟩ := processToken_of_pattern hp ['a', 'B', 'a']
  obtain ⟨n, hn, hterm⟩ := hterms true
  obtain rfl : kept = ['a', 'B'] := Program.strips_iff.mp hstrips
  rcases hterm with ⟨hnil, -⟩ | ⟨s, -, hs, rfl⟩
  · cases hnil
  · exact ⟨p, n, hp, hstrips, hn, hs⟩

end Normalizer
end QueryTree
