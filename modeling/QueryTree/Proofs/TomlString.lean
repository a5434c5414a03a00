import QueryTree.Proofs.Hex
import QueryTree.Toml.Printer
import QueryTree.Toml.Scalar

/-!
# Texts between double quotes

A text is written between double quotes character by character: as it is, by a letter behind a
backslash, or by four hexadecimal digits.  The reader of such texts takes one step for each of
these forms and gives the character back, so a written text is read as itself, whatever it holds:
quotes, backslashes, control characters, or nothing.

## Main results

* `Toml.writeChar_cases` — the forms of a written character, and what each is read as.
* `Toml.stringFrom_writeChar` — one step of the reader passes one written character.
* `Toml.basicString_flatMap_writeChar` — **a written text is read back.**
-/

namespace QueryTree.Toml

/-! ### One written character -/

/-- A character that needs no escape is read as it stands. -/
theorem stringFrom_plain {c : Char} (hquote : c ≠ '"') (hslash : c ≠ '\\')
    (hcontrol : isControl c = false) (steps : Nat) (s : Text) :
    stringFrom false (steps + 1) (c :: s)
      = (stringFrom false steps s).map fun r => (c :: r.1, r.2) := by
  have hstart : Text.startsWith (c :: s) ['"', '"', '"'] = false := by
    simp [Text.startsWith, hquote]
  have hrefused : isRefused false c = false := by
    simp [isRefused, hcontrol]
  rw [stringFrom]
  simp only [hquote, decide_false, Bool.false_and, Bool.false_eq_true, if_false, hstart, hslash,
    hrefused]
  cases stringFrom false steps s <;> rfl

/-- An escape is read as what it stands for. -/
theorem stringFrom_escape {e s : Text} {c : Char} (h : stringEscape false (e ++ s) = .ok ([c], s))
    (steps : Nat) :
    stringFrom false (steps + 1) ('\\' :: (e ++ s))
      = (stringFrom false steps s).map fun r => (c :: r.1, r.2) := by
  have hquote : ('\\' = '"') = False := by decide
  have hstart : Text.startsWith ('\\' :: (e ++ s)) ['"', '"', '"'] = false := by
    simp [Text.startsWith]
  rw [stringFrom]
  simp only [hquote, decide_false, Bool.false_and, Bool.false_eq_true, if_false, hstart, if_true, h]
  cases stringFrom false steps s <;> rfl

/-- The escape of a letter. -/
theorem stringEscape_letter {c d : Char} (h : escape? c = some d) (hu : c ≠ 'u') (hU : c ≠ 'U')
    (s : Text) : stringEscape false (c :: s) = .ok ([d], s) := by
  simp [stringEscape, hu, hU, h]

/-- The character of a number that is written in hexadecimal digits. -/
theorem hexChar_hex {width n : Nat} (hn : (Nat.toDigits 16 n).length ≤ width)
    (hscalar : isScalar n = true) (s : Text) :
    hexChar width (Text.hex width n ++ s) = .ok ([Char.ofNat n], s) := by
  have hlen := Text.length_hex hn
  have htake : (Text.hex width n ++ s).take width = Text.hex width n := List.take_left' hlen
  have hdrop : (Text.hex width n ++ s).drop width = s := List.drop_left' hlen
  have hdigits : (Text.hex width n).all (Text.isDigitOf 16) = true :=
    List.all_eq_true.mpr (Text.isDigitOf_of_mem_hex width n)
  simp [hexChar, htake, hdrop, hlen, hdigits, Text.toNumber_hex, hscalar]

/-- The escape of a control character. -/
theorem stringEscape_hex {c : Char} (hc : c.toNat < 128) (s : Text) :
    stringEscape false ('u' :: (Text.hex 4 c.toNat ++ s)) = .ok ([c], s) := by
  have hscalar : isScalar c.toNat = true := by
    simp [isScalar]
    omega
  have hdigits : (Nat.toDigits 16 c.toNat).length ≤ 4 := by
    rw [Nat.length_toDigits_le_iff (by decide) (by decide)]
    omega
  have hhex := hexChar_hex hdigits hscalar s
  rw [Char.ofNat_toNat] at hhex
  simpa [stringEscape] using hhex

/-- The forms of a written character: the character itself, if it is no quote, no backslash and no
control character, or an escape, which has no carriage return in it and stands for the
character. -/
theorem writeChar_cases (c : Char) :
    (writeChar c = [c] ∧ c ≠ '"' ∧ c ≠ '\\' ∧ isControl c = false) ∨
      ∃ e, writeChar c = '\\' :: e ∧ '\r' ∉ e ∧ ∀ s, stringEscape false (e ++ s) = .ok ([c], s) := by
  have hletter : ∀ e d, escape? e = some d → e ≠ 'u' → e ≠ 'U' → '\r' ≠ e →
      ∃ e', ['\\', e] = '\\' :: e' ∧ '\r' ∉ e' ∧
        ∀ s, stringEscape false (e' ++ s) = .ok ([d], s) := by
    intro e d hd hu hU hreturn
    exact ⟨[e], rfl, by simpa using hreturn, stringEscape_letter hd hu hU⟩
  unfold writeChar
  split
  · next hc => subst hc; exact Or.inr (hletter 'b' _ rfl (by decide) (by decide) (by decide))
  split
  · next hc => subst hc; exact Or.inr (hletter 'n' _ rfl (by decide) (by decide) (by decide))
  split
  · next hc => subst hc; exact Or.inr (hletter 'f' _ rfl (by decide) (by decide) (by decide))
  split
  · next hc => subst hc; exact Or.inr (hletter 'r' _ rfl (by decide) (by decide) (by decide))
  split
  · next hc => subst hc; exact Or.inr (hletter '"' _ rfl (by decide) (by decide) (by decide))
  split
  · next hc => subst hc; exact Or.inr (hletter '\\' _ rfl (by decide) (by decide) (by decide))
  next hquote hslash =>
  split
  · next hcontrol =>
    have hlt : c.toNat < 128 := by
      simp only [Bool.or_eq_true, Bool.and_eq_true, decide_eq_true_eq] at hcontrol
      omega
    have hreturn : '\r' ∉ 'u' :: Text.hex 4 c.toNat := by
      rw [List.mem_cons, not_or]
      refine ⟨by decide, fun h => ?_⟩
      exact absurd (Text.isDigitOf_of_mem_hex 4 c.toNat _ h) (by decide)
    exact Or.inr ⟨_, rfl, hreturn, stringEscape_hex hlt⟩
  · next hcontrol => exact Or.inl ⟨rfl, hquote, hslash, Bool.eq_false_iff.mpr hcontrol⟩

/-- **One step of the reader passes one written character.** -/
theorem stringFrom_writeChar (c : Char) (steps : Nat) (s : Text) :
    stringFrom false (steps + 1) (writeChar c ++ s)
      = (stringFrom false steps s).map fun r => (c :: r.1, r.2) := by
  rcases writeChar_cases c with ⟨hc, hquote, hslash, hcontrol⟩ | ⟨e, hc, -, he⟩
  · rw [hc]
    exact stringFrom_plain hquote hslash hcontrol steps s
  · rw [hc]
    exact stringFrom_escape (he s) steps

theorem writeChar_ne_nil (c : Char) : writeChar c ≠ [] := by
  rcases writeChar_cases c with ⟨hc, -⟩ | ⟨e, hc, -⟩ <;> simp [hc]

/-- No character is written with a quote in front. -/
theorem head?_writeChar_ne (c : Char) : (writeChar c).head? ≠ some '"' := by
  rcases writeChar_cases c with ⟨hc, hquote, -⟩ | ⟨e, hc, -⟩
  · simpa [hc] using hquote
  · simp [hc]

/-- No character is written with a carriage return. -/
theorem return_notMem_writeChar (c : Char) : '\r' ∉ writeChar c := by
  rcases writeChar_cases c with ⟨hc, -, -, hcontrol⟩ | ⟨e, hc, hreturn, -⟩
  · rw [hc, List.mem_singleton]
    rintro rfl
    exact absurd hcontrol (by decide)
  · rw [hc, List.mem_cons, not_or]
    exact ⟨by decide, hreturn⟩

/-! ### Written texts -/

/-- The reader passes a written text and stops at the closing quote. -/
theorem stringFrom_flatMap_writeChar (t rest : Text) :
    ∀ steps, t.length < steps →
      stringFrom false steps (t.flatMap writeChar ++ '"' :: rest) = .ok (t, rest) := by
  induction t with
  | nil =>
    intro steps hsteps
    obtain ⟨steps, rfl⟩ : ∃ k, steps = k + 1 := ⟨steps - 1, by simp at hsteps; omega⟩
    rfl
  | cons c t ih =>
    intro steps hsteps
    rw [List.length_cons] at hsteps
    obtain ⟨steps, rfl⟩ : ∃ k, steps = k + 1 := ⟨steps - 1, by omega⟩
    rw [List.flatMap_cons, List.append_assoc, stringFrom_writeChar, ih steps (by omega)]
    rfl

theorem length_le_length_flatMap_writeChar (t : Text) :
    t.length ≤ (t.flatMap writeChar).length := by
  induction t with
  | nil => exact Nat.le_refl _
  | cons c t ih =>
    have hpos := List.length_pos_iff.mpr (writeChar_ne_nil c)
    rw [List.flatMap_cons, List.length_append, List.length_cons]
    omega

/-- **A written text is read back**, up to its closing quote. -/
theorem basicString_flatMap_writeChar (t rest : Text) :
    basicString (t.flatMap writeChar ++ '"' :: rest) = .ok (t, rest) := by
  have hlen := length_le_length_flatMap_writeChar t
  apply stringFrom_flatMap_writeChar
  rw [List.length_append]
  omega

end QueryTree.Toml
