import Mathlib.Algebra.Group.Nat.Defs
import QueryTree.Text.Basic

/-!
# Numbers in hexadecimal digits

A number is written in as many digits as it needs, filled with zeros to a fixed width.  If it fits
into the width, its digits have exactly that width, all of them are digits of the base, and they
write the number.

## Main results

* `Text.toNumber_hex` — **the digits of a number write the number.**
* `Text.length_hex`, `Text.isDigitOf_of_mem_hex` — how many digits, and of which class.
* `Text.take_hex_append`, `Text.drop_hex_append` — digits that fill a width, cut from a text.
-/

namespace QueryTree.Text

/-- The digit of a value has that value. -/
theorem digitValue?_digitChar {d : Nat} (hd : d < 16) : digitValue? 16 d.digitChar = some d := by
  have hall : ∀ k : Fin 16, digitValue? 16 (Nat.digitChar k) = some k.val := by decide
  exact hall ⟨d, hd⟩

theorem toNumber_append_digit {base : Nat} {c : Char} {d : Nat} (h : digitValue? base c = some d)
    (t : Text) : toNumber base (t ++ [c]) = toNumber base t * base + d := by
  simp [toNumber, h]

/-- Zeros in front do not count. -/
theorem toNumber_replicate_append (k : Nat) (t : Text) :
    toNumber 16 (List.replicate k '0' ++ t) = toNumber 16 t := by
  have hzero : digitValue? 16 '0' = some 0 := by decide
  induction k with
  | zero => rfl
  | succ k ih =>
    rw [List.replicate_succ, List.cons_append, ← ih]
    simp [toNumber, hzero]

theorem toNumber_toDigits (n : Nat) : toNumber 16 (Nat.toDigits 16 n) = n := by
  -- strong induction: the last digit is the remainder, the digits before it write the quotient
  induction n using Nat.strongRecOn with
  | _ n ih =>
    rw [Nat.toDigits_eq_if (by decide)]
    split
    · next hlt =>
      have h := toNumber_append_digit (digitValue?_digitChar hlt) []
      simpa [toNumber] using h
    · next hle =>
      have hlt : n / 16 < n := Nat.div_lt_self (by omega) (by decide)
      have hrem : n % 16 < 16 := Nat.mod_lt n (by decide)
      rw [toNumber_append_digit (digitValue?_digitChar hrem), ih _ hlt]
      omega

theorem isDigitOf_of_mem_toDigits (n : Nat) : ∀ c ∈ Nat.toDigits 16 n, isDigitOf 16 c = true := by
  have hdigit : ∀ d, d < 16 → isDigitOf 16 d.digitChar = true := by
    intro d hd
    rw [isDigitOf, digitValue?_digitChar hd]
    rfl
  induction n using Nat.strongRecOn with
  | _ n ih =>
    rw [Nat.toDigits_eq_if (by decide)]
    split
    · next hlt => simpa using hdigit n hlt
    · next hle =>
      have hlt : n / 16 < n := Nat.div_lt_self (by omega) (by decide)
      rw [List.forall_mem_append, List.forall_mem_singleton]
      exact ⟨ih _ hlt, hdigit _ (Nat.mod_lt n (by decide))⟩

/-! ### A fixed width -/

/-- **The digits of a number write the number**, whatever the width. -/
theorem toNumber_hex (width n : Nat) : toNumber 16 (hex width n) = n := by
  unfold hex
  rw [toNumber_replicate_append, toNumber_toDigits]

theorem isDigitOf_of_mem_hex (width n : Nat) : ∀ c ∈ hex width n, isDigitOf 16 c = true := by
  unfold hex
  rw [List.forall_mem_append]
  refine ⟨fun c hc => ?_, isDigitOf_of_mem_toDigits n⟩
  rw [List.eq_of_mem_replicate hc]
  decide

/-- A number whose digits fit into the width fills it. -/
theorem length_hex {width n : Nat} (hn : (Nat.toDigits 16 n).length ≤ width) :
    (hex width n).length = width := by
  unfold hex
  rw [List.length_append, List.length_replicate]
  omega

/-- A number below the power of the base that belongs to the width fills it. -/
theorem length_hex_of_lt {width n : Nat} (hwidth : 0 < width) (hn : n < 16 ^ width) :
    (hex width n).length = width :=
  length_hex ((Nat.length_toDigits_le_iff (by decide) hwidth).mpr hn)

theorem take_hex_append {width n : Nat} (hwidth : 0 < width) (hn : n < 16 ^ width) (s : Text) :
    (hex width n ++ s).take width = hex width n := List.take_left' (length_hex_of_lt hwidth hn)

theorem drop_hex_append {width n : Nat} (hwidth : 0 < width) (hn : n < 16 ^ width) (s : Text) :
    (hex width n ++ s).drop width = s := List.drop_left' (length_hex_of_lt hwidth hn)

end QueryTree.Text
