/-!
# Unsigned decimal numerals

Numbers are written in decimal without sign or padding. They are read more liberally: a single plus
sign may stand in front, and leading zeros are allowed. A bound rejects values that do not fit.
-/

namespace SipOverRelay.Text

/-- The decimal digits of a number, most significant first. -/
def numeral (n : Nat) : List Char := Nat.toDigits 10 n

/-- The digits that follow the optional plus sign. -/
def unsigned : List Char → List Char
  | '+' :: digits => digits
  | digits => digits

/-- The value of a numeral that is at most `limit`: an optional plus sign, then one or more
ASCII digits. -/
def numeral? (limit : Nat) (text : List Char) : Option Nat :=
  let digits := unsigned text
  if !digits.isEmpty && digits.all Char.isDigit && Nat.ofDigitChars 10 digits 0 ≤ limit then
    some (Nat.ofDigitChars 10 digits 0)
  else
    none

/-- A 16 bit port number. -/
def port? (text : List Char) : Option UInt16 := (numeral? 65535 text).map UInt16.ofNat

/-- A 32 bit number. -/
def word? (text : List Char) : Option UInt32 := (numeral? 4294967295 text).map UInt32.ofNat

/-- A written number consists of digits. -/
theorem isDigit_of_mem_numeral {n : Nat} {c : Char} (h : c ∈ numeral n) : c.isDigit = true :=
  Nat.isDigit_of_mem_toDigits (b := 10) (n := n) (by decide) (by decide) h

/-- A written number begins with a digit. -/
theorem exists_numeral_eq_cons (n : Nat) :
    ∃ c digits, numeral n = c :: digits ∧ c.isDigit = true := by
  have hne : numeral n ≠ [] := Nat.toDigits_ne_nil
  obtain ⟨c, digits, hd⟩ := List.exists_cons_of_ne_nil hne
  exact ⟨c, digits, hd, isDigit_of_mem_numeral (hd ▸ List.mem_cons_self)⟩

/-- Only zero is written with a zero in front. -/
theorem head?_numeral {n : Nat} (hn : 0 < n) : (numeral n).head? ≠ some '0' := by
  induction n using Nat.strongRecOn with
  | _ n ih =>
    rw [numeral, Nat.toDigits_eq_if (by decide)]
    split
    · next hsmall =>
      have hdigit : ∀ d < 10, 0 < d → Nat.digitChar d ≠ '0' := by decide
      simpa using hdigit n hsmall hn
    · next hlarge =>
      have hfront : (numeral (n / 10)).head? ≠ some '0' := ih (n / 10) (by omega) (by omega)
      obtain ⟨c, digits, hd, _⟩ := exists_numeral_eq_cons (n / 10)
      rw [hd] at hfront
      rw [← numeral, hd]
      exact hfront

/-- A digit is no plus sign, so a written number has nothing to strip. -/
@[simp] theorem unsigned_numeral (n : Nat) : unsigned (numeral n) = numeral n := by
  have h : ∀ c ∈ numeral n, c.isDigit = true := fun _ => isDigit_of_mem_numeral
  cases hd : numeral n with
  | nil => rfl
  | cons c cs =>
    have hc := h c (by simp [hd])
    unfold unsigned
    split
    · rename_i heq
      simp only [List.cons.injEq] at heq
      rw [heq.1] at hc
      exact absurd hc (by decide)
    · rfl

/-- What is written within the bound is read back. -/
theorem numeral?_numeral {limit n : Nat} (h : n ≤ limit) : numeral? limit (numeral n) = some n := by
  have hdigits : (numeral n).all Char.isDigit = true :=
    List.all_eq_true.2 fun _ => isDigit_of_mem_numeral
  have hne : (numeral n).isEmpty = false := by
    simp [numeral, Nat.toDigits_ne_nil]
  have hvalue : Nat.ofDigitChars 10 (numeral n) 0 = n := Nat.ofDigitChars_ten_toDigits
  simp [numeral?, hdigits, hne, hvalue, h]

/-- A written port is read back. -/
theorem port?_numeral (p : UInt16) : port? (numeral p.toNat) = some p := by
  simp [port?, numeral?_numeral (show p.toNat ≤ 65535 by have := p.toNat_lt; omega)]

/-- A written 32 bit number is read back. -/
theorem word?_numeral (w : UInt32) : word? (numeral w.toNat) = some w := by
  simp [word?, numeral?_numeral (show w.toNat ≤ 4294967295 by have := w.toNat_lt; omega)]

end SipOverRelay.Text
