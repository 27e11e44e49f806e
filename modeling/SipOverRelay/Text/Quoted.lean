import SipOverRelay.Text.Attached
import SipOverRelay.Text.Graphless
import SipOverRelay.Text.Ignorable

/-!
# Quoting for diagnostics

Texts that come from outside are quoted in log messages and error texts so that blanks and invisible
characters can be seen. Only the double quote and the backslash are escaped among the characters
with a glyph of their own; characters without one, characters that may be left out, and marks that
attach to the character before them, appear as hexadecimal code points.
-/

namespace SipOverRelay.Text

/-- A character that a reader of a log could not see, or could not tell from the one before it. -/
def isHidden (c : Char) : Bool := isGraphless c || isAttached c || isIgnorable c

/-- One character as it appears between quotes. -/
def quotedChar (c : Char) : List Char :=
  match c with
  | '"' => ['\\', '"']
  | '\\' => ['\\', '\\']
  | '\x00' => ['\\', '0']
  | '\t' => ['\\', 't']
  | '\r' => ['\\', 'r']
  | '\n' => ['\\', 'n']
  | c => if isHidden c then ['\\', 'u', '\x7b'] ++ Nat.toDigits 16 c.toNat ++ ['\x7d'] else [c]

/-- A text between double quotes, its special characters escaped. -/
def quoted (text : String) : String :=
  String.ofList ('"' :: text.toList.flatMap quotedChar ++ ['"'])

/-- A character is hidden exactly if a range of one of the three tables holds its code point. -/
theorem isHidden_iff (c : Char) :
    isHidden c = true ↔ ∃ ranges ∈ [graphlessRanges, attachedRanges, ignorableRanges],
      ∃ r ∈ ranges, r.1 ≤ c.toNat ∧ c.toNat ≤ r.2 := by
  simp only [isHidden, Bool.or_eq_true, isGraphless_iff, isAttached_iff, isIgnorable_iff,
    List.mem_cons, exists_eq_or_imp, exists_eq_left, List.not_mem_nil, or_false, or_assoc]

/-- Hexadecimal digits can be seen. -/
theorem isHidden_eq_false_of_mem_toDigits {n : Nat} {digit : Char} (h : digit ∈ Nat.toDigits 16 n) :
    isHidden digit = false := by
  have hdigits : ∀ d < 16, isHidden d.digitChar = false := by decide +kernel
  induction n using Nat.strongRecOn with
  | _ n ih =>
    rw [Nat.toDigits_eq_if (by decide)] at h
    split at h
    · next hsmall =>
      rw [List.mem_singleton.mp h]
      exact hdigits n hsmall
    · next hlarge =>
      rcases List.mem_append.mp h with hfront | hlast
      · exact ih (n / 16) (by omega) hfront
      · rw [List.mem_singleton.mp hlast]
        exact hdigits (n % 16) (by omega)

/-- In a text that shows all its characters every one can be seen. -/
theorem isHidden_eq_false_of_mem {text : List Char} (h : text.all (!isHidden ·) = true) {c : Char}
    (hc : c ∈ text) : isHidden c = false := by
  have hshown : (!isHidden c) = true := List.all_eq_true.mp h c hc
  simpa using hshown

/-- Whatever stands for a character between quotes can be seen. -/
theorem isHidden_eq_false_of_mem_quotedChar {c shown : Char} (h : shown ∈ quotedChar c) :
    isHidden shown = false := by
  unfold quotedChar at h
  split at h
  case h_7 =>
    split at h
    · rcases List.mem_append.mp h with hfront | hlast
      · rcases List.mem_append.mp hfront with hmark | hdigit
        · exact isHidden_eq_false_of_mem (by decide +kernel) hmark
        · exact isHidden_eq_false_of_mem_toDigits hdigit
      · exact isHidden_eq_false_of_mem (by decide +kernel) hlast
    · next hvisible =>
      rw [List.mem_singleton.mp h]
      exact Bool.not_eq_true _ ▸ hvisible
  -- In front of the last case stand those of the characters with an escape of their own.
  all_goals exact isHidden_eq_false_of_mem (by decide +kernel) h

/-- No character is hidden in a quoted text. -/
theorem isHidden_eq_false_of_mem_quoted {text : String} {shown : Char}
    (h : shown ∈ (quoted text).toList) : isHidden shown = false := by
  rw [quoted, String.toList_ofList] at h
  rcases List.mem_append.mp h with hfront | hlast
  · rcases List.mem_cons.mp hfront with hfirst | hinner
    · exact isHidden_eq_false_of_mem (by decide +kernel) (List.mem_singleton.mpr hfirst)
    · obtain ⟨c, _, hc⟩ := List.mem_flatMap.mp hinner
      exact isHidden_eq_false_of_mem_quotedChar hc
  · exact isHidden_eq_false_of_mem (by decide +kernel) hlast

end SipOverRelay.Text
