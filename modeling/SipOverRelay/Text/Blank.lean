/-!
# White space and words

White space is the Unicode property of that name, which is wider than the ASCII blanks. A text is
cut into words at its white space, and trimmed of it at both ends.
-/

namespace SipOverRelay.Text

/-- White space in the sense of the Unicode character database (25 code points). -/
def isBlank (c : Char) : Bool :=
  let n := c.toNat
  (9 ≤ n && n ≤ 13) || n == 0x20 || n == 0x85 || n == 0xA0 || n == 0x1680 ||
    (0x2000 ≤ n && n ≤ 0x200A) || n == 0x2028 || n == 0x2029 || n == 0x202F || n == 0x205F ||
    n == 0x3000

/-- The maximal runs of characters that are not white space, in order. -/
def words (text : List Char) : List (List Char) :=
  (text.splitOnP isBlank).filter (!·.isEmpty)

/-- The text without the white space at its two ends. -/
def trimBlank (text : List Char) : List Char :=
  ((text.dropWhile isBlank).reverse.dropWhile isBlank).reverse

/-- The 26 capital letters of ASCII become small letters, everything else stays. -/
def toLowerAscii (text : List Char) : List Char := text.map Char.toLower

/-- A text without white space in it. -/
def IsUnbroken (text : List Char) : Prop := ∀ c ∈ text, isBlank c = false

instance (text : List Char) : Decidable (IsUnbroken text) :=
  List.decidableBAll _ text

/-- An empty text has no words. -/
@[simp] theorem words_nil : words [] = [] := rfl

/-- A text is cut at every white space in it. -/
theorem words_append_cons {c : Char} (h : isBlank c = true) (front back : List Char) :
    words (front ++ c :: back) = words front ++ words back := by
  rw [words, List.splitOnP_append_cons front back h, List.filter_append]
  rfl

/-- White space in front of a text adds no words. -/
theorem words_blanks_append {blanks : List Char} (h : ∀ c ∈ blanks, isBlank c = true)
    (back : List Char) : words (blanks ++ back) = words back := by
  induction blanks with
  | nil => rfl
  | cons c blanks ih =>
    obtain ⟨hc, hrest⟩ := List.forall_mem_cons.mp h
    have hcut : words (c :: (blanks ++ back)) = words (blanks ++ back) :=
      words_append_cons hc [] (blanks ++ back)
    rw [List.cons_append, hcut, ih hrest]

/-- A text is cut at every run of white space in it. -/
theorem words_append_blanks {blanks : List Char} (hne : blanks ≠ [])
    (h : ∀ c ∈ blanks, isBlank c = true) (front back : List Char) :
    words (front ++ (blanks ++ back)) = words front ++ words back := by
  obtain ⟨c, rest, rfl⟩ := List.exists_cons_of_ne_nil hne
  obtain ⟨hc, hrest⟩ := List.forall_mem_cons.mp h
  rw [List.cons_append, words_append_cons hc, words_blanks_append hrest]

/-- Texts with one space between them have their own words, in order. -/
theorem words_intercalate (texts : List (List Char)) :
    words ([' '].intercalate texts) = texts.flatMap words := by
  induction texts with
  | nil => rfl
  | cons text texts ih =>
    cases texts with
    | nil => simp
    | cons next texts =>
      rw [List.intercalate_cons_cons, List.append_assoc, List.singleton_append,
        words_append_cons (by decide), ih]
      rfl

/-- A text without white space is one word, unless it is empty. -/
theorem words_of_isUnbroken {text : List Char} (hne : text ≠ []) (h : IsUnbroken text) :
    words text = [text] := by
  rw [words, List.splitOnP_eq_singleton h]
  simp [hne]

/-- No piece between two separators contains another. -/
theorem not_of_mem_splitOnP {p : Char → Bool} {text piece : List Char}
    (h : piece ∈ text.splitOnP p) : ∀ c ∈ piece, p c = false := by
  induction text generalizing piece with
  | nil =>
    rw [List.splitOnP_nil, List.mem_singleton] at h
    rw [h]
    exact fun _ hc => nomatch hc
  | cons c text ih =>
    rw [List.splitOnP_cons_eq_if_modifyHead] at h
    obtain ⟨first, others, hs⟩ := List.exists_cons_of_ne_nil (List.splitOnP_ne_nil p text)
    rw [hs] at h ih
    cases hc : p c with
    | true =>
      rw [if_pos hc, List.mem_cons] at h
      rcases h with rfl | h
      · exact fun _ hc => nomatch hc
      · exact ih h
    | false =>
      rw [if_neg (by simp [hc]), List.modifyHead_cons, List.mem_cons] at h
      rcases h with rfl | h
      · exact List.forall_mem_cons.2 ⟨hc, ih List.mem_cons_self⟩
      · exact ih (List.mem_cons_of_mem _ h)

/-- A word is not empty and has no white space in it. -/
theorem isUnbroken_of_mem_words {text word : List Char} (h : word ∈ words text) :
    word ≠ [] ∧ IsUnbroken word := by
  obtain ⟨hpiece, hne⟩ := List.mem_filter.mp h
  exact ⟨by simpa using hne, not_of_mem_splitOnP hpiece⟩

end SipOverRelay.Text
