import SipOverRelay.Settings.Layout

/-!
# JSON values through their text

What the writer makes of a value, the reader takes off the front of any text that goes on behind it.
For strings this is said of one character at a time: its escape, or the character itself, gives one
piece, and the pieces spell the string again. A number ends where nothing follows that a number
could go on with, and behind a value stands nothing, a comma or a closing bracket. Lists and
records come back item by item; the length of the written text bounds the nesting.
-/

namespace SipOverRelay.Json

/-! ### Strings -/

/-- The piece that a character of a string is written as. -/
def piece (c : Char) : Piece :=
  if c.toNat < 0x20 ∧ c ∉ ['\x08', '\t', '\n', '\x0c', '\r'] then .unit c.toNat else .char c

/-- A scanned string with one more piece in front. -/
def behind (first : Piece) (scanned : Option (List Piece × List Char)) :
    Option (List Piece × List Char) :=
  scanned.map fun (pieces, rest) => (first :: pieces, rest)

/-- A control character is read back from its digits. -/
theorem hex4?_hex4 :
    ∀ n < 0x20, hex4? '0' '0' (Nat.digitChar (n / 16)) (Nat.digitChar (n % 16)) = some n := by
  decide

/-- A one letter escape is one piece. -/
theorem scanString_letter {e c : Char} (hletter : letterEscape? e = some c) (hu : e ≠ 'u')
    (more : List Char) : scanString ('\\' :: e :: more) = behind (.char c) (scanString more) := by
  rw [scanString, hletter]
  · cases scanString more <;> rfl
  · exact fun _ _ _ _ _ h _ => hu h

/-- A control character in hexadecimal is one piece. -/
theorem scanString_unit {n : Nat} (hn : n < 0x20) (more : List Char) :
    scanString ('\\' :: 'u' :: hex4 n ++ more) = behind (.unit n) (scanString more) := by
  simp only [hex4, List.cons_append, List.nil_append]
  rw [scanString, hex4?_hex4 n hn]
  cases scanString more <;> rfl

/-- A character that needs no escape is one piece. -/
theorem scanString_plain {c : Char} (hquote : c ≠ '"') (hslash : c ≠ '\\')
    (hc : ¬c.toNat < 0x20) (more : List Char) :
    scanString (c :: more) = behind (.char c) (scanString more) := by
  rw [scanString]
  · rw [if_neg (by simpa using ⟨hslash, Nat.le_of_not_lt hc⟩)]
    cases scanString more <;> rfl
  · exact hquote
  · exact fun _ _ _ _ _ h _ => hslash h
  · exact fun _ _ h _ => hslash h

/-- A written character is one piece. -/
theorem scanString_escapedChar (c : Char) (more : List Char) :
    scanString (escapedChar c ++ more) = behind (piece c) (scanString more) := by
  unfold escapedChar
  split
  case h_8 hquote hslash hb ht hn hf hr =>
    have hword : c ∉ ['\x08', '\t', '\n', '\x0c', '\r'] := by
      simpa using ⟨hb, ht, hn, hf, hr⟩
    split
    · next hc =>
      rw [piece, if_pos ⟨hc, hword⟩]
      exact scanString_unit hc more
    · next hc =>
      rw [piece, if_neg fun h => hc h.1]
      exact scanString_plain hquote hslash hc more
  -- The seven characters with an escape of their own.
  all_goals exact scanString_letter rfl (by decide) more

/-- A written string is scanned up to its closing quote. -/
theorem scanString_flatMap (text rest : List Char) :
    scanString (text.flatMap escapedChar ++ '"' :: rest) = some (text.map piece, rest) := by
  induction text with
  | nil => rfl
  | cons c text ih =>
    rw [List.flatMap_cons, List.append_assoc, scanString_escapedChar, ih]
    rfl

/-- A control character is no half of a surrogate pair. -/
theorem spell?_unit {n : Nat} (hn : n < 0x20) (pieces : List Piece) :
    spell? (.unit n :: pieces) = (spell? pieces).map (Char.ofNat n :: ·) := by
  have hhigh : isHighSurrogate n = false := by
    simp only [isHighSurrogate, Bool.and_eq_false_iff, decide_eq_false_iff_not]
    omega
  have hlow : isLowSurrogate n = false := by
    simp only [isLowSurrogate, Bool.and_eq_false_iff, decide_eq_false_iff_not]
    omega
  match pieces with
  | [] => simp [spell?, hhigh, hlow]
  | .char _ :: _ => simp [spell?, hhigh, hlow]
  | .unit _ :: _ => simp [spell?, hhigh, hlow]

/-- The pieces of a written string spell it. -/
theorem spell?_map_piece (text : List Char) : spell? (text.map piece) = some text := by
  induction text with
  | nil => rfl
  | cons c text ih =>
    have hc : spell? (piece c :: text.map piece) = (spell? (text.map piece)).map (c :: ·) := by
      unfold piece
      split
      · next h => rw [spell?_unit h.1, Char.ofNat_toNat]
      · rw [spell?]
    rw [List.map_cons, hc, ih]
    rfl

/-- A written string stands between quotes. -/
theorem quoted_append (text rest : List Char) :
    quoted text ++ rest = '"' :: (text.flatMap escapedChar ++ '"' :: rest) := by
  simp [quoted]

/-- A written string is read back. -/
theorem readString_quoted (text : String) (rest : List Char) :
    readString (text.toList.flatMap escapedChar ++ '"' :: rest) = some (some text, rest) := by
  have hspelt : (spell? (text.toList.map piece)).map String.ofList = some text := by
    rw [spell?_map_piece, Option.map_some, String.ofList_toList]
  rw [readString, scanString_flatMap, Option.map_some]
  exact congrArg (fun text => some (text, rest)) hspelt

/-! ### Numbers -/

/-- A digit differs from every character that is none. -/
theorem ne_of_isDigit {c d : Char} (hc : c.isDigit = true) (hd : d.isDigit = false) : c ≠ d := by
  rintro rfl
  rw [hd] at hc
  cases hc

/-- What follows a number ends it. -/
def EndsNumber (rest : List Char) : Prop :=
  ∀ c ∈ rest.head?, c.isDigit = false ∧ c ≠ '.' ∧ c ≠ 'e' ∧ c ≠ 'E'

/-- A number ends where the text does. -/
theorem endsNumber_nil : EndsNumber [] := fun _ hc => nomatch hc

/-- A number ends in front of what may follow a value. -/
theorem endsNumber_cons {c : Char} (h : c ∈ [',', ']', '\x7d']) (rest : List Char) :
    EndsNumber (c :: rest) := by
  have hc : c.isDigit = false ∧ c ≠ '.' ∧ c ≠ 'e' ∧ c ≠ 'E' := by
    simp only [List.mem_cons, List.not_mem_nil, or_false] at h
    rcases h with rfl | rfl | rfl <;> decide
  intro d hd
  rwa [← Option.some.inj hd]

/-- Digits are read up to the first character that is none. -/
theorem readDigits_append {digits rest : List Char} (hne : digits ≠ [])
    (hdigits : ∀ c ∈ digits, c.isDigit = true) (hrest : ∀ c ∈ rest.head?, c.isDigit = false) :
    readDigits (digits ++ rest) = some (digits, rest) := by
  have hnone : rest.takeWhile Char.isDigit = [] ∧ rest.dropWhile Char.isDigit = rest := by
    cases rest with
    | nil => exact ⟨rfl, rfl⟩
    | cons c rest =>
      have hc : ¬c.isDigit = true := by simp [hrest c rfl]
      exact ⟨List.takeWhile_cons_of_neg hc, List.dropWhile_cons_of_neg hc⟩
  have htake : (digits ++ rest).takeWhile Char.isDigit = digits := by
    rw [List.takeWhile_append_of_pos hdigits, hnone.1, List.append_nil]
  have hdrop : (digits ++ rest).dropWhile Char.isDigit = rest := by
    rw [List.dropWhile_append_of_pos hdigits, hnone.2]
  rw [readDigits, htake, hdrop, if_neg (by simpa using hne)]

/-- Where a number ends there is no fraction and no exponent. -/
theorem readTail_of_endsNumber {rest : List Char} (h : EndsNumber rest) :
    readTail rest = some (false, rest) := by
  cases rest with
  | nil => rfl
  | cons c rest =>
    obtain ⟨_, hpoint, he, hE⟩ := h c rfl
    unfold readTail
    split
    · next heq => exact absurd (List.cons.inj heq).1 hpoint
    · simp [he, hE]

/-- A written number is read back. -/
theorem readNumber_numeral (n : Nat) {rest : List Char} (h : EndsNumber rest) :
    readNumber (Text.numeral n ++ rest) = some (.natural n, rest) := by
  have hdigits : ∀ c ∈ Text.numeral n, c.isDigit = true := fun _ => Text.isDigit_of_mem_numeral
  have hne : Text.numeral n ≠ [] := Nat.toDigits_ne_nil
  have hread : readDigits (Text.numeral n ++ rest) = some (Text.numeral n, rest) :=
    readDigits_append hne hdigits fun c hc => (h c hc).1
  have hvalue : Nat.ofDigitChars 10 (Text.numeral n) 0 = n := Nat.ofDigitChars_ten_toDigits
  have hpadded :
      ((Text.numeral n).length > 1 && (Text.numeral n).head? = some '0') = false := by
    cases n with
    | zero => decide
    | succ n => simp [Text.head?_numeral (Nat.succ_pos n)]
  -- The first digit is no minus sign.
  have hfirst : (Text.numeral n ++ rest).head? ≠ some '-' := by
    obtain ⟨c, digits, hd, hc⟩ := Text.exists_numeral_eq_cons n
    rw [hd]
    exact fun hminus => ne_of_isDigit hc (by decide) (Option.some.inj hminus)
  unfold readNumber
  split
  next negative text hsign =>
  split at hsign
  · next heq => exact absurd (congrArg List.head? heq) hfirst
  · obtain ⟨rfl, rfl⟩ := Prod.mk.inj hsign
    simp only [hread, Option.bind_eq_bind, Option.bind_some, hpadded, readTail_of_endsNumber h,
      hvalue]
    rfl

/-! ### White space -/

/-- Nothing is skipped in front of a token. -/
theorem skipSpace_cons {c : Char} (h : isSpace c = false) (text : List Char) :
    skipSpace (c :: text) = c :: text := by
  rw [skipSpace, List.dropWhile_cons_of_neg (by simp [h])]

/-- A digit is no white space. -/
theorem isSpace_of_isDigit {c : Char} (hc : c.isDigit = true) : isSpace c = false := by
  have hne (d : Char) (hd : d.isDigit = false) : c ≠ d := ne_of_isDigit hc hd
  simp [isSpace, hne ' ' (by decide), hne '\n' (by decide), hne '\t' (by decide),
    hne '\r' (by decide)]

/-! ### Values -/

/-- A value that its text tells whole: every string in it has a text, every field has a name, and
every number is a natural one. -/
inductive IsPlain : Json → Prop where
  /-- The null literal. -/
  | null : IsPlain .null
  /-- A truth value. -/
  | bool (value : Bool) : IsPlain (.bool value)
  /-- A natural number. -/
  | natural (value : Nat) : IsPlain (.natural value)
  /-- A string with its text. -/
  | string (text : String) : IsPlain (.string (some text))
  /-- A list of plain values. -/
  | list {items : List Json} (h : ∀ item ∈ items, IsPlain item) : IsPlain (.list items)
  /-- A record of named plain values. -/
  | record {fields : List (String × Json)} (h : ∀ field ∈ fields, IsPlain field.2) :
    IsPlain (.ofFields fields)

/-- A value is read back from its text, whatever follows it. -/
def IsReadBack (value : Json) : Prop :=
  ∀ fuel rest, value.print.length < fuel → EndsNumber rest →
    readValue fuel (value.print ++ rest) = some (value, rest)

/-- A written value begins with a character that is neither white space nor a closing bracket. -/
theorem exists_print_eq_cons {value : Json} (h : IsPlain value) :
    ∃ c text, value.print = c :: text ∧ isSpace c = false ∧ c ≠ ']' := by
  cases h with
  | null => exact ⟨_, _, rfl, by decide, by decide⟩
  | bool value => cases value <;> exact ⟨_, _, rfl, by decide, by decide⟩
  | natural n =>
    obtain ⟨c, digits, hd, hc⟩ := Text.exists_numeral_eq_cons n
    have hprint : (Json.natural n).print = c :: digits := by rw [print_natural, hd]
    exact ⟨c, digits, hprint, isSpace_of_isDigit hc, ne_of_isDigit hc (by decide)⟩
  | string text => exact ⟨_, _, rfl, by decide, by decide⟩
  | list h => exact ⟨_, _, print_list _, by decide, by decide⟩
  | record h => exact ⟨_, _, print_record _, by decide, by decide⟩

/-- What begins with a digit is read as a number. -/
theorem readValue_numeral (fuel n : Nat) {rest : List Char} (h : EndsNumber rest) :
    readValue (fuel + 1) (Text.numeral n ++ rest) = some (.natural n, rest) := by
  obtain ⟨c, digits, hd, hc⟩ := Text.exists_numeral_eq_cons n
  have hread : readNumber (c :: (digits ++ rest)) = some (.natural n, rest) := by
    rw [← List.cons_append, ← hd]
    exact readNumber_numeral n h
  rw [hd, List.cons_append, readValue, skipSpace_cons (isSpace_of_isDigit hc)]
  split
  case h_7 => exact hread
  all_goals next heq => exact absurd (List.cons.inj heq).1 (ne_of_isDigit hc (by decide))

/-- A written string is read back as a value. -/
theorem isReadBack_string (text : String) : IsReadBack (.string (some text)) := by
  rintro (_ | fuel) rest hfuel _
  · cases hfuel
  · rw [print_string, quoted_append, readValue, skipSpace_cons (by decide)]
    simp only [readString_quoted, Option.map_some]

/-! ### Lists -/

/-- A list ends behind its last item. -/
theorem readItems_last {fuel : Nat} {text rest : List Char} {item : Json}
    (h : readValue fuel text = some (item, ']' :: rest)) :
    readItems (fuel + 1) text = some ([item], rest) := by
  rw [readItems, h]
  rfl

/-- A list goes on behind an item with a comma. -/
theorem readItems_next {fuel : Nat} {text more rest : List Char} {item : Json}
    {items : List Json} (h : readValue fuel text = some (item, ',' :: more))
    (hitems : readItems fuel more = some (items, rest)) :
    readItems (fuel + 1) text = some (item :: items, rest) := by
  have hcomma : skipSpace (',' :: more) = ',' :: more := skipSpace_cons (by decide) more
  rw [readItems, h]
  simp only [Option.bind_eq_bind, Option.bind_some, hcomma, hitems]
  rfl

/-- Written items are read back, up to the closing bracket. -/
theorem readItems_printItems {item : Json} {items : List Json}
    (hread : ∀ value ∈ item :: items, IsReadBack value) {fuel : Nat}
    (hfuel : (printItems (item :: items)).length + 1 < fuel) (rest : List Char) :
    readItems fuel (printItems (item :: items) ++ ']' :: rest) = some (item :: items, rest) := by
  have hback : IsReadBack item := hread item List.mem_cons_self
  obtain ⟨fuel, rfl⟩ := Nat.exists_eq_succ_of_ne_zero (Nat.ne_zero_of_lt hfuel)
  induction items generalizing item fuel with
  | nil =>
    have hshort : item.print.length < fuel := by
      rw [printItems_singleton] at hfuel
      omega
    rw [printItems_singleton]
    exact readItems_last (hback fuel _ hshort (endsNumber_cons (by decide) rest))
  | cons next items ih =>
    rw [printItems_cons, List.length_append, List.length_cons] at hfuel
    have hshort : item.print.length < fuel := by omega
    obtain ⟨less, rfl⟩ := Nat.exists_eq_succ_of_ne_zero (Nat.ne_zero_of_lt hshort)
    have hitems : readItems (less + 1) (printItems (next :: items) ++ ']' :: rest) =
        some (next :: items, rest) :=
      ih (fun value hvalue => hread value (List.mem_cons_of_mem _ hvalue))
        (hread next (List.mem_cons_of_mem _ List.mem_cons_self)) less (by omega)
    rw [printItems_cons, List.append_assoc, List.cons_append]
    exact readItems_next (hback _ _ hshort (endsNumber_cons (by decide) _)) hitems

/-- Behind an opening bracket come the items, unless it is closed at once. -/
theorem readValue_list {c : Char} (hspace : isSpace c = false) (hc : c ≠ ']') (fuel : Nat)
    (text : List Char) : readValue (fuel + 1) ('[' :: c :: text) =
      (readItems fuel (c :: text)).map fun (items, rest) => (.list items, rest) := by
  rw [readValue, skipSpace_cons (by decide)]
  simp only [skipSpace_cons hspace]
  split
  · next heq => exact absurd (List.cons.inj heq).1 hc
  · rfl

/-- A written list is read back if its items are. -/
theorem isReadBack_list {items : List Json} (hplain : ∀ item ∈ items, IsPlain item)
    (hread : ∀ item ∈ items, IsReadBack item) : IsReadBack (.list items) := by
  rintro (_ | fuel) rest hfuel _
  · cases hfuel
  cases items with
  | nil => rfl
  | cons item items =>
    have hprint : (list (item :: items)).print ++ rest =
        '[' :: (printItems (item :: items) ++ ']' :: rest) := by
      simp [print_list]
    have hshort : (printItems (item :: items)).length + 1 < fuel := by
      have hlength := congrArg List.length hprint
      simp only [List.length_append, List.length_cons] at hlength
      omega
    have hitems := readItems_printItems hread hshort rest
    obtain ⟨c, text, hhead, hspace, hc⟩ := exists_print_eq_cons (hplain item List.mem_cons_self)
    obtain ⟨tail, htail⟩ : ∃ tail, printItems (item :: items) = c :: tail := by
      cases items with
      | nil => exact ⟨text, hhead⟩
      | cons next items => exact ⟨_, by rw [printItems_cons, hhead, List.cons_append]⟩
    rw [htail, List.cons_append] at hprint hitems
    rw [hprint, readValue_list hspace hc, hitems, Option.map_some]

/-! ### Records -/

/-- Named values as a record has them. -/
def named (fields : List (String × Json)) : List (Option String × Json) :=
  fields.map fun (name, value) => (some name, value)

/-- A record ends behind its last field. -/
theorem readFields_last {fuel : Nat} {text rest : List Char} {value : Json} (name : String)
    (h : readValue fuel text = some (value, '\x7d' :: rest)) :
    readFields (fuel + 1) (quoted name.toList ++ ':' :: text) =
      some ([(some name, value)], rest) := by
  have hcolon : skipSpace (':' :: text) = ':' :: text := skipSpace_cons (by decide) text
  rw [quoted_append, readFields, skipSpace_cons (by decide)]
  simp only [readString_quoted, Option.bind_eq_bind, Option.bind_some, hcolon, h]
  rfl

/-- A record goes on behind a field with a comma. -/
theorem readFields_next {fuel : Nat} {text more rest : List Char} {value : Json}
    {fields : List (Option String × Json)} (name : String)
    (h : readValue fuel text = some (value, ',' :: more))
    (hfields : readFields fuel more = some (fields, rest)) :
    readFields (fuel + 1) (quoted name.toList ++ ':' :: text) =
      some ((some name, value) :: fields, rest) := by
  have hcolon : skipSpace (':' :: text) = ':' :: text := skipSpace_cons (by decide) text
  have hcomma : skipSpace (',' :: more) = ',' :: more := skipSpace_cons (by decide) more
  rw [quoted_append, readFields, skipSpace_cons (by decide)]
  simp only [readString_quoted, Option.bind_eq_bind, Option.bind_some, hcolon, h, hcomma,
    hfields]
  rfl

/-- Written fields are read back, up to the closing brace. -/
theorem readFields_printFields {field : String × Json} {fields : List (String × Json)}
    (hread : ∀ other ∈ field :: fields, IsReadBack other.2) {fuel : Nat}
    (hfuel : (printFields (named (field :: fields))).length < fuel) (rest : List Char) :
    readFields fuel (printFields (named (field :: fields)) ++ '\x7d' :: rest) =
      some (named (field :: fields), rest) := by
  have hback : IsReadBack field.2 := hread field List.mem_cons_self
  obtain ⟨fuel, rfl⟩ := Nat.exists_eq_succ_of_ne_zero (Nat.ne_zero_of_lt hfuel)
  induction fields generalizing field fuel with
  | nil =>
    have hprint : printFields (named [field]) = quoted field.1.toList ++ ':' :: field.2.print :=
      rfl
    rw [hprint, List.length_append, List.length_cons] at hfuel
    have hshort : field.2.print.length < fuel := by omega
    rw [hprint, List.append_assoc, List.cons_append]
    exact readFields_last field.1 (hback fuel _ hshort (endsNumber_cons (by decide) rest))
  | cons next fields ih =>
    have hprint : printFields (named (field :: next :: fields)) =
        quoted field.1.toList ++ ':' :: field.2.print ++
          ',' :: printFields (named (next :: fields)) := rfl
    rw [hprint, List.length_append, List.length_append, List.length_cons, List.length_cons]
      at hfuel
    have hshort : field.2.print.length < fuel := by omega
    obtain ⟨less, rfl⟩ := Nat.exists_eq_succ_of_ne_zero (Nat.ne_zero_of_lt hshort)
    have hfields : readFields (less + 1) (printFields (named (next :: fields)) ++ '\x7d' :: rest) =
        some (named (next :: fields), rest) :=
      ih (fun other hother => hread other (List.mem_cons_of_mem _ hother))
        (hread next (List.mem_cons_of_mem _ List.mem_cons_self)) less (by omega)
    rw [hprint, List.append_assoc, List.append_assoc, List.cons_append, List.cons_append]
    exact readFields_next field.1 (hback _ _ hshort (endsNumber_cons (by decide) _)) hfields

/-- Behind an opening brace come the fields, unless it is closed at once. -/
theorem readValue_record {c : Char} (hspace : isSpace c = false) (hc : c ≠ '\x7d') (fuel : Nat)
    (text : List Char) : readValue (fuel + 1) ('\x7b' :: c :: text) =
      (readFields fuel (c :: text)).map fun (fields, rest) => (.record fields, rest) := by
  rw [readValue, skipSpace_cons (by decide)]
  simp only [skipSpace_cons hspace]
  split
  · next heq => exact absurd (List.cons.inj heq).1 hc
  · rfl

/-- A written record is read back if its values are. -/
theorem isReadBack_ofFields {fields : List (String × Json)}
    (hread : ∀ field ∈ fields, IsReadBack field.2) : IsReadBack (.ofFields fields) := by
  rintro (_ | fuel) rest hfuel _
  · cases hfuel
  cases fields with
  | nil => rfl
  | cons field fields =>
    have hprint : (ofFields (field :: fields)).print ++ rest =
        '\x7b' :: (printFields (named (field :: fields)) ++ '\x7d' :: rest) := by
      simp [ofFields, print_record, named]
    have hshort : (printFields (named (field :: fields))).length < fuel := by
      have hlength := congrArg List.length hprint
      simp only [List.length_append, List.length_cons] at hlength
      omega
    have hfields := readFields_printFields hread hshort rest
    obtain ⟨tail, htail⟩ : ∃ tail, printFields (named (field :: fields)) = '"' :: tail := by
      cases fields <;> exact ⟨_, rfl⟩
    rw [htail, List.cons_append] at hprint hfields
    rw [hprint, readValue_record (by decide) (by decide), hfields, Option.map_some]
    rfl

/-! ### Whole texts -/

/-- Every plain value is read back. -/
theorem isReadBack {value : Json} (h : IsPlain value) : IsReadBack value := by
  induction h with
  | null =>
    rintro (_ | fuel) rest hfuel _
    · cases hfuel
    · rfl
  | bool value =>
    rintro (_ | fuel) rest hfuel _
    · cases hfuel
    · cases value <;> rfl
  | natural n =>
    rintro (_ | fuel) rest hfuel hrest
    · cases hfuel
    · rw [print_natural]
      exact readValue_numeral fuel n hrest
  | string text => exact isReadBack_string text
  | list hplain hread => exact isReadBack_list hplain hread
  | record hplain hread => exact isReadBack_ofFields hread

/-- A plain value is what its text is read as. -/
theorem ofText?_compact {value : Json} (h : IsPlain value) :
    ofText? value.compact = some value := by
  have hread : readValue (value.print.length + 1) (value.print ++ []) = some (value, []) :=
    isReadBack h _ _ (Nat.lt_succ_self _) endsNumber_nil
  rw [List.append_nil] at hread
  rw [ofText?, compact, String.toList_ofList, read?, hread]
  rfl

end SipOverRelay.Json
