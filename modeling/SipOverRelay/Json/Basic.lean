/-!
# JSON values

The part of JSON that settings are kept in. Numbers are told apart by what they are good for: plain
natural numbers, and all other spellings, which no setting uses. A string may spell half of a
surrogate pair; such a string has no text.
-/

namespace SipOverRelay

/-- A JSON value as settings see it. -/
inductive Json where
  /-- The null literal. -/
  | null
  /-- A truth value. -/
  | bool (value : Bool)
  /-- A number written with digits alone. -/
  | natural (value : Nat)
  /-- A number with a sign, a fraction or an exponent. -/
  | otherNumber
  /-- A string, with its text unless it spells half of a surrogate pair. -/
  | string (text : Option String)
  /-- A list of values. -/
  | list (items : List Json)
  /-- Named values in the order they stand. -/
  | record (fields : List (Option String × Json))

end SipOverRelay
