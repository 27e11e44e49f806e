import SipOverRelay.Json.Basic
import SipOverRelay.Text.Numeral

/-!
# Writing JSON

Values are written compactly, without any white space. In strings only the double quote, the
backslash and the control characters below the space are escaped. Values that settings never hold
(other numbers, strings without text) are written as null.
-/

namespace SipOverRelay.Json

/-- A code unit below 256 as four hexadecimal digits. -/
def hex4 (n : Nat) : List Char := ['0', '0', Nat.digitChar (n / 16), Nat.digitChar (n % 16)]

/-- One character of a string as it is written. -/
def escapedChar (c : Char) : List Char :=
  match c with
  | '"' => ['\\', '"']
  | '\\' => ['\\', '\\']
  | '\x08' => ['\\', 'b']
  | '\t' => ['\\', 't']
  | '\n' => ['\\', 'n']
  | '\x0c' => ['\\', 'f']
  | '\r' => ['\\', 'r']
  | c => if c.toNat < 0x20 then '\\' :: 'u' :: hex4 c.toNat else [c]

/-- A string as it is written, quotes included. -/
def quoted (text : List Char) : List Char := '"' :: text.flatMap escapedChar ++ ['"']

mutual

/-- The compact text of a value. -/
def print : Json → List Char
  | .null => "null".toList
  | .bool true => "true".toList
  | .bool false => "false".toList
  | .natural n => Text.numeral n
  | .otherNumber => "null".toList
  | .string none => "null".toList
  | .string (some text) => quoted text.toList
  | .list items => '[' :: printItems items ++ [']']
  | .record fields => '\x7b' :: printFields fields ++ ['\x7d']

/-- The items of a list, separated by commas. -/
def printItems : List Json → List Char
  | [] => []
  | [item] => print item
  | item :: next :: items => print item ++ ',' :: printItems (next :: items)

/-- The fields of a record, separated by commas. -/
def printFields : List (Option String × Json) → List Char
  | [] => []
  | [(name, value)] => quoted (name.getD "").toList ++ ':' :: print value
  | (name, value) :: next :: fields =>
    quoted (name.getD "").toList ++ ':' :: print value ++ ',' :: printFields (next :: fields)

end

variable (item next : Json) (items : List Json) (fields : List (Option String × Json))

theorem print_natural (n : Nat) : print (.natural n) = Text.numeral n := rfl

theorem print_string (text : String) : print (.string (some text)) = quoted text.toList := rfl

theorem print_list : print (.list items) = '[' :: printItems items ++ [']'] := rfl

theorem print_record : print (.record fields) = '\x7b' :: printFields fields ++ ['\x7d'] := rfl

theorem printItems_singleton : printItems [item] = item.print := rfl

theorem printItems_cons :
    printItems (item :: next :: items) = item.print ++ ',' :: printItems (next :: items) := rfl

/-- The compact text of a value, as a string. -/
def compact (value : Json) : String := String.ofList value.print

end SipOverRelay.Json
