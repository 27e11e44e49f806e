import SipOverRelay.Error
import SipOverRelay.Settings.Basic
import SipOverRelay.Text.Blank

/-!
# Reading modes and flags

Modes are read without regard to case or to white space around them. A flag is on if it is one of a
few words, and off otherwise.
-/

namespace SipOverRelay

/-- The mode with this written name. -/
def Mode.ofName? : String → Option Mode
  | "never" => some .never
  | "always" => some .always
  | "auto" => some .auto
  | _ => none

/-- A text as modes are compared: without white space around it and in small letters. -/
def Mode.normalize (text : String) : String :=
  String.ofList (Text.toLowerAscii (Text.trimBlank text.toList))

/-- Reads a mode. -/
def Mode.ofText (text : String) : Except Error Mode :=
  let name := normalize text
  match ofName? name with
  | some mode => .ok mode
  | none => .error (.argument ("tunnel mode " ++ Text.quoted name))

/-- Reads a flag: `1`, `true`, `yes` and `on` turn it on, with any white space around them. -/
def readFlag (text : String) : Bool :=
  String.ofList (Text.trimBlank text.toList) ∈ ["1", "true", "yes", "on"]

/-- A mode is read from its own name. -/
@[simp] theorem Mode.ofName?_name (mode : Mode) : ofName? mode.name = some mode := by
  cases mode <;> rfl

/-- The names of modes are written as modes are compared. -/
@[simp] theorem Mode.normalize_name (mode : Mode) : normalize mode.name = mode.name := by
  cases mode <;> decide

/-- A mode is read from the text that it is written as. -/
@[simp] theorem Mode.ofText_name (mode : Mode) : ofText mode.name = .ok mode := by
  simp [ofText]

/-- A flag is written as a digit and read back. -/
@[simp] theorem readFlag_digit (on : Bool) : readFlag (if on then "1" else "0") = on := by
  cases on <;> decide

end SipOverRelay
