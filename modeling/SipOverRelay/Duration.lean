/-!
# Lengths of time

Times are counted in microseconds: fine enough to tell apart a wait and the same wait shortened by
the moment it took to look at the clock. Settings give them in milliseconds.
-/

namespace SipOverRelay

/-- A time or a length of time, in microseconds. -/
abbrev Micros := Nat

namespace Micros

/-- A length of time given in milliseconds. -/
def ofMillis (millis : Nat) : Micros := 1000 * millis

/-- The whole milliseconds of a length of time. -/
def toMillis (time : Micros) : Nat := time / 1000

/-- Milliseconds are kept exactly. -/
@[simp] theorem toMillis_ofMillis (millis : Nat) : toMillis (ofMillis millis) = millis := by
  simp [toMillis, ofMillis]

end Micros

end SipOverRelay
