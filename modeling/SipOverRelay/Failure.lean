import SipOverRelay.Text.Quoted

/-!
# Failures of the surroundings

Relays, streams and readiness waits can fail. A failure has a kind, which decides how a wait goes
on, and a text for people.
-/

namespace SipOverRelay

/-- What sort of failure the surroundings reported. -/
inductive FailureKind where
  /-- A wait was cut short by a signal. -/
  | interrupted
  /-- Nothing could be done without blocking. -/
  | wouldBlock
  /-- The time allowed was used up. -/
  | timedOut
  /-- The other side is gone. -/
  | brokenPipe
  /-- Anything else. -/
  | other
  deriving DecidableEq

/-- The name of a kind of failure, as log messages write it. -/
def FailureKind.name : FailureKind → String
  | .interrupted => "Interrupted"
  | .wouldBlock => "WouldBlock"
  | .timedOut => "TimedOut"
  | .brokenPipe => "BrokenPipe"
  | .other => "Other"

/-- A failure reported by the surroundings. -/
structure Failure where
  /-- What sort of failure it is. -/
  kind : FailureKind
  /-- What the failing side said. -/
  text : String
  deriving DecidableEq

/-- A failure as log messages show it, kind and quoted text together. -/
def Failure.describe (failure : Failure) : String :=
  "Custom \x7b kind: " ++ failure.kind.name ++ ", error: " ++ Text.quoted failure.text ++ " \x7d"

end SipOverRelay
