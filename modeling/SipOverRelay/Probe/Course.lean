import SipOverRelay.Probe.Client

/-!
# The course of a probe client

A course is a sequence of happenings: the owner starts a run, stops or gives the client up, and runs
come to an end of their own. An owner who has given the client up asks nothing more of it, but runs
that it has started may still come to their end.
-/

namespace SipOverRelay

/-- Something that happens to a probe client or to one of its runs. -/
inductive ProbeHappening where
  /-- The owner starts a run. -/
  | start
  /-- The owner stops the run that is under way. -/
  | stop
  /-- The owner gives the client up. -/
  | drop
  /-- A run completes and reports, if it still can. -/
  | complete (run : Nat) (reachable : Bool)
  deriving DecidableEq

namespace ProbeClient

/-- A client that is given up stops what is under way. -/
def drop (c : ProbeClient) : ProbeClient := c.stop

/-- The client after one happening. -/
def meet (c : ProbeClient) : ProbeHappening → ProbeClient
  | .start => c.start
  | .stop => c.stop
  | .drop => c.drop
  | .complete run reachable => c.complete run reachable

/-- The client after a sequence of happenings. -/
def after (c : ProbeClient) (happenings : List ProbeHappening) : ProbeClient :=
  happenings.foldl meet c

end ProbeClient

end SipOverRelay
