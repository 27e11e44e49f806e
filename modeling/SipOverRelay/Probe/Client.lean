import SipOverRelay.Error
import SipOverRelay.Server.Basic

/-!
# The probe client

A probe client tries the reflector of one server. Each start begins a run; a run that has not
completed can be cancelled, and a cancelled run never completes. The client can cancel the latest
run alone, for which it keeps the handle.
-/

namespace SipOverRelay

/-- What a probe client is doing. -/
inductive ProbeState where
  /-- No run is under way, and the latest, if any, was stopped before it completed. -/
  | idle
  /-- A run is under way. -/
  | probing
  /-- The latest run has completed. -/
  | done
  deriving DecidableEq

/-- A probe client with its runs, numbered from zero in the order of their start. -/
structure ProbeClient where
  /-- Host and port of the reflector. -/
  target : String
  /-- Longest time a run may take, in milliseconds. -/
  delay : UInt32
  /-- What the client says it is doing. -/
  state : ProbeState := .idle
  /-- How many runs were started. -/
  started : Nat := 0
  /-- The run that the client can still cancel. -/
  handle : Option Nat := none
  /-- The runs that were cancelled. -/
  cancelled : List Nat := []
  /-- The completed runs and what they reported, newest first. -/
  reports : List (Nat × Bool) := []
  deriving DecidableEq

namespace ProbeClient

/-- A client for the reflector of a server. -/
def new (server : Server) : Except ServerError ProbeClient :=
  match server.reflectorTarget?, server.reflector with
  | some target, some reflector => .ok { target, delay := reflector.delay }
  | _, _ => .error (.noReflector server.text)

/-- Cancels the run that can be cancelled, and is idle if a run was under way. -/
def stop (c : ProbeClient) : ProbeClient where
  target := c.target
  delay := c.delay
  state := if c.state = .probing then .idle else c.state
  started := c.started
  handle := none
  cancelled := c.handle.toList ++ c.cancelled
  reports := c.reports

/-- Starts a run; one that is under way is stopped first. -/
def start (c : ProbeClient) : ProbeClient :=
  let c := if c.state = .probing then c.stop else c
  { c with state := .probing, started := c.started + 1, handle := some c.started }

/-- Whether a run has completed. -/
def isCompleted (c : ProbeClient) (run : Nat) : Bool := c.reports.any (·.1 = run)

/-- Whether a run can still complete. -/
def isLive (c : ProbeClient) (run : Nat) : Bool :=
  run < c.started && !c.cancelled.contains run && !c.isCompleted run

/-- A run completes and reports; nothing happens if it cannot complete any more. -/
def complete (c : ProbeClient) (run : Nat) (reachable : Bool) : ProbeClient :=
  if c.isLive run then
    { c with state := .done, reports := (run, reachable) :: c.reports }
  else
    c

end ProbeClient

end SipOverRelay
