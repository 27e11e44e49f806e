import SipOverRelay.Probe.Client
import SipOverRelay.Probe.Exchange

/-!
# Rehearsals of a probe

A probe client is started, stopped and waited for on a network that carries nothing: no run ever
sees a datagram before its time is up. Whoever waits for a run has only so much patience; a run with
more time than that is still under way when they give up.
-/

namespace SipOverRelay.Rehearsal

/-- One step of a rehearsal of a probe. -/
inductive ProbeStep where
  /-- The client starts a run. -/
  | start
  /-- The client stops. -/
  | stop
  /-- Nothing is done. -/
  | look
  /-- Somebody waits until a run has reported or cannot report any more. -/
  | await (run : Nat)

/-- What waiting for a run gives. -/
inductive RunOutcome where
  /-- The run reported. -/
  | reported (reachable : Bool)
  /-- The run was stopped before it reported. -/
  | dropped
  /-- The run had neither reported nor been stopped when whoever waited gave up. -/
  | pending
  /-- There is no such run, or somebody waited for it before. -/
  | unknown
  deriving DecidableEq

/-- A rehearsal of a probe in progress. -/
structure Probing where
  /-- The client. -/
  client : ProbeClient
  /-- The runs that somebody has waited for. -/
  awaited : List Nat := []

/-- A network on which every reflector has an address and every socket can be bound. -/
def silentNetwork : Probe.Network := ⟨.found ["127.0.0.1:9"], fun _ => none⟩

/-- The result of a run on a network that carries nothing. -/
def silentResult : Bool :=
  (Probe.report? "" silentNetwork 0 [.resend none, .timeUp]).getD false

/-- The longest time, in milliseconds, that somebody waits for a run. -/
def patience : UInt32 := 10000

/-- Whether a run reports within somebody's patience: when its time is up by then, or at once if the
reflector's name is none that could be looked up. -/
def reportsInTime (client : ProbeClient) : Bool :=
  client.delay ≤ patience || client.target.toList.head? = some ':' ||
    client.target.toList.contains '\x00'

/-- Plays one step. -/
def Probing.step (p : Probing) : ProbeStep → Option RunOutcome × Probing
  | .start => (none, { p with client := p.client.start })
  | .stop => (none, { p with client := p.client.stop })
  | .look => (none, p)
  | .await run =>
    if run < p.client.started && !p.awaited.contains run then
      let awaited := run :: p.awaited
      if !p.client.isLive run then
        (some .dropped, ⟨p.client, awaited⟩)
      else if reportsInTime p.client then
        (some (.reported silentResult), ⟨p.client.complete run silentResult, awaited⟩)
      else
        (some .pending, ⟨p.client, awaited⟩)
    else
      (some .unknown, p)

end SipOverRelay.Rehearsal
