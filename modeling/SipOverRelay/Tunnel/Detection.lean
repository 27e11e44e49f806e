import SipOverRelay.Tunnel.Relay

/-!
# Automatic detection

A detection run tries the reflectors one after the other. The first that sends a datagram back shows
that no tunnel is needed; as long as none does, the tunnel is on. A result counts only if it carries
the number of the current run and the place of the current candidate.
-/

namespace SipOverRelay.Station

variable {σ : Type} [Surroundings σ]

/-- Gives the current candidate up, if there is one, and stops its probe. -/
def abandon (s : Station σ) : Station σ :=
  let free := s.modify fun t => { t with detection := { t.detection with current := none } }
  match s.tunnel.detection.current with
  | some ⟨_, some probe⟩ => free.call (.stopProbe probe)
  | _ => free

/-- Makes a candidate the current one, in place of the one before. -/
def advance (s : Station σ) (candidate : Candidate) : Station σ :=
  s.abandon.modify fun t => { t with detection := { t.detection with current := some candidate } }

/-- Starts a probe of the candidate at this place, if there is one. A candidate for which no probe
can be made counts as not reachable. Tells whether there was a candidate. -/
def startProbe (s : Station σ) (index : Nat) : Bool × Station σ :=
  match Server.candidate? s.tunnel.servers index with
  | none => (false, s)
  | some server =>
    let run := s.tunnel.detection.run
    if Surroundings.offersProbe s.world.scene server then
      let probe := s.world.ledger.probes.length
      (true, (s.callAll [.createProbe server, .startProbe probe run index]).advance
        ⟨index, some probe⟩)
    else
      (true, ((s.call (.missProbe server)).advance ⟨index, none⟩).post .tunnel
        (.probed false run index))

/-- Begins a new run from the first candidate; a run in progress is given up. Without any candidate
nothing is done. -/
def autoDetect (s : Station σ) : Station σ :=
  if (Server.candidate? s.tunnel.servers 0).isNone then
    s.note .nothingToProbe
  else
    let s := if s.tunnel.detection.inProgress then s.note .detectionRestarted else s
    let s := s.abandon.modify fun t =>
      { t with detection := { t.detection with run := t.detection.run + 1 } }
    (s.startProbe 0).2

/-- Ends the run in progress, if there is one. -/
def stopAutoDetect (s : Station σ) : Station σ :=
  (if s.tunnel.detection.inProgress then s.note .detectionStopped else s).abandon

/-- Acts on the current candidate's result: the tunnel is turned off and the run is over, or it is
turned on and the next candidate is tried. -/
def onProbed (s : Station σ) (reachable : Bool) (run index : Nat) : Station σ :=
  if !s.tunnel.detection.isCurrent run index then
    s.note (.staleProbe run index)
  else if reachable then
    (s.note .tunnelNotRequired).abandon.enable false
  else
    let (found, s) := s.startProbe (index + 1)
    let s := s.note (.tunnelRequired found)
    (if found then s else s.abandon).enable true

end SipOverRelay.Station
