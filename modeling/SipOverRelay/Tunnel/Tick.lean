import SipOverRelay.Tunnel.Detection

/-!
# Ticks

On a tick everything that has been posted is taken out of the mailbox and handled in order. What is
posted meanwhile waits for the next tick. Only reports of the relay that is held now count.
-/

namespace SipOverRelay.Station

variable {σ : Type} [Surroundings σ]

/-- The relay is connected: signaling and media are led through it and the engine registers over
it. -/
def goReady (s : Station σ) (relay : RelayId) (settings : EngineSettings) : Station σ :=
  let s := ((s.note .linkUp).call (.setPolicy .noFirewall)).installHooks relay
  let port := ephemeralPort (Surroundings.randomBits s.world.scene)
  (s.callAll [.setPorts (.udpOnly port), .resumeRegistration]).modify
    fun t => { t with link := .on settings .ready }

/-- The relay lost its connection: a registration that came through it is given up. -/
def goDisconnected (s : Station σ) (settings : EngineSettings) : Station σ :=
  let s := s.note .linkLost
  let s :=
    if Surroundings.isRegistered s.world.scene then s.callAll [.pauseRegistration, .driveEngine]
    else s
  s.modify fun t => { t with link := .on settings .disconnected }

/-- Acts on a relay's report. -/
def onConnectivity (s : Station σ) (connected : Bool) (generation : Nat) : Station σ :=
  match s.tunnel.relay with
  | none => s.note (.staleRelay generation)
  | some relay =>
    if generation ≠ s.tunnel.generation then
      s.note (.staleRelay generation)
    else
      match s.tunnel.link with
      | .off => s.note .relayWhileOff
      | .on settings phase =>
        if connected then
          if phase = .ready then s else s.goReady relay settings
        else
          s.goDisconnected settings

/-- Acts on a posted event. -/
def handle (s : Station σ) (posted : Posted) : Station σ :=
  let s := s.note (.handling posted)
  match posted.event with
  | .connectivity connected generation => s.onConnectivity connected generation
  | .probed reachable run index => s.onProbed reachable run index

/-- The station without what waited in its mailbox. -/
def emptied (s : Station σ) : Station σ :=
  { s with world := { s.world with mailbox := s.world.mailbox.cleared } }

/-- Handles everything that waits. -/
def iterate (s : Station σ) : Station σ :=
  s.world.mailbox.waiting.foldl handle s.emptied

end SipOverRelay.Station
