import SipOverRelay.Server.List
import SipOverRelay.Tunnel.Basic

/-!
# Turning the tunnel on and off

Turning on keeps the engine's settings, waits until the registration has been taken back, and brings
up a relay with everything it has to know and with the signaling stream. Turning off goes the same
way back: hook and media source go first, then stream and relay, then the settings return and the
engine registers again.
-/

namespace SipOverRelay.Station

variable {σ : Type} [Surroundings σ]

/-- Drives the engine until the registration has been taken back, with a pause after each look that
finds it still there; `left` bounds the pauses. Gives the number of pauses. -/
def pollDeregistration (s : Station σ) (left : Nat) (pauses : Nat := 0) : Nat × Station σ :=
  let s := s.call .driveEngine
  if Surroundings.isDeregistered s.world.scene then
    (pauses, s)
  else
    match left with
    | 0 => (pauses, s.note .deregistrationTimeout)
    | left + 1 =>
      let pause := Micros.ofMillis s.tunnel.tuning.deregistrationPause
      (s.call (.sleep pause)).pollDeregistration left (pauses + 1)

/-- Lets a registration be taken back before the transport changes underneath it. Gives the number
of pauses spent on it. -/
def awaitDeregistration (s : Station σ) : Nat × Station σ :=
  if Surroundings.isRegistered s.world.scene then
    (s.call .pauseRegistration).pollDeregistration s.tunnel.tuning.deregistrationPolls
  else
    (0, s)

/-- Asks a relay for the signaling stream, unless there is one already. -/
def openSignaling (s : Station σ) (relay : RelayId) : Station σ :=
  let port := s.tunnel.tuning.signalingPort
  if s.tunnel.signaling.isSome then
    s
  else if Surroundings.offersStream s.world.scene relay port then
    let stream := ⟨relay, (s.world.ledger.streamsOf relay).length⟩
    (s.call (.openStream relay port)).modify fun t => { t with signaling := some stream }
  else
    (s.call (.missStream relay port)).note (.signalingRefused port)

/-- What a new relay is told before it starts: under which number to report, the servers, and the
proxy if there is one. -/
def introduction (t : Tunnel) (relay : RelayId) : List Call :=
  .listen relay t.generation :: t.servers.map (.addServer relay) ++
    (if t.proxy.isConfigured then [.setProxy relay t.proxy] else [])

/-- Creates a relay, introduces it and holds it from now on. Gives the relay, unless none can be
created. -/
def createRelay (s : Station σ) : Option RelayId × Station σ :=
  match Surroundings.relayOffer s.world.scene with
  | .error why => (none, (s.call .missRelay).note (.relayUnavailable why))
  | .ok () =>
    let relay := s.world.ledger.relays.length
    let s := (s.call .createRelay).modify fun t => { t with generation := t.generation + 1 }
    (some relay, (s.callAll (introduction s.tunnel relay)).modify
      fun t => { t with relay := some relay })

/-- The held relay, or else a new one. -/
def obtainRelay (s : Station σ) : Option RelayId × Station σ :=
  match s.tunnel.relay with
  | some relay => (some relay, s)
  | none => s.createRelay

/-- Starts the held relay, or else a new one, and asks it for the signaling stream. If none can be
created the tunnel goes without. -/
def startRelay (s : Station σ) : Station σ :=
  match s.obtainRelay with
  | (some relay, s) => (s.call (.startRelay relay)).openSignaling relay
  | (none, s) => s

/-- Gives the engines hook and media source. -/
def installHooks (s : Station σ) (relay : RelayId) : Station σ :=
  (s.callAll [.installHook (some s.tunnel.hook), .installMedia (some relay)]).modify
    fun t => { t with hooksInstalled := true }

/-- Gives the engines their own transports back. -/
def uninstallHooks (s : Station σ) : Station σ :=
  (s.callAll [.installMedia none, .installHook none]).modify
    fun t => { t with hooksInstalled := false }

/-- Closes the signaling stream, if there is one, through a relay. -/
def closeSignaling (s : Station σ) (relay : RelayId) : Station σ :=
  match s.tunnel.signaling with
  | some stream =>
    (s.modify fun t => { t with signaling := none }).call (.closeStream relay stream)
  | none => s

/-- Gives the engines their own transports back and ends the held relay, if there is one. -/
def stopRelay (s : Station σ) : Station σ :=
  let s := s.uninstallHooks
  match s.tunnel.relay with
  | some relay =>
    ((s.modify fun t => { t with relay := none }).closeSignaling relay).call (.destroyRelay relay)
  | none => s

/-- Gives the engine settings back. -/
def restore (s : Station σ) (settings : EngineSettings) : Station σ :=
  s.callAll [.setPorts settings.ports, .setPolicy settings.policy]

/-- Turns a tunnel on that is off. -/
def turnOn (s : Station σ) : Station σ :=
  let s := (s.note .turningOn).modify fun t =>
    { t with link := .on s.world.ledger.engine .connecting }
  s.awaitDeregistration.2.startRelay

/-- Turns a tunnel off that is on, and gives these settings back. -/
def turnOff (s : Station σ) (settings : EngineSettings) : Station σ :=
  let s := (s.note .turningOff).awaitDeregistration.2
  (((s.modify fun t => { t with link := .off }).stopRelay).restore settings).call
    .resumeRegistration

/-- Turns the tunnel on or off; nothing but a notice if it already is as wanted. -/
def enable (s : Station σ) (on : Bool) : Station σ :=
  match on, s.tunnel.link with
  | true, .off => s.turnOn
  | false, .on settings _ => s.turnOff settings
  | _, _ => s.note (.alreadyThere on)

/-- Makes the held relay connect anew, or brings one up if none could be created before. -/
def reconnect (s : Station σ) : Station σ :=
  if s.tunnel.link.isOn then
    match s.tunnel.relay with
    | some relay => s.call (.reconnectRelay relay)
    | none => s.startRelay
  else
    s

end SipOverRelay.Station
