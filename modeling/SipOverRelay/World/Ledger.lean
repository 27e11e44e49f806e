import SipOverRelay.World.Call

/-!
# The ledger of calls

How the surroundings stand as far as calls decide it: the engine's settings and hook, the media
engine's source of streams, and what each relay and probe has been told. The ledger after some calls
is their replay, one call at a time.
-/

namespace SipOverRelay

/-- What became of one stream. -/
structure StreamRecord where
  /-- Port the stream was opened for. -/
  port : UInt16
  /-- How often the stream was closed. -/
  closes : Nat := 0
  deriving DecidableEq

/-- What one relay has been told. -/
structure RelayRecord where
  /-- The servers it knows. -/
  servers : List Server := []
  /-- The proxy it knows. -/
  proxy : Option Proxy := none
  /-- The generation number it reports under. -/
  listener : Option Nat := none
  /-- How often it was started. -/
  starts : Nat := 0
  /-- How often it was told to connect anew. -/
  reconnects : Nat := 0
  /-- How often it was ended. -/
  destroys : Nat := 0
  /-- How often it refused a stream. -/
  refusals : Nat := 0
  /-- The streams it opened. -/
  streams : List StreamRecord := []
  deriving DecidableEq

/-- What one probe has been told. -/
structure ProbeRecord where
  /-- The server whose reflector it tries. -/
  server : Server
  /-- The detection run and candidate it was started for. -/
  tag : Option (Nat × Nat) := none
  /-- How often it was stopped. -/
  stops : Nat := 0
  deriving DecidableEq

/-- How the surroundings stand as far as calls decide it. -/
structure Ledger where
  /-- The settings of the signaling engine. -/
  engine : EngineSettings
  /-- The hook the signaling engine works through. -/
  hook : Option Hook := none
  /-- The relay that the media engine gets its streams from. -/
  media : Option RelayId := none
  /-- The relays, in the order of creation. -/
  relays : List RelayRecord := []
  /-- The probes, in the order of creation. -/
  probes : List ProbeRecord := []
  deriving DecidableEq

/-- A relay that is told how to identify itself before it knows a proxy assumes one without a
host. -/
def RelayRecord.setProxyAuth (relay : RelayRecord) (username password : Option String) :
    RelayRecord :=
  { relay with proxy := some { relay.proxy.getD {} with username, password } }

/-- Marks one more closing of a stream. -/
def RelayRecord.closeStream (relay : RelayRecord) (index : Nat) : RelayRecord :=
  { relay with streams := relay.streams.modify index fun s => { s with closes := s.closes + 1 } }

namespace Ledger

/-- Changes the record of one relay. -/
def onRelay (l : Ledger) (relay : RelayId) (f : RelayRecord → RelayRecord) : Ledger :=
  { l with relays := l.relays.modify relay f }

/-- Changes the record of one probe. -/
def onProbe (l : Ledger) (probe : ProbeId) (f : ProbeRecord → ProbeRecord) : Ledger :=
  { l with probes := l.probes.modify probe f }

/-- How things stand after one more call. -/
def apply (l : Ledger) : Call → Ledger
  | .setPolicy policy => { l with engine := { l.engine with policy } }
  | .setPorts ports => { l with engine := { l.engine with ports } }
  | .installHook hook => { l with hook }
  | .installMedia media => { l with media }
  | .createRelay => { l with relays := l.relays ++ [{}] }
  | .listen relay generation => l.onRelay relay fun r => { r with listener := some generation }
  | .addServer relay server => l.onRelay relay fun r => { r with servers := r.servers ++ [server] }
  | .removeServers relay => l.onRelay relay fun r => { r with servers := [] }
  | .setProxy relay proxy => l.onRelay relay fun r => { r with proxy := some proxy }
  | .setProxyAuth relay username password =>
    l.onRelay relay fun r => r.setProxyAuth username password
  | .startRelay relay => l.onRelay relay fun r => { r with starts := r.starts + 1 }
  | .reconnectRelay relay => l.onRelay relay fun r => { r with reconnects := r.reconnects + 1 }
  | .destroyRelay relay => l.onRelay relay fun r => { r with destroys := r.destroys + 1 }
  | .openStream relay port => l.onRelay relay fun r => { r with streams := r.streams ++ [{ port }] }
  | .missStream relay _ => l.onRelay relay fun r => { r with refusals := r.refusals + 1 }
  | .closeStream _ stream => l.onRelay stream.relay fun r => r.closeStream stream.index
  | .createProbe server => { l with probes := l.probes ++ [{ server }] }
  | .startProbe probe run index => l.onProbe probe fun p => { p with tag := some (run, index) }
  | .stopProbe probe => l.onProbe probe fun p => { p with stops := p.stops + 1 }
  | .pauseRegistration | .resumeRegistration | .driveEngine | .missRelay | .missProbe _
  | .send _ _ _ | .receive _ _ | .await _ _ | .sleep _ | .readClock => l

/-- How things stand after a history of calls, newest first. -/
def replay (start : Ledger) (history : List Call) : Ledger :=
  history.foldr (fun call l => l.apply call) start

/-- Without calls things stand as they did. -/
@[simp] theorem replay_nil (start : Ledger) : start.replay [] = start := rfl

/-- The newest call comes last. -/
@[simp] theorem replay_cons (start : Ledger) (call : Call) (history : List Call) :
    start.replay (call :: history) = (start.replay history).apply call := rfl

/-- The streams that a relay has opened. -/
def streamsOf (l : Ledger) (relay : RelayId) : List StreamRecord :=
  (l.relays[relay]?).elim [] RelayRecord.streams

end Ledger

end SipOverRelay
