import SipOverRelay.Address
import SipOverRelay.Duration
import SipOverRelay.Engine
import SipOverRelay.Readiness.Descriptors
import SipOverRelay.Settings.Basic

/-!
# Calls to the surroundings

Everything the tunnel does to the engines, relays, streams and probes around it is a call, with
those outcomes in it that decide how things stand afterwards. Questions that change nothing are no
calls; looking at the clock is one, since time passes while it is done.
-/

namespace SipOverRelay

/-- A relay, by the order of creation. -/
abbrev RelayId := Nat

/-- A probe, by the order of creation. -/
abbrev ProbeId := Nat

/-- A stream, by its relay and by the order in which that relay opened it. -/
structure StreamId where
  /-- The relay that opened the stream. -/
  relay : RelayId
  /-- How many streams the relay had opened before. -/
  index : Nat
  deriving DecidableEq

/-- The part of the tunnel that the signaling engine sends, receives and waits through. -/
structure Hook where
  /-- Descriptor from which the engine expects inbound signaling. -/
  nativeSocket : Nat
  /-- Descriptor that wakes the engine for other work. -/
  controlSocket : Nat
  /-- Longest native wait within a tunneled one. -/
  slice : Micros
  deriving DecidableEq

/-- What the tunnel does to its surroundings. -/
inductive Call where
  /-- Sets the firewall policy of the signaling engine. -/
  | setPolicy (policy : Policy)
  /-- Sets the ports of the signaling engine. -/
  | setPorts (ports : Ports)
  /-- Asks the engine to take the registration back. -/
  | pauseRegistration
  /-- Asks the engine to register again. -/
  | resumeRegistration
  /-- Runs one iteration of the engine's own loop. -/
  | driveEngine
  /-- Gives the engine a hook, or its native transport back. -/
  | installHook (hook : Option Hook)
  /-- Gives the media engine a source of streams, or its own sockets back. -/
  | installMedia (relay : Option RelayId)
  /-- Creates the next relay. -/
  | createRelay
  /-- Asks for a relay and gets none. -/
  | missRelay
  /-- Makes a relay report its connection under a generation number. -/
  | listen (relay : RelayId) (generation : Nat)
  /-- Tells a relay one more server. -/
  | addServer (relay : RelayId) (server : Server)
  /-- Makes a relay forget its servers. -/
  | removeServers (relay : RelayId)
  /-- Tells a relay its proxy. -/
  | setProxy (relay : RelayId) (proxy : Proxy)
  /-- Tells a relay how to identify itself to its proxy. -/
  | setProxyAuth (relay : RelayId) (username password : Option String)
  /-- Starts a relay. -/
  | startRelay (relay : RelayId)
  /-- Makes a relay connect anew. -/
  | reconnectRelay (relay : RelayId)
  /-- Ends a relay. -/
  | destroyRelay (relay : RelayId)
  /-- Opens the relay's next stream. -/
  | openStream (relay : RelayId) (port : UInt16)
  /-- Asks a relay for a stream and gets none. -/
  | missStream (relay : RelayId) (port : UInt16)
  /-- Closes a stream through a relay. -/
  | closeStream (relay : RelayId) (stream : StreamId)
  /-- Sends a datagram on a stream. -/
  | send (stream : StreamId) (data : Bytes) (dest : Address)
  /-- Takes a datagram from a stream. -/
  | receive (stream : StreamId) (size : Nat)
  /-- Creates the next probe. -/
  | createProbe (server : Server)
  /-- Asks for a probe and gets none. -/
  | missProbe (server : Server)
  /-- Starts a probe on behalf of a candidate of a detection run. -/
  | startProbe (probe : ProbeId) (run index : Nat)
  /-- Stops a probe. -/
  | stopProbe (probe : ProbeId)
  /-- Waits for native descriptors, without a limit or for some time. -/
  | await (timeout : Option Micros) (interest : Interest)
  /-- Does nothing for some time. -/
  | sleep (time : Micros)
  /-- Looks at the clock. -/
  | readClock
  deriving DecidableEq

/-- What the surroundings report on their own. -/
inductive Report where
  /-- A relay gained or lost its connection. -/
  | relay (relay : RelayId) (connected : Bool)
  /-- A probe has finished. -/
  | probe (probe : ProbeId) (reachable : Bool)
  deriving DecidableEq

end SipOverRelay
