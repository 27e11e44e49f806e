import SipOverRelay.Rehearsal.Session

/-!
# Traces of rehearsals

A trace writes each call as one line and joins equal neighbours. Relays, probes and streams are
written with their numbers. Ports that the tunnel drew at random are not written. Native waits
appear only as far as the script reaches, and sending, receiving, sleeping and looking at the clock
leave no trace.
-/

namespace SipOverRelay.Rehearsal

/-- The short name of a firewall policy. -/
def policyName : Policy → String
  | .noFirewall => "none"
  | .natAddress => "nat"
  | .stun => "stun"
  | .ice => "ice"
  | .upnp => "upnp"

/-- A text that may be missing. -/
def optionalText : Option String → String
  | none => "-"
  | some text => "=" ++ text

/-- A set of descriptors that may be absent. -/
def descriptorsText : Option Descriptors → String
  | none => "null"
  | some fds => "[" ++ ",".intercalate (fds.toList.map toString) ++ "]"

/-- The ports of the signaling engine; a drawn port is not shown. -/
def portsText (drawn : List UInt16) (ports : Ports) : String :=
  let udp := if drawn.contains ports.udp then "\"random\"" else toString ports.udp
  "[" ++ ",".intercalate [udp, toString ports.tcp, toString ports.tls, toString ports.dtls] ++ "]"

/-- What a trace has to know about the wait that native waits are part of. -/
structure WaitFrame where
  /-- The time limit of the wait. -/
  limit : Option Micros := none
  /-- The longest native wait. -/
  slice : Micros := 0
  /-- How many native waits the script reaches. -/
  scripted : Nat := 0

/-- The time limit of a native wait, as seen from the wait that it is part of. -/
def WaitFrame.timeoutText (frame : WaitFrame) : Option Micros → String
  | none => "none"
  | some 0 => "zero"
  | some timeout =>
    match frame.limit with
    | none => "other"
    | some limit =>
      if timeout = frame.slice && frame.slice < limit then "poll"
      else if timeout ≤ limit && limit < timeout + .ofMillis 1000 then "caller"
      else "other"

/-- The line of a call, when the ledger stands like this before it. -/
def callLine? (drawn : List UInt16) (l : Ledger) : Call → Option String
  | .setPolicy policy => some ("engine.policy " ++ policyName policy)
  | .setPorts ports => some ("engine.ports " ++ portsText drawn ports)
  | .pauseRegistration => some "engine.pause"
  | .resumeRegistration => some "engine.resume"
  | .driveEngine => some "engine.drive"
  | .installHook hook => some ("engine.hook " ++ if hook.isSome then "on" else "off")
  | .installMedia media => some ("media.factory " ++ if media.isSome then "on" else "off")
  | .createRelay => some ("relays.create #" ++ toString l.relays.length)
  | .missRelay => some "relays.create failed"
  | .listen relay _ => some (onRelay relay "callback")
  | .addServer relay server => some (onRelay relay ("add_server " ++ server.text))
  | .removeServers relay => some (onRelay relay "remove_all_servers")
  | .setProxy relay proxy =>
    some (onRelay relay (" ".intercalate ["proxy", proxy.host, toString proxy.port,
      optionalText proxy.username, optionalText proxy.password]))
  | .setProxyAuth relay username password =>
    some (onRelay relay (" ".intercalate ["proxy_auth", optionalText username,
      optionalText password]))
  | .startRelay relay => some (onRelay relay "start")
  | .reconnectRelay relay => some (onRelay relay "reconnect")
  | .destroyRelay relay => some (onRelay relay "destroy")
  | .openStream relay port =>
    some (onRelay relay ("open_stream " ++ toString port ++ " #" ++
      toString (l.streamsOf relay).length))
  | .missStream relay port => some (onRelay relay ("open_stream " ++ toString port ++ " refused"))
  | .closeStream relay stream => some (onRelay relay ("close_stream #" ++ toString stream.index))
  | .createProbe server =>
    some ("probes.create " ++ server.text ++ " #" ++ toString l.probes.length)
  | .missProbe server => some ("probes.create " ++ server.text ++ " refused")
  | .startProbe probe _ _ => some ("probe" ++ toString probe ++ ".start")
  | .stopProbe probe => some ("probe" ++ toString probe ++ ".stop")
  | .send _ _ _ | .receive _ _ | .await _ _ | .sleep _ | .readClock => none
where
  /-- The line of a call that concerns a relay. -/
  onRelay (relay : RelayId) (text : String) : String := "relay" ++ toString relay ++ "." ++ text

/-- The lines of some calls, oldest first, made from this ledger on. -/
def callLines (drawn : List UInt16) : WaitFrame → Ledger → List Call → List String
  | _, _, [] => []
  | frame, l, .await timeout sets :: calls =>
    match frame.scripted with
    | 0 => callLines drawn frame l calls
    | scripted + 1 =>
      " ".intercalate ["native.wait", frame.timeoutText timeout, "r=" ++ descriptorsText sets.read,
        "w=" ++ descriptorsText sets.write, "e=" ++ descriptorsText sets.except] ::
        callLines drawn { frame with scripted } l calls
  | frame, l, call :: calls =>
    (callLine? drawn l call).toList ++ callLines drawn frame (l.apply call) calls

/-- Lines with equal neighbours joined into one, with their number. -/
def joinEqual (lines : List String) : List String :=
  (lines.splitBy (· == ·)).filterMap fun group =>
    group.head?.map fun line =>
      if group.length = 1 then line else line ++ "*" ++ toString group.length

/-- The calls that were made after a rehearsal stood at `before`, oldest first. -/
def callsSince (before after : Session) : List Call :=
  (after.world.calls.take (after.world.history.length - before.world.history.length)).reverse

/-- The notices that were written after a rehearsal stood at `before`, oldest first. -/
def noticesSince (before after : Session) : List Notice :=
  (after.world.notices.take (after.world.notices.length - before.world.notices.length)).reverse

/-- The trace from one point of a rehearsal to a later one. -/
def traceSince (before after : Session) (frame : WaitFrame) : List String :=
  joinEqual (callLines after.world.scene.drawnPorts frame before.world.ledger
    (callsSince before after))

end SipOverRelay.Rehearsal
