import SipOverRelay.World.Surroundings

/-!
# A scripted stage

Surroundings for rehearsing a tunnel without a network. The engine takes a registration back after a
set number of iterations, relays and probes report when they are told to, streams keep what is sent
and hand out what was put in, and native waits follow a script. Time passes while something rests,
which takes a little longer than asked, and a moment with every look at the clock.
-/

namespace SipOverRelay.Rehearsal

/-- Where the engine's registration stands. -/
inductive Registration where
  /-- There is none. -/
  | absent
  /-- It is neither there nor gone. -/
  | inProgress
  /-- It is there. -/
  | registered
  deriving DecidableEq

/-- One entry of the script of native waits. -/
inductive Cue where
  /-- Nothing is ready: the read set is emptied. -/
  | idle
  /-- So many descriptors are ready; the sets given replace those of the wait. -/
  | ready (count : Nat) (read write except : Option (Option Descriptors))
  /-- The wait fails. -/
  | fails (kind : FailureKind)
  /-- A datagram arrives on a stream while nothing else is ready. -/
  | arrives (relay stream : Option Nat) (data : Bytes) (source : Address)
  deriving DecidableEq

/-- A stream of the stage. -/
structure StageStream where
  /-- Datagrams to be received. -/
  inbox : List (Bytes × Address) := []
  /-- Datagrams that were sent. -/
  sent : List (Bytes × Address) := []
  /-- Whether sending and receiving fail. -/
  failing : Bool := false
  /-- The largest length reported as sent. -/
  limit : Option Nat := none

/-- A relay of the stage. -/
structure StageRelay where
  /-- Whether it says that it runs. -/
  started : Bool := false
  /-- Whether it says that it is connected. -/
  ready : Bool := false
  /-- Whether it connects as soon as it is started. -/
  connectsOnStart : Bool := false
  /-- Whether it refuses streams. -/
  refusesStreams : Bool := false
  /-- Its streams. -/
  streams : List StageStream := []

/-- A probe of the stage. -/
structure StageProbe where
  /-- Whether somebody waits for its report. -/
  awaited : Bool := false
  /-- Whether it was stopped. -/
  stopped : Bool := false

/-- The state of the stage. -/
structure Stage where
  /-- Where the registration stands. -/
  registration : Registration := .absent
  /-- Iterations left until a registration being taken back is gone. -/
  countdown : Option Nat := none
  /-- Iterations it takes to take a registration back; nothing means that it never happens. -/
  deregisterAfter : Option Nat := some 1
  /-- Whether a registration being taken back is neither there nor gone. -/
  limbo : Bool := false
  /-- What the engine gets when it registers again. -/
  resumesTo : Registration := .registered
  /-- Whether iterations of the engine achieve nothing. -/
  stuck : Bool := false
  /-- Descriptor from which the engine reads. -/
  nativeSocket : Nat := 3
  /-- Descriptor that wakes the engine. -/
  controlSocket : Nat := 4
  /-- Whether relays cannot be created. -/
  relaysFail : Bool := false
  /-- Whether new relays connect as soon as they are started. -/
  connectsOnStart : Bool := false
  /-- Whether new relays refuse streams. -/
  refusesStreams : Bool := false
  /-- Hosts for which no probe can be made. -/
  unprobed : List String := []
  /-- What a probe reports at once when it is started. -/
  probeVerdict : Option Bool := none
  /-- Whether stopped probes may still report. -/
  keepsStopped : Bool := false
  /-- The relays, in the order of creation. -/
  relays : List StageRelay := []
  /-- The probes, in the order of creation. -/
  probes : List StageProbe := []
  /-- What the next native waits answer. -/
  script : List Cue := []
  /-- The native wait, counted from zero, that finds the control descriptors ready. -/
  controlReadyAt : Option Nat := none
  /-- How many native waits were made. -/
  waits : Nat := 0
  /-- The time. -/
  time : Micros := 0
  /-- Whether the engine works through a hook. -/
  hooked : Bool := false
  /-- The hook that was installed last. -/
  lastHook : Option Hook := none
  /-- Whether the tunnel of that hook is gone. -/
  hookOutlived : Bool := false
  /-- The relay of the media source that was installed last. -/
  lastMedia : Option RelayId := none
  /-- Ports for datagrams that were set while the engine worked through a hook. -/
  drawnPorts : List UInt16 := []

namespace Stage

/-- Changes one relay. -/
def onRelay (s : Stage) (relay : RelayId) (f : StageRelay → StageRelay) : Stage :=
  { s with relays := s.relays.modify relay f }

/-- Changes one stream. -/
def onStream (s : Stage) (stream : StreamId) (f : StageStream → StageStream) : Stage :=
  s.onRelay stream.relay fun r => { r with streams := r.streams.modify stream.index f }

/-- Changes one probe. -/
def onProbe (s : Stage) (probe : ProbeId) (f : StageProbe → StageProbe) : Stage :=
  { s with probes := s.probes.modify probe f }

/-- The stream with this name. -/
def stream? (s : Stage) (stream : StreamId) : Option StageStream :=
  (s.relays[stream.relay]?).bind (·.streams[stream.index]?)

/-- The relay with this number, by default the latest. -/
def relayOr (s : Stage) (relay : Option Nat) : Option RelayId :=
  let relay := relay.getD (s.relays.length - 1)
  if relay < s.relays.length then some relay else none

/-- The stream with this number of a relay, by default the first. -/
def streamOr (s : Stage) (relay : RelayId) (stream : Option Nat) : Option StreamId :=
  let id : StreamId := ⟨relay, stream.getD 0⟩
  if (s.stream? id).isSome then some id else none

/-- Puts a datagram on a stream, if there is one. -/
def arrive (s : Stage) (relay stream : Option Nat) (data : Bytes) (source : Address) : Stage :=
  match (s.relayOr relay).bind (s.streamOr · stream) with
  | some id => s.onStream id fun st => { st with inbox := st.inbox ++ [(data, source)] }
  | none => s

/-- The failure of a relay that cannot be created. -/
def noRelay : Failure := ⟨.other, "no tunnel support"⟩

/-- The failure of a stream whose relay is gone. -/
def relayGone : Failure := ⟨.brokenPipe, "relay gone"⟩

/-- What a stream answers to sending. -/
def sendAnswer (s : Stage) (stream : StreamId) (data : Bytes) : Except Failure Nat :=
  match s.stream? stream with
  | some st =>
    if st.failing then .error relayGone else .ok ((st.limit.map (min data.length)).getD data.length)
  | none => .error relayGone

/-- What a stream answers to receiving: the next datagram, cut to the buffer. -/
def receiveAnswer (s : Stage) (stream : StreamId) (size : Nat) :
    Except Failure (Option (Bytes × Address)) :=
  match s.stream? stream with
  | some st =>
    if st.failing then .error relayGone
    else .ok (st.inbox.head?.map fun (data, source) => (data.take size, source))
  | none => .error relayGone

/-- The sets of a wait that found nothing. -/
def idleSets (sets : Interest) : Interest := { sets with read := sets.read.map fun _ => .empty }

/-- What a native wait answers: the next entry of the script decides, or the control descriptors
are ready by arrangement, or nothing is. -/
def awaitAnswer (s : Stage) (sets : Interest) : Except Failure Nat × Interest :=
  match s.script with
  | .idle :: _ | .arrives _ _ _ _ :: _ => (.ok 0, idleSets sets)
  | .ready count read write except :: _ =>
    (.ok count, ⟨read.getD sets.read, write.getD sets.write, except.getD sets.except⟩)
  | .fails kind :: _ => (.error ⟨kind, "native wait"⟩, sets)
  | [] =>
    if s.controlReadyAt = some s.waits then (.ok (sets.read.elim 0 Descriptors.size), sets)
    else (.ok 0, idleSets sets)

/-- How much longer than asked a rest takes; to be asked for no rest takes a moment, too. -/
def oversleep (time : Micros) : Micros := if time = 0 then 4 else 60

/-- Rests for some time. -/
def rest (s : Stage) (time : Micros) : Stage :=
  { s with time := s.time + time + oversleep time }

/-- What a native wait changes. Without a script it rests as long as it may. -/
def await (s : Stage) (timeout : Option Micros) : Stage :=
  let after := { s with waits := s.waits + 1, script := s.script.drop 1 }
  match s.script with
  | .arrives relay stream data source :: _ => after.arrive relay stream data source
  | _ :: _ => after
  | [] =>
    if s.controlReadyAt = some s.waits then after
    else after.rest (timeout.getD 0)

/-- What the engine does when a registration is to be taken back. -/
def pause (s : Stage) : Stage :=
  let s := if s.limbo then { s with registration := .inProgress } else s
  if s.deregisterAfter = some 0 then { s with registration := .absent, countdown := none }
  else { s with countdown := s.deregisterAfter }

/-- One iteration of the engine. -/
def drive (s : Stage) : Stage :=
  if s.stuck then s
  else
    match s.countdown with
    | none => s
    | some n =>
      if n ≤ 1 then { s with registration := .absent, countdown := none }
      else { s with countdown := some (n - 1) }

/-- What a call changes, and what is reported before it returns. -/
def react (s : Stage) : Call → Stage × List Report
  | .setPorts ports =>
    (if s.hooked then { s with drawnPorts := ports.udp :: s.drawnPorts } else s, [])
  | .pauseRegistration => (s.pause, [])
  | .resumeRegistration => ({ s with countdown := none, registration := s.resumesTo }, [])
  | .driveEngine => (s.drive, [])
  | .installHook none => ({ s with hooked := false }, [])
  | .installHook (some hook) =>
    ({ s with hooked := true, lastHook := some hook, hookOutlived := false }, [])
  | .installMedia (some relay) => ({ s with lastMedia := some relay }, [])
  | .createRelay =>
    ({ s with
        relays := s.relays ++
          [{ connectsOnStart := s.connectsOnStart, refusesStreams := s.refusesStreams }] }, [])
  | .startRelay relay =>
    if (s.relays[relay]?).any StageRelay.connectsOnStart then
      (s.onRelay relay fun r => { r with started := true, ready := true }, [.relay relay true])
    else
      (s.onRelay relay fun r => { r with started := true }, [])
  | .destroyRelay relay =>
    (s.onRelay relay fun r => { r with started := false, ready := false }, [])
  | .openStream relay _ => (s.onRelay relay fun r => { r with streams := r.streams ++ [{}] }, [])
  | .send stream data dest =>
    (s.onStream stream fun st =>
      if st.failing then st else { st with sent := st.sent ++ [(data, dest)] }, [])
  | .receive stream _ =>
    (s.onStream stream fun st =>
      if st.failing then st else { st with inbox := st.inbox.drop 1 }, [])
  | .createProbe _ => ({ s with probes := s.probes ++ [{}] }, [])
  | .startProbe probe _ _ =>
    match s.probeVerdict with
    | some verdict => (s, [.probe probe verdict])
    | none => (s.onProbe probe fun p => { p with awaited := true }, [])
  | .stopProbe probe =>
    (s.onProbe probe fun p =>
      { p with stopped := true, awaited := p.awaited && s.keepsStopped }, [])
  | .await timeout _ => (s.await timeout, [])
  | .sleep time => (s.rest time, [])
  | .readClock => ({ s with time := s.time + 1 }, [])
  | .setPolicy _ | .installMedia none | .missRelay | .listen _ _ | .addServer _ _
  | .removeServers _ | .setProxy _ _ | .setProxyAuth _ _ _ | .reconnectRelay _ | .missStream _ _
  | .closeStream _ _ | .missProbe _ => (s, [])

end Stage

instance : Surroundings Stage where
  isRegistered s := s.registration = .registered
  isDeregistered s := s.registration = .absent
  isStarted s relay := (s.relays[relay]?).any StageRelay.started
  isReady s relay := (s.relays[relay]?).any StageRelay.ready
  relayOffer s := if s.relaysFail then .error Stage.noRelay else .ok ()
  offersStream s relay _ := !(s.relays[relay]?).any StageRelay.refusesStreams
  offersProbe s server := !s.unprobed.contains server.host
  randomBits _ := 0
  sendAnswer s stream data _ := s.sendAnswer stream data
  receiveAnswer s stream size := s.receiveAnswer stream size
  hasPending s stream := (s.stream? stream).any (!·.inbox.isEmpty)
  awaitAnswer s _ sets := s.awaitAnswer sets
  clock := Stage.time
  nativeSocket := Stage.nativeSocket
  controlSocket := Stage.controlSocket
  react call s := s.react call

end SipOverRelay.Rehearsal
