import SipOverRelay.Managed
import SipOverRelay.Rehearsal.Stage
import SipOverRelay.Tunnel.Media

/-!
# Rehearsals

A rehearsal plays a tunnel, managed or not, on a scripted stage. It is a sequence of steps: requests
to the tunnel, what its surroundings do on their own, and the traffic of the two engines. A tunnel
can be dropped in the midst of a rehearsal and replaced by a new one on the same stage.
-/

namespace SipOverRelay.Rehearsal

/-- What is on the stage: a tunnel, a managed tunnel, or only what a dropped one left behind. -/
inductive Cast where
  /-- A tunnel. -/
  | plain (station : Station Stage)
  /-- A managed tunnel. -/
  | managed (m : Managed Stage)
  /-- The world of a dropped tunnel. -/
  | dropped (world : World Stage)

namespace Cast

/-- The tunnel in its world, unless it was dropped. -/
def station? : Cast → Option (Station Stage)
  | plain station => some station
  | managed m => some m.station
  | dropped _ => none

/-- The world, with or without a tunnel. -/
def world : Cast → World Stage
  | plain station => station.world
  | managed m => m.station.world
  | dropped world => world

/-- Changes the world. -/
def onWorld (f : World Stage → World Stage) : Cast → Cast
  | plain station => plain { station with world := f station.world }
  | managed m => managed { m with station := { m.station with world := f m.station.world } }
  | dropped world => dropped (f world)

/-- Changes the tunnel, if there is one. -/
def onStation (f : Station Stage → Station Stage) : Cast → Cast
  | plain station => plain (f station)
  | managed m => managed (m.onStation f)
  | dropped world => dropped world

/-- The world of a tunnel that is dropped. -/
def leave (station : Station Stage) : World Stage :=
  let world := station.drop
  { world with scene := { world.scene with hookOutlived := true } }

/-- The same stage without the tunnel. -/
def drop (cast : Cast) : Cast :=
  match cast.station? with
  | some station => dropped (leave station)
  | none => cast

/-- A new tunnel in a world, managed if there is a store. -/
def enter (tuning : Tuning) (world : World Stage) : Option Store → Cast
  | none => plain (Station.build tuning world)
  | some store => managed (Managed.load (Station.build tuning world) store)

/-- A new tunnel in place of the old one; it is managed, with the same store, if the old one is. -/
def renew (tuning : Tuning) (cast : Cast) : Cast :=
  match cast with
  | managed m => enter tuning cast.drop.world (some m.store)
  | _ => enter tuning cast.drop.world none

end Cast

/-- Changes of what relays and probes will do; what is absent stays. -/
structure Setup where
  /-- Whether relays cannot be created. -/
  relaysFail : Option Bool := none
  /-- Whether new relays connect as soon as they are started. -/
  connectsOnStart : Option Bool := none
  /-- Whether new relays refuse streams. -/
  refusesStreams : Option Bool := none
  /-- Hosts for which no probe can be made. -/
  unprobed : Option (List String) := none
  /-- What a probe reports at once when it is started. -/
  probeVerdict : Option (Option Bool) := none
  /-- Whether stopped probes may still report. -/
  keepsStopped : Option Bool := none

/-- Applies a setup to a stage. -/
def Setup.apply (c : Setup) (s : Stage) : Stage :=
  { s with
    relaysFail := c.relaysFail.getD s.relaysFail
    connectsOnStart := c.connectsOnStart.getD s.connectsOnStart
    refusesStreams := c.refusesStreams.getD s.refusesStreams
    unprobed := c.unprobed.getD s.unprobed
    probeVerdict := c.probeVerdict.getD s.probeVerdict
    keepsStopped := c.keepsStopped.getD s.keepsStopped }

/-- Changes of the signaling engine that the tunnel has no part in; what is absent stays. -/
structure EngineChange where
  /-- Its firewall policy. -/
  policy : Option Policy := none
  /-- Its ports. -/
  ports : Option Ports := none
  /-- Where its registration stands. -/
  registration : Option Registration := none
  /-- Iterations it takes to take a registration back. -/
  deregisterAfter : Option (Option Nat) := none
  /-- Whether a registration being taken back is neither there nor gone. -/
  limbo : Option Bool := none
  /-- What the engine gets when it registers again. -/
  resumesTo : Option Registration := none
  /-- Descriptor from which it reads. -/
  nativeSocket : Option Nat := none
  /-- Descriptor that wakes it. -/
  controlSocket : Option Nat := none
  /-- Whether its iterations achieve nothing. -/
  stuck : Option Bool := none

/-- Applies a change of the engine to a world. -/
def EngineChange.apply (c : EngineChange) (w : World Stage) : World Stage :=
  { w with
    ledger :=
      { w.ledger with
        engine := ⟨c.ports.getD w.ledger.engine.ports, c.policy.getD w.ledger.engine.policy⟩ }
    scene :=
      { w.scene with
        registration := c.registration.getD w.scene.registration
        deregisterAfter := c.deregisterAfter.getD w.scene.deregisterAfter
        limbo := c.limbo.getD w.scene.limbo
        resumesTo := c.resumesTo.getD w.scene.resumesTo
        nativeSocket := c.nativeSocket.getD w.scene.nativeSocket
        controlSocket := c.controlSocket.getD w.scene.controlSocket
        stuck := c.stuck.getD w.scene.stuck } }

/-- One step of a rehearsal. Relays are by default the latest, streams by default the first. -/
inductive Step where
  /-- A request to the tunnel. -/
  | operate (operation : Operation)
  /-- An event is posted from outside. -/
  | post (event : Event)
  /-- The mailbox is emptied from outside. -/
  | drain
  /-- A request to the managed tunnel. -/
  | manage (operation : ManagedOperation)
  /-- A request to the managed tunnel to set the mode with this name. -/
  | manageMode (text : String)
  /-- Relays and probes change their ways. -/
  | setUp (setup : Setup)
  /-- The engine changes. -/
  | changeEngine (change : EngineChange)
  /-- A relay is connected or not, and reports that it is. -/
  | fire (relay : Option Nat) (connected ready : Bool)
  /-- A relay changes. -/
  | changeRelay (relay : Option Nat) (ready started refuses : Option Bool)
  /-- A probe reports. -/
  | complete (probe : Nat) (reachable : Bool)
  /-- A datagram arrives on a stream. -/
  | arrive (relay stream : Option Nat) (data : Bytes) (source : Address)
  /-- A stream changes. -/
  | changeStream (relay stream : Option Nat) (failing : Option Bool) (limit : Option (Option Nat))
  /-- Everything is looked at. -/
  | look
  /-- The tunnel is dropped. -/
  | drop
  /-- The tunnel is replaced by a new one. -/
  | renew
  /-- The signaling engine sends. -/
  | send (data : Bytes) (dest : Address)
  /-- The signaling engine receives. -/
  | receive (size : Nat)
  /-- The signaling engine waits. -/
  | wait (timeout : Option Micros) (sets : Interest) (script : List Cue)
  /-- The media engine makes a request. -/
  | media (request : MediaRequest)
  /-- The native wait is called without the hook. -/
  | waitNatively (timeout : Option Micros) (sets : Interest)
  /-- The native wait with this number, counted from zero, will find the control descriptors
  ready. -/
  | arrangeControl (wait : Nat)
  /-- A probe is made outside of any tunnel. -/
  | makeProbe (server : Server)
  /-- A probe made outside is started. -/
  | startProbe (own : Nat)
  /-- A probe made outside is stopped. -/
  | stopProbe (own : Nat)
  /-- A probe made outside is asked what it is doing. -/
  | askProbe (own : Nat)

/-- What a step needs and does not find. -/
inductive Absent where
  /-- The tunnel was dropped. -/
  | tunnel
  /-- The tunnel is not managed, or was dropped. -/
  | manager
  /-- There is no such relay. -/
  | relay
  /-- There is no such stream. -/
  | stream
  /-- There is no such probe. -/
  | probe
  /-- Nobody waits for the probe's report. -/
  | listener
  /-- The signaling engine has no hook. -/
  | hook
  /-- The media engine has no source of streams. -/
  | mediaSource
  /-- There is no such media socket. -/
  | mediaSocket
  deriving DecidableEq

/-- What a step gives. -/
inductive Answer where
  /-- Nothing. -/
  | nothing
  /-- Something is missing. -/
  | absent (what : Absent)
  /-- A number. -/
  | number (n : Nat)
  /-- The events that waited. -/
  | events (posted : List Posted)
  /-- The datagram received, if any. -/
  | received (datagram : Option (Bytes × Address))
  /-- The outcome of a wait, and the number of script entries it left. -/
  | waited (answer : Except Failure Nat) (sets : Interest) (unused : Nat)
  /-- The answer of the managed tunnel. -/
  | managed (answer : ManagedAnswer)
  /-- The relay refused a media stream. -/
  | mediaRefused
  /-- What is to be seen. -/
  | view
  /-- Whether somebody waits for the probe's report. -/
  | probeAwaited (awaited : Bool)

/-- A rehearsal in progress. -/
structure Session where
  /-- What is on the stage. -/
  cast : Cast
  /-- How tunnels go about their work. -/
  tuning : Tuning
  /-- Whether the engines forget a hook or media source that is taken from them. -/
  forgetful : Bool := false
  /-- The media sockets made so far. -/
  sockets : MediaSockets := []
  /-- The probes made outside of any tunnel. -/
  ownProbes : List ProbeId := []
  /-- What the probes made outside have reported. -/
  outcomes : List Bool := []

namespace Session

/-- A stage prepared this way, before any tunnel is on it. -/
def prepare (tuning : Tuning) (engine : EngineSettings) (change : EngineChange) (setup : Setup)
    (forgetful : Bool) : Session where
  cast := .dropped (change.apply { scene := setup.apply {}, ledger := { engine } })
  tuning := tuning
  forgetful := forgetful

/-- A tunnel enters, managed if there is a store. -/
def enter (s : Session) (store : Option Store) : Session :=
  { s with cast := .enter s.tuning s.cast.world store }

/-- A rehearsal of a hook alone, without a tunnel and so without a stream behind it. -/
def ofHook (hook : Hook) : Session where
  cast :=
    .dropped
      { scene := { lastHook := some hook, hookOutlived := true }
        ledger := { engine := ⟨{ udp := 0 }, .noFirewall⟩ } }
  tuning := {}

/-- The world. -/
def world (s : Session) : World Stage := s.cast.world

/-- Changes the world. -/
def onWorld (s : Session) (f : World Stage → World Stage) : Session :=
  { s with cast := s.cast.onWorld f }

/-- Changes the stage. -/
def onStage (s : Session) (f : Stage → Stage) : Session :=
  s.onWorld fun w => { w with scene := f w.scene }

/-- Changes the tunnel. -/
def onStation (s : Session) (f : Station Stage → Station Stage) : Session :=
  { s with cast := s.cast.onStation f }

/-- The signaling engine's hook with the stream behind it. A hook outlives its tunnel, but then
there is no stream behind it. -/
def hook? (s : Session) : Option (Hook × Option StreamId) :=
  let scene := s.world.scene
  let hook := if s.forgetful then s.world.ledger.hook else scene.lastHook
  let signaling := if scene.hookOutlived then none else s.cast.station?.bind (·.tunnel.signaling)
  hook.map fun hook => (hook, signaling)

/-- The relay behind the media engine's source of streams. -/
def mediaSource? (s : Session) : Option RelayId :=
  if s.forgetful then s.world.ledger.media else s.world.scene.lastMedia

/-- The signaling engine waits, with a script for the native waits. -/
def wait (s : Session) (hook : Hook) (signaling : Option StreamId) (timeout : Option Micros)
    (sets : Interest) (script : List Cue) : Answer × Session :=
  let s := s.onStage fun stage => { stage with script }
  let rounds := timeout.getD 0 + script.length + 2
  match hook.wait s.world signaling timeout sets rounds with
  | none => (.nothing, s)
  | some ⟨answer, sets, world⟩ =>
    (.waited answer sets world.scene.script.length,
      s.onWorld fun _ => { world with scene := { world.scene with script := [] } })

/-- The media engine makes a request. -/
def media (s : Session) (request : MediaRequest) : Answer × Session :=
  let relay :=
    match request with
    | .create _ _ => s.mediaSource?
    | _ => some 0
  match relay with
  | none => (.absent .mediaSource, s)
  | some relay =>
    let (answer, sockets, world) := s.sockets.serve relay s.world request
    let s := { s.onWorld fun _ => world with sockets }
    match answer with
    | .created id => (.number id, s)
    | .refused => (.mediaRefused, s)
    | .sent length => (.number length, s)
    | .received datagram => (.received datagram, s)
    | .done => (.nothing, s)
    | .unknown => (.absent .mediaSocket, s)

/-- A probe reports to whoever waits for it. -/
def complete (s : Session) (probe : ProbeId) (reachable : Bool) : Answer × Session :=
  match s.world.scene.probes[probe]? with
  | none => (.absent .probe, s)
  | some p =>
    if p.awaited then
      let s := s.onStage (·.onProbe probe fun p => { p with awaited := false })
      if s.ownProbes.contains probe then
        (.nothing, { s with outcomes := s.outcomes ++ [reachable] })
      else
        (.nothing, s.onWorld (·.deliver (.probe probe reachable)))
    else
      (.absent .listener, s)

/-- A request to the managed tunnel. -/
def manage (s : Session) (operation : ManagedOperation) : Answer × Session :=
  match s.cast with
  | .managed m =>
    let (answer, m) := m.operate operation
    (.managed answer, { s with cast := .managed m })
  | _ => (.absent .manager, s)

/-- Applies something to a relay, if there is one. -/
def withRelay (s : Session) (relay : Option Nat) (f : RelayId → Session) : Answer × Session :=
  match s.world.scene.relayOr relay with
  | some relay => (.nothing, f relay)
  | none => (.absent .relay, s)

/-- Applies something to a stream, if there is one. -/
def withStream (s : Session) (relay stream : Option Nat) (f : StreamId → Session) :
    Answer × Session :=
  match (s.world.scene.relayOr relay).bind (s.world.scene.streamOr · stream) with
  | some stream => (.nothing, f stream)
  | none => (.absent .stream, s)

/-- Applies something to a probe made outside, if there is one. -/
def withOwnProbe (s : Session) (own : Nat) (f : ProbeId → Answer × Session) : Answer × Session :=
  match s.ownProbes[own]? with
  | some probe => f probe
  | none => (.absent .probe, s)

/-- Plays one step. -/
def step (s : Session) : Step → Answer × Session
  | .operate operation =>
    if s.cast.station?.isSome then (.nothing, s.onStation (·.operate operation))
    else (.absent .tunnel, s)
  | .post event =>
    match s.cast.station? with
    | some station =>
      (.number (station.world.mailbox.push event).1, s.onWorld (·.post .stranger event))
    | none => (.absent .tunnel, s)
  | .drain =>
    match s.cast.station? with
    | some station => (.events station.world.mailbox.drain.1, s.onStation Station.emptied)
    | none => (.absent .tunnel, s)
  | .manage operation => s.manage operation
  | .manageMode text =>
    match s.cast, Mode.ofText text with
    | .managed _, .ok mode => s.manage (.setMode mode)
    | .managed _, .error why => (.managed (.refused why), s)
    | _, _ => (.absent .manager, s)
  | .setUp setup => (.nothing, s.onStage setup.apply)
  | .changeEngine change => (.nothing, s.onWorld change.apply)
  | .fire relay connected ready =>
    s.withRelay relay fun relay =>
      (s.onStage (·.onRelay relay fun r => { r with ready })).onWorld
        (·.deliver (.relay relay connected))
  | .changeRelay relay ready started refuses =>
    s.withRelay relay fun relay =>
      s.onStage (·.onRelay relay fun r =>
        { r with
          ready := ready.getD r.ready
          started := started.getD r.started
          refusesStreams := refuses.getD r.refusesStreams })
  | .complete probe reachable => s.complete probe reachable
  | .arrive relay stream data source =>
    s.withStream relay stream fun stream =>
      s.onStage (·.onStream stream fun st => { st with inbox := st.inbox ++ [(data, source)] })
  | .changeStream relay stream failing limit =>
    s.withStream relay stream fun stream =>
      s.onStage (·.onStream stream fun st =>
        { st with failing := failing.getD st.failing, limit := limit.getD st.limit })
  | .look => (.view, s)
  | .drop => (.nothing, { s with cast := s.cast.drop })
  | .renew => (.nothing, { s with cast := s.cast.renew s.tuning })
  | .send data dest =>
    match s.hook? with
    | some (_, signaling) =>
      let (length, world) := Hook.send s.world signaling data dest
      (.number length, s.onWorld fun _ => world)
    | none => (.absent .hook, s)
  | .receive size =>
    match s.hook? with
    | some (_, signaling) =>
      let (datagram, world) := Hook.receive s.world signaling size
      (.received datagram, s.onWorld fun _ => world)
    | none => (.absent .hook, s)
  | .wait timeout sets script =>
    match s.hook? with
    | some (hook, signaling) => s.wait hook signaling timeout sets script
    | none => (.absent .hook, s)
  | .media request => s.media request
  | .waitNatively timeout sets =>
    let ((answer, sets), world) := s.world.awaitNative timeout sets
    (.waited answer sets 0, s.onWorld fun _ => world)
  | .arrangeControl wait =>
    (.nothing, s.onStage fun stage => { stage with controlReadyAt := some wait })
  | .makeProbe server =>
    let probe := s.world.ledger.probes.length
    (.number s.ownProbes.length,
      { s.onWorld (·.perform (.createProbe server)) with ownProbes := s.ownProbes ++ [probe] })
  | .startProbe own =>
    s.withOwnProbe own fun probe =>
      (.probeAwaited true, s.onStage (·.onProbe probe fun p => { p with awaited := true }))
  | .stopProbe own =>
    s.withOwnProbe own fun probe =>
      (.probeAwaited false,
        s.onStage (·.onProbe probe fun p => { p with awaited := false, stopped := true }))
  | .askProbe own =>
    s.withOwnProbe own fun probe =>
      (.probeAwaited ((s.world.scene.probes[probe]?).any StageProbe.awaited), s)

end Session

end SipOverRelay.Rehearsal
