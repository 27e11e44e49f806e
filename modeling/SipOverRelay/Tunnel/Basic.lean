import SipOverRelay.Tunnel.Link
import SipOverRelay.World.Surroundings

/-!
# The tunnel and its station

The tunnel's own state is what it has been told and what it holds: its servers and proxy, the
current relay and signaling stream, the link, and the detection run in progress. A station is a
tunnel in the midst of its world.
-/

namespace SipOverRelay

/-- The candidate whose probe is awaited. -/
structure Candidate where
  /-- Its place among the servers that have a reflector. -/
  index : Nat
  /-- Its probe, unless none could be made. -/
  probe : Option ProbeId
  deriving DecidableEq

/-- Where automatic detection stands. -/
structure Detection where
  /-- How many runs have been begun. -/
  run : Nat := 0
  /-- The candidate in turn, while a run is in progress. -/
  current : Option Candidate := none
  deriving DecidableEq

/-- Whether a run is in progress. -/
def Detection.inProgress (d : Detection) : Bool := d.current.isSome

/-- Whether a result with this tag is the one that is awaited. -/
def Detection.isCurrent (d : Detection) (run index : Nat) : Bool :=
  run = d.run && d.current.any fun c => c.index = index

/-- The tunnel's own state. -/
structure Tunnel where
  /-- How it goes about its work. -/
  tuning : Tuning
  /-- What the signaling engine works through while the tunnel is ready. -/
  hook : Hook
  /-- The relay servers, in order and with repetitions. -/
  servers : List Server := []
  /-- The web proxy. -/
  proxy : Proxy := {}
  /-- The relay that is held. -/
  relay : Option RelayId := none
  /-- How many relays have been created. -/
  generation : Nat := 0
  /-- The signaling stream that the hook sends and receives on. -/
  signaling : Option StreamId := none
  /-- Whether hook and media source are installed. -/
  hooksInstalled : Bool := false
  /-- The state of the link. -/
  link : Link := .off
  /-- Where automatic detection stands. -/
  detection : Detection := {}
  deriving DecidableEq

/-- A tunnel in the midst of its world. -/
structure Station (σ : Type) where
  /-- The tunnel's own state. -/
  tunnel : Tunnel
  /-- Everything around it. -/
  world : World σ

namespace Station

variable {σ : Type}

/-- Changes the tunnel's own state. -/
def modify (s : Station σ) (f : Tunnel → Tunnel) : Station σ := { s with tunnel := f s.tunnel }

/-- Writes a notice into the log. -/
def note (s : Station σ) (notice : Notice) : Station σ := { s with world := s.world.note notice }

/-- Posts an event on somebody's behalf. -/
def post (s : Station σ) (sender : Sender) (event : Event) : Station σ :=
  { s with world := s.world.post sender event }

@[simp] theorem tunnel_modify (s : Station σ) (f : Tunnel → Tunnel) :
    (s.modify f).tunnel = f s.tunnel := rfl

@[simp] theorem world_modify (s : Station σ) (f : Tunnel → Tunnel) :
    (s.modify f).world = s.world := rfl

@[simp] theorem tunnel_note (s : Station σ) (notice : Notice) :
    (s.note notice).tunnel = s.tunnel := rfl

@[simp] theorem world_note (s : Station σ) (notice : Notice) :
    (s.note notice).world = s.world.note notice := rfl

@[simp] theorem tunnel_post (s : Station σ) (sender : Sender) (event : Event) :
    (s.post sender event).tunnel = s.tunnel := rfl

@[simp] theorem world_post (s : Station σ) (sender : Sender) (event : Event) :
    (s.post sender event).world = s.world.post sender event := rfl

variable [Surroundings σ]

/-- A new tunnel in a world. The hook takes the engine's descriptors as they are now. -/
def build (tuning : Tuning) (w : World σ) : Station σ where
  tunnel :=
    { tuning
      hook := ⟨Surroundings.nativeSocket w.scene, Surroundings.controlSocket w.scene,
        .ofMillis tuning.waitSlice⟩ }
  world := w

/-- Makes a call. -/
def call (s : Station σ) (c : Call) : Station σ := { s with world := s.world.perform c }

/-- Makes several calls in order. -/
def callAll (s : Station σ) (calls : List Call) : Station σ :=
  { s with world := s.world.performAll calls }

/-- Makes a call that concerns the held relay, if there is one. -/
def callRelay (s : Station σ) (c : RelayId → Call) : Station σ :=
  match s.tunnel.relay with
  | some relay => s.call (c relay)
  | none => s

@[simp] theorem tunnel_call (s : Station σ) (c : Call) : (s.call c).tunnel = s.tunnel := rfl

@[simp] theorem world_call (s : Station σ) (c : Call) :
    (s.call c).world = s.world.perform c := rfl

@[simp] theorem tunnel_callAll (s : Station σ) (calls : List Call) :
    (s.callAll calls).tunnel = s.tunnel := rfl

@[simp] theorem world_callAll (s : Station σ) (calls : List Call) :
    (s.callAll calls).world = s.world.performAll calls := rfl

/-- A call to the held relay does not touch the tunnel's own state. -/
@[simp] theorem tunnel_callRelay (s : Station σ) (c : RelayId → Call) :
    (s.callRelay c).tunnel = s.tunnel := by
  unfold callRelay
  split <;> rfl

/-- Signaling goes through the tunnel: the link is ready, and the relay still says so itself. -/
def isReady (s : Station σ) : Bool :=
  s.tunnel.link.phase? = some .ready &&
    s.tunnel.relay.any (Surroundings.isReady s.world.scene)

/-- Whether the held relay says that it runs. -/
def isStarted (s : Station σ) : Bool :=
  s.tunnel.relay.any (Surroundings.isStarted s.world.scene)

end Station

end SipOverRelay
