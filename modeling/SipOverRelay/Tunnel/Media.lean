import SipOverRelay.Tunnel.Hook

/-!
# Media through the tunnel

The media engine gets one stream of the relay for every socket it asks for. Failures of a stream are
swallowed: a datagram counts as sent and nothing is received. A socket closes its stream once, on
the first closing or when it is given up.
-/

namespace SipOverRelay

/-- A media socket: the relay it belongs to and its stream until it is closed. -/
structure MediaSocket where
  /-- The relay that the stream is closed through. -/
  relay : RelayId
  /-- The stream, until the socket is closed. -/
  stream : Option StreamId
  deriving DecidableEq

namespace MediaSocket

variable {σ : Type} [Surroundings σ]

/-- Asks a relay for a media stream. -/
def create (w : World σ) (relay : RelayId) (kind : MediaKind) (port : UInt16) :
    Option MediaSocket × World σ :=
  if Surroundings.offersStream w.scene relay port then
    let stream := ⟨relay, (w.ledger.streamsOf relay).length⟩
    (some ⟨relay, some stream⟩,
      (w.perform (.openStream relay port)).note (.mediaTunneled kind port))
  else
    (none, (w.perform (.missStream relay port)).note (.mediaRefused kind port))

/-- Sends a datagram. Gives the length that counts as sent. -/
def send (socket : MediaSocket) (w : World σ) (data : Bytes) (dest : Address) : Nat × World σ :=
  match socket.stream with
  | none => (data.length, w)
  | some stream =>
    match w.sendOn stream data dest with
    | (.ok length, w) => (length, w)
    | (.error why, w) => (data.length, w.note (.mediaSendFailed dest why))

/-- Takes a datagram, if there is one. -/
def receive (socket : MediaSocket) (w : World σ) (size : Nat) :
    Option (Bytes × Address) × World σ :=
  match socket.stream with
  | none => (none, w)
  | some stream =>
    match w.receiveOn stream size with
    | (.ok datagram, w) => (datagram, w)
    | (.error why, w) => (none, w.note (.mediaReceiveFailed why))

/-- Closes the stream through its relay, unless that has been done. -/
def close (socket : MediaSocket) (w : World σ) : MediaSocket × World σ :=
  match socket.stream with
  | none => (socket, w)
  | some stream => ({ socket with stream := none }, w.perform (.closeStream socket.relay stream))

end MediaSocket

/-- The sockets that a media engine has asked for, in the order of creation; nothing where a socket
has been given up. -/
abbrev MediaSockets := List (Option MediaSocket)

namespace MediaSockets

/-- The socket with this number, unless it has been given up. -/
def find? (sockets : MediaSockets) (id : Nat) : Option MediaSocket := sockets[id]?.join

end MediaSockets

/-- A request of the media engine to the sockets made from one relay. -/
inductive MediaRequest where
  /-- Create the next socket. -/
  | create (kind : MediaKind) (port : UInt16)
  /-- Send a datagram on a socket. -/
  | send (id : Nat) (data : Bytes) (dest : Address)
  /-- Receive a datagram from a socket. -/
  | receive (id : Nat) (size : Nat)
  /-- Close a socket. -/
  | close (id : Nat)
  /-- Give a socket up. -/
  | drop (id : Nat)
  deriving DecidableEq

/-- What the media engine gets for a request. -/
inductive MediaAnswer where
  /-- The number of the new socket. -/
  | created (id : Nat)
  /-- The relay refused a stream. -/
  | refused
  /-- The length that counts as sent. -/
  | sent (length : Nat)
  /-- The datagram received, if any. -/
  | received (datagram : Option (Bytes × Address))
  /-- It is done. -/
  | done
  /-- There is no such socket. -/
  | unknown
  deriving DecidableEq

/-- Carries a request of the media engine out, over sockets made from one relay. -/
def MediaSockets.serve {σ : Type} [Surroundings σ] (relay : RelayId) (sockets : MediaSockets)
    (w : World σ) : MediaRequest → MediaAnswer × MediaSockets × World σ
  | .create kind port =>
    match MediaSocket.create w relay kind port with
    | (some socket, w) => (.created sockets.length, sockets ++ [some socket], w)
    | (none, w) => (.refused, sockets, w)
  | .send id data dest =>
    match find? sockets id with
    | some socket =>
      let (length, w) := socket.send w data dest
      (.sent length, sockets, w)
    | none => (.unknown, sockets, w)
  | .receive id size =>
    match find? sockets id with
    | some socket =>
      let (datagram, w) := socket.receive w size
      (.received datagram, sockets, w)
    | none => (.unknown, sockets, w)
  | .close id =>
    match find? sockets id with
    | some socket =>
      let (socket, w) := socket.close w
      (.done, sockets.set id (some socket), w)
    | none => (.unknown, sockets, w)
  | .drop id =>
    match find? sockets id with
    | some socket => (.done, sockets.set id none, (socket.close w).2)
    | none => (.unknown, sockets, w)

end SipOverRelay
