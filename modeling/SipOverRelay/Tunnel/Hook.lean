import SipOverRelay.World.Surroundings

/-!
# Signaling through the tunnel

The signaling engine sends and receives datagrams and waits for descriptors through the hook. While
there is no signaling stream, or when it fails, a datagram counts as sent and nothing is received:
the engine repeats what matters. Waiting for input is emulated: the wait ends as soon as the stream
has data, or the native wait on the control descriptor succeeds, or the time is up.
-/

namespace SipOverRelay

namespace World

variable {σ : Type} [Surroundings σ]

/-- Sends a datagram on a stream. Gives what the stream answered. -/
def sendOn (w : World σ) (stream : StreamId) (data : Bytes) (dest : Address) :
    Except Failure Nat × World σ :=
  (Surroundings.sendAnswer w.scene stream data dest, w.perform (.send stream data dest))

/-- Takes a datagram from a stream. Gives what the stream answered. -/
def receiveOn (w : World σ) (stream : StreamId) (size : Nat) :
    Except Failure (Option (Bytes × Address)) × World σ :=
  (Surroundings.receiveAnswer w.scene stream size, w.perform (.receive stream size))

/-- Waits for native descriptors. Gives what the wait answered. -/
def awaitNative (w : World σ) (timeout : Option Micros) (interest : Interest) :
    (Except Failure Nat × Interest) × World σ :=
  (Surroundings.awaitAnswer w.scene timeout interest, w.perform (.await timeout interest))

/-- Looks at the clock. Gives the time it shows. -/
def readClock (w : World σ) : Micros × World σ :=
  let w := w.perform .readClock
  (Surroundings.clock w.scene, w)

end World

namespace Hook

variable {σ : Type} [Surroundings σ]

/-- Sends a datagram on the signaling stream. Gives the length that counts as sent. -/
def send (w : World σ) (signaling : Option StreamId) (data : Bytes) (dest : Address) :
    Nat × World σ :=
  match signaling with
  | none => (data.length, w)
  | some stream =>
    match w.sendOn stream data dest with
    | (.ok length, w) => (length, w)
    | (.error why, w) => (data.length, w.note (.sendFailed dest why))

/-- Takes a datagram from the signaling stream, if there is one. -/
def receive (w : World σ) (signaling : Option StreamId) (size : Nat) :
    Option (Bytes × Address) × World σ :=
  match signaling with
  | none => (none, w)
  | some stream =>
    match w.receiveOn stream size with
    | (.ok datagram, w) => (datagram, w)
    | (.error why, w) => (none, w.note (.receiveFailed why))

/-- The outcome of a wait: the number of ready descriptors or a failure, the sets it leaves, and the
world afterwards. -/
structure Waited (σ : Type) where
  /-- Number of ready descriptors. -/
  answer : Except Failure Nat
  /-- The sets as the wait leaves them. -/
  sets : Interest
  /-- The world afterwards. -/
  world : World σ

/-- Waits for input on the signaling stream or on the control descriptor until the time `timeout`
has passed since `start`. Gives nothing if more than `rounds` rounds would be needed. -/
def waitInbound (hook : Hook) (signaling : Option StreamId) (start timeout : Micros)
    (sets : Interest) : Nat → World σ → Option (Waited σ)
  | 0, _ => none
  | rounds + 1, w =>
    if signaling.any (Surroundings.hasPending w.scene) then
      some ⟨.ok 1, sets.onlyRead (some (.ofList [hook.nativeSocket])), w⟩
    else
      let (now, w) := w.readClock
      let elapsed := now - start
      if timeout ≤ elapsed then
        some ⟨.ok 0, sets.onlyRead (some (.ofList [hook.nativeSocket, hook.controlSocket])), w⟩
      else
        let slice := min hook.slice (timeout - elapsed)
        match w.awaitNative (some slice) (.reading [hook.controlSocket]) with
        | ((.ok 0, _), w) => hook.waitInbound signaling start timeout sets rounds w
        | ((.ok (n + 1), control), w) => some ⟨.ok (n + 1), sets.onlyRead control.read, w⟩
        | ((.error why, _), w) =>
          if why.kind = .interrupted then
            hook.waitInbound signaling start timeout sets rounds w
          else
            hook.waitInbound signaling start timeout sets rounds
              ((w.note (.controlWaitFailed why)).perform (.sleep slice))

/-- Waits for descriptors. A wait for input with a time limit is emulated, within so many rounds;
every other wait is passed on to the native one. -/
def wait (hook : Hook) (w : World σ) (signaling : Option StreamId) (timeout : Option Micros)
    (sets : Interest) (rounds : Nat) : Option (Waited σ) :=
  match timeout with
  | some (limit + 1) =>
    if sets.read.isSome then
      let (start, w) := w.readClock
      hook.waitInbound signaling start (limit + 1) sets rounds w
    else
      native
  | _ => native
where
  /-- The native wait as it is. -/
  native : Option (Waited σ) :=
    let ((answer, sets), w) := w.awaitNative timeout sets
    some ⟨answer, sets, w⟩

end Hook

end SipOverRelay
