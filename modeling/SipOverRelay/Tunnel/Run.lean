import SipOverRelay.Tunnel.Hook
import SipOverRelay.Tunnel.Operation

/-!
# Runs of a tunnel

A run is a sequence of happenings: requests of the owner, events that anybody posts, reports of
relays and probes, changes of the surroundings that nobody asked for, and the signaling engine
sending and receiving through the hook. Between two happenings the surroundings may be in any state.
-/

namespace SipOverRelay

/-- Something that happens to a tunnel. -/
inductive Happening (σ : Type) where
  /-- The owner makes a request. -/
  | operate (operation : Operation)
  /-- Somebody posts an event of their own making. -/
  | post (event : Event)
  /-- A relay or a probe reports. -/
  | report (report : Report)
  /-- The surroundings change on their own. -/
  | stir (change : σ → σ)
  /-- The signaling engine sends through the hook. -/
  | send (data : Bytes) (dest : Address)
  /-- The signaling engine receives through the hook. -/
  | receive (size : Nat)

namespace Station

variable {σ : Type} [Surroundings σ]

/-- A new tunnel in surroundings that no tunnel has touched before; `settings` are those that the
signaling engine has then. -/
def fresh (tuning : Tuning) (scene : σ) (settings : EngineSettings) : Station σ :=
  build tuning { scene, ledger := { engine := settings } }

/-- The station after one happening. -/
def meet (s : Station σ) : Happening σ → Station σ
  | .operate operation => s.operate operation
  | .post event => s.post .stranger event
  | .report report => { s with world := s.world.deliver report }
  | .stir change => { s with world := { s.world with scene := change s.world.scene } }
  | .send data dest => { s with world := (Hook.send s.world s.tunnel.signaling data dest).2 }
  | .receive size => { s with world := (Hook.receive s.world s.tunnel.signaling size).2 }

/-- The station after a sequence of happenings. -/
def after (s : Station σ) (happenings : List (Happening σ)) : Station σ :=
  happenings.foldl meet s

/-- After no happenings nothing has changed. -/
@[simp] theorem after_nil (s : Station σ) : s.after [] = s := rfl

/-- Happenings can be split anywhere. -/
theorem after_append (s : Station σ) (first second : List (Happening σ)) :
    s.after (first ++ second) = (s.after first).after second := by
  simp [after]

end Station

end SipOverRelay
