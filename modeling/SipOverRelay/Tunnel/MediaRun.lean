import SipOverRelay.Tunnel.Media

/-!
# Runs of media sockets

A media engine works with the sockets made from one relay in whatever order it likes, while the
surroundings report and change of their own. What was asked and what was answered is kept.
-/

namespace SipOverRelay

/-- What was asked of media sockets and what was answered, oldest first. -/
abbrev MediaPast := List (MediaRequest × MediaAnswer)

/-- Something that happens while a media engine works with its sockets. -/
inductive MediaHappening (σ : Type) where
  /-- The media engine makes a request. -/
  | request (request : MediaRequest)
  /-- The surroundings report. -/
  | report (report : Report)
  /-- The surroundings change of their own. -/
  | stir (change : σ → σ)

/-- The sockets made from one relay, in their world. -/
structure MediaService (σ : Type) where
  /-- The relay. -/
  relay : RelayId
  /-- The sockets. -/
  sockets : MediaSockets := []
  /-- The world they are in. -/
  world : World σ
  /-- What was asked and answered. -/
  past : MediaPast := []

namespace MediaService

variable {σ : Type}

/-- A relay that media sockets can be made from, before one was. -/
def start (relay : RelayId) (world : World σ) : MediaService σ where
  relay := relay
  world := world

variable [Surroundings σ]

/-- Carries out a request. -/
def serve (s : MediaService σ) (request : MediaRequest) : MediaService σ :=
  let (answer, sockets, world) := s.sockets.serve s.relay s.world request
  { s with sockets, world, past := s.past ++ [(request, answer)] }

/-- The sockets and their world after one happening. -/
def meet (s : MediaService σ) : MediaHappening σ → MediaService σ
  | .request request => s.serve request
  | .report report => { s with world := s.world.deliver report }
  | .stir change => { s with world := { s.world with scene := change s.world.scene } }

/-- The sockets and their world after a sequence of happenings. -/
def after (s : MediaService σ) (happenings : List (MediaHappening σ)) : MediaService σ :=
  happenings.foldl meet s

end MediaService

end SipOverRelay
