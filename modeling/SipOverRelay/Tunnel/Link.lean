import SipOverRelay.Engine

/-!
# The state of the link

The link is off, or it is on and in one of three phases. While it is on it keeps the engine settings
that it found and that it will give back.
-/

namespace SipOverRelay

/-- How far a link that is on has come. -/
inductive Phase where
  /-- The relay has been started and has not reported yet. -/
  | connecting
  /-- Signaling and media go through the relay. -/
  | ready
  /-- The relay lost its connection and may come back. -/
  | disconnected
  deriving DecidableEq

/-- The state of the link. -/
inductive Link where
  /-- The tunnel is off. -/
  | off
  /-- The tunnel is on; `restore` is what the engine gets back when it is turned off. -/
  | on (restore : EngineSettings) (phase : Phase)
  deriving DecidableEq

namespace Link

/-- Whether the tunnel is on. -/
def isOn : Link → Bool
  | off => false
  | on _ _ => true

/-- The phase of a link that is on. -/
def phase? : Link → Option Phase
  | off => none
  | on _ phase => some phase

/-- The engine settings that a link that is on will give back. -/
def restore? : Link → Option EngineSettings
  | off => none
  | on restore _ => some restore

end Link

end SipOverRelay
