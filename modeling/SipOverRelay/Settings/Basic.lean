import SipOverRelay.Server.Basic

/-!
# Tunnel settings

The settings that survive a restart: the relay servers, the web proxy on the way to them, and the
mode that says when the tunnel is used. Settings of the running tunnel itself are kept apart.
-/

namespace SipOverRelay

/-- When the tunnel is used. -/
inductive Mode where
  /-- It stays off. -/
  | never
  /-- It stays on. -/
  | always
  /-- The reflectors decide. -/
  | auto
  deriving DecidableEq

/-- The written name of a mode. -/
def Mode.name : Mode → String
  | .never => "never"
  | .always => "always"
  | .auto => "auto"

/-- The web proxy on the way to the relays. -/
structure Proxy where
  /-- Host of the proxy; empty if there is none. -/
  host : String := ""
  /-- Port of the proxy. -/
  port : UInt16 := 0
  /-- User name, if the proxy asks for one. -/
  username : Option String := none
  /-- Password, if the proxy asks for one. -/
  password : Option String := none
  deriving DecidableEq

/-- A proxy counts only if it has a host. -/
def Proxy.isConfigured (proxy : Proxy) : Bool := proxy.host ≠ ""

/-- The settings that survive a restart. -/
structure Settings where
  /-- The relay servers, in order and with repetitions. -/
  servers : List Server := []
  /-- The web proxy. -/
  proxy : Proxy := {}
  /-- Whether the tunnel is wanted at all. -/
  enabled : Bool := false
  /-- When the tunnel is used. -/
  mode : Mode := .never
  deriving DecidableEq

/-- Removes the first server equal to the given one; nothing if there is none. -/
def Settings.removeServer? (settings : Settings) (server : Server) : Option Settings :=
  if server ∈ settings.servers then
    some { settings with servers := settings.servers.erase server }
  else
    none

/-- Settings of a running tunnel; times are in milliseconds. -/
structure Tuning where
  /-- Port asked of the relay for the signaling stream. -/
  signalingPort : UInt16 := 5060
  /-- Pause between two looks at a registration that is being taken back. -/
  deregistrationPause : Nat := 20
  /-- How many such pauses are made at most. -/
  deregistrationPolls : Nat := 100
  /-- Longest native wait within a tunneled readiness wait. -/
  waitSlice : Nat := 20
  deriving DecidableEq

end SipOverRelay
