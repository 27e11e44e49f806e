import SipOverRelay.Tunnel.Tick

/-!
# Operations of the tunnel

What the owner of a tunnel can do with it: tell it servers and a proxy, turn it on and off, let it
tick, and end it. All requests but the last are also the values of a type.
-/

namespace SipOverRelay

namespace Station

variable {σ : Type} [Surroundings σ]

/-- Adds a server at the end of the list and tells the held relay. -/
def addServer (s : Station σ) (server : Server) : Station σ :=
  let s := if server.isUsable then s else s.note .hostlessServer
  (s.callRelay (.addServer · server)).modify fun t => { t with servers := t.servers ++ [server] }

/-- Adds a server with a reflector; a reflector it had before is replaced. -/
def addServerWithReflector (s : Station σ) (server : Server) (reflector : Reflector) : Station σ :=
  s.addServer { server with reflector := some reflector }

/-- Forgets all servers. A detection run in progress ends, and the held relay forgets them too. -/
def clearServers (s : Station σ) : Station σ :=
  ((s.modify fun t => { t with servers := [] }).abandon).callRelay .removeServers

/-- Sets the proxy and tells the held relay. -/
def setProxy (s : Station σ) (proxy : Proxy) : Station σ :=
  (s.modify fun t => { t with proxy }).callRelay (.setProxy · proxy)

/-- Sets how to identify oneself to the proxy and tells the held relay. -/
def setProxyAuth (s : Station σ) (username password : Option String) : Station σ :=
  (s.modify fun t => { t with proxy := { t.proxy with username, password } }).callRelay
    (.setProxyAuth · username password)

/-- Ends the tunnel: a detection run is given up, and a held relay is ended as if the tunnel were
turned off. The world is left to the next one. -/
def drop (s : Station σ) : World σ :=
  let s := s.abandon
  (if s.tunnel.relay.isSome then s.stopRelay else s).world.retire

end Station

/-- A request to a tunnel. -/
inductive Operation where
  /-- Add a server. -/
  | addServer (server : Server)
  /-- Add a server with this reflector. -/
  | addServerWithReflector (server : Server) (reflector : Reflector)
  /-- Forget all servers. -/
  | clearServers
  /-- Set the proxy. -/
  | setProxy (proxy : Proxy)
  /-- Set user name and password for the proxy. -/
  | setProxyAuth (username password : Option String)
  /-- Turn the tunnel on or off. -/
  | enable (on : Bool)
  /-- Connect anew. -/
  | reconnect
  /-- Begin a detection run. -/
  | autoDetect
  /-- End the detection run. -/
  | stopAutoDetect
  /-- Handle everything that waits. -/
  | iterate
  deriving DecidableEq

/-- Carries a request out. -/
def Station.operate {σ : Type} [Surroundings σ] (s : Station σ) : Operation → Station σ
  | .addServer server => s.addServer server
  | .addServerWithReflector server reflector => s.addServerWithReflector server reflector
  | .clearServers => s.clearServers
  | .setProxy proxy => s.setProxy proxy
  | .setProxyAuth username password => s.setProxyAuth username password
  | .enable on => s.enable on
  | .reconnect => s.reconnect
  | .autoDetect => s.autoDetect
  | .stopAutoDetect => s.stopAutoDetect
  | .iterate => s.iterate

end SipOverRelay
