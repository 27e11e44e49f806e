import SipOverRelay.Settings.Persistence
import SipOverRelay.Tunnel.Operation

/-!
# The managed tunnel

A managed tunnel keeps its settings in a store. Every change of a setting reaches the tunnel and is
written back at once, so that the next start finds what was set last. The mode decides whether the
tunnel is off, on, or left to automatic detection.
-/

namespace SipOverRelay

/-- A station together with its settings and the store they are kept in. -/
structure Managed (σ : Type) where
  /-- The tunnel in its world. -/
  station : Station σ
  /-- Where the settings are kept. -/
  store : Store
  /-- The settings as they are now. -/
  settings : Settings

namespace Managed

variable {σ : Type} [Surroundings σ]

/-- Changes the station. -/
def onStation (m : Managed σ) (f : Station σ → Station σ) : Managed σ :=
  { m with station := f m.station }

/-- Changes the settings. -/
def modify (m : Managed σ) (f : Settings → Settings) : Managed σ :=
  { m with settings := f m.settings }

/-- Writes the settings back. -/
def save (m : Managed σ) : Managed σ := { m with store := m.settings.save m.store }

/-- Makes the tunnel do what the mode says. -/
def applyMode (m : Managed σ) : Managed σ :=
  m.onStation fun s =>
    match m.settings.mode with
    | .never => s.stopAutoDetect.enable false
    | .always => s.stopAutoDetect.enable true
    | .auto => s.autoDetect

/-- Takes a tunnel over with the settings that a store holds. -/
def load (s : Station σ) (store : Store) : Managed σ :=
  let settings := Settings.load store
  let s := { s with world := s.world.noteAll (Settings.loadNotices store) }
  let s := settings.servers.foldl Station.addServer s
  let s := if settings.proxy.isConfigured then s.setProxy settings.proxy else s
  let s := s.note (.settingsLoaded settings.servers.length settings.mode)
  applyMode ⟨s, store, settings⟩

/-- Adds a server at the end of the list. -/
def addServer (m : Managed σ) (server : Server) : Managed σ :=
  ((m.onStation (·.addServer server)).modify
    fun c => { c with servers := c.servers ++ [server] }).save

/-- Adds the server that a token names; a token that is no server changes nothing. -/
def addToken (m : Managed σ) (token : String) : Except Error (Managed σ) :=
  match Server.ofText token with
  | .ok server => .ok (m.addServer server)
  | .error why => .error (.server why)

/-- Removes the first server equal to this one. Tells whether there was one; if there was none,
nothing changes. -/
def removeServer (m : Managed σ) (server : Server) : Bool × Managed σ :=
  match m.settings.removeServer? server with
  | none => (false, m)
  | some settings =>
    (true, ({ m with settings }.onStation fun s =>
      settings.servers.foldl Station.addServer s.clearServers).save)

/-- Forgets all servers. -/
def cleanServers (m : Managed σ) : Managed σ :=
  ((m.onStation Station.clearServers).modify fun c => { c with servers := [] }).save

/-- Sets the mode and makes the tunnel do what it says. -/
def setMode (m : Managed σ) (mode : Mode) : Managed σ :=
  (((m.onStation (·.note (.modeChanged m.settings.mode mode))).modify
    fun c => { c with mode, enabled := mode ≠ .never }).save).applyMode

/-- Sets the proxy. -/
def setProxy (m : Managed σ) (proxy : Proxy) : Managed σ :=
  ((m.onStation (·.setProxy proxy)).modify fun c => { c with proxy }).save

/-- Sets how to identify oneself to the proxy. -/
def setProxyAuth (m : Managed σ) (username password : Option String) : Managed σ :=
  ((m.onStation (·.setProxyAuth username password)).modify
    fun c => { c with proxy := { c.proxy with username, password } }).save

/-- Handles everything that waits. -/
def iterate (m : Managed σ) : Managed σ := m.onStation Station.iterate

end Managed

/-- A request to a managed tunnel. -/
inductive ManagedOperation where
  /-- Add a server. -/
  | addServer (server : Server)
  /-- Add the server that a token names. -/
  | addToken (token : String)
  /-- Remove the first server equal to this one. -/
  | removeServer (server : Server)
  /-- Forget all servers. -/
  | cleanServers
  /-- Set the mode. -/
  | setMode (mode : Mode)
  /-- Set the proxy. -/
  | setProxy (proxy : Proxy)
  /-- Set user name and password for the proxy. -/
  | setProxyAuth (username password : Option String)
  /-- Handle everything that waits. -/
  | iterate
  deriving DecidableEq

/-- What a managed tunnel answers to a request. -/
inductive ManagedAnswer where
  /-- It is done. -/
  | done
  /-- Whether there was something to remove. -/
  | removed (found : Bool)
  /-- The request was refused. -/
  | refused (why : Error)
  deriving DecidableEq

/-- Carries a request out. -/
def Managed.operate {σ : Type} [Surroundings σ] (m : Managed σ) :
    ManagedOperation → ManagedAnswer × Managed σ
  | .addServer server => (.done, m.addServer server)
  | .addToken token =>
    match m.addToken token with
    | .ok m => (.done, m)
    | .error why => (.refused why, m)
  | .removeServer server =>
    let (found, m) := m.removeServer server
    (.removed found, m)
  | .cleanServers => (.done, m.cleanServers)
  | .setMode mode => (.done, m.setMode mode)
  | .setProxy proxy => (.done, m.setProxy proxy)
  | .setProxyAuth username password => (.done, m.setProxyAuth username password)
  | .iterate => (.done, m.iterate)

end SipOverRelay
