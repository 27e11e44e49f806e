import SipOverRelay.Notice
import SipOverRelay.Settings.Mode
import SipOverRelay.Store

/-!
# Keeping settings in a store

Settings are kept under seven keys of one area. Loading falls back to defaults where a key is
missing or unreadable and skips bad server tokens; a store that has only the older flag gets its
mode from it. Saving writes or removes each of the seven keys and touches nothing else.
-/

namespace SipOverRelay.Settings

/-- The area of the store that holds the settings. -/
def area : String := "tunnel"

/-- Key of the server list. -/
def serversKey : String := "server_addresses"

/-- Key of the flag that says whether the tunnel is wanted. -/
def enabledKey : String := "enabled"

/-- Key of the mode. -/
def modeKey : String := "mode"

/-- Key of the proxy's host. -/
def proxyHostKey : String := "http_proxy_host"

/-- Key of the proxy's port. -/
def proxyPortKey : String := "http_proxy_port"

/-- Key of the proxy's user name. -/
def proxyUserKey : String := "http_proxy_username"

/-- Key of the proxy's password. -/
def proxyPasswordKey : String := "http_proxy_password"

/-- The seven keys that settings are kept under. -/
def keys : List String :=
  [serversKey, enabledKey, modeKey, proxyHostKey, proxyPortKey, proxyUserKey, proxyPasswordKey]

/-- The proxy port when none is stored. -/
def defaultProxyPort : UInt16 := 8080

variable {α : Type} [Storage α]

/-- The stored flag. -/
def loadEnabled (store : α) : Bool := (Storage.get? store area enabledKey).elim false readFlag

/-- The stored mode; without one the flag decides. -/
def loadMode (store : α) : Mode :=
  match Storage.get? store area modeKey with
  | some text => ((Mode.ofText text).toOption).getD .never
  | none => if loadEnabled store then .always else .never

/-- The stored proxy. -/
def loadProxy (store : α) : Proxy where
  host := (Storage.get? store area proxyHostKey).getD ""
  port := ((Storage.get? store area proxyPortKey).bind (Text.port? ·.toList)).getD defaultProxyPort
  username := Storage.get? store area proxyUserKey
  password := Storage.get? store area proxyPasswordKey

/-- The stored server list. -/
def loadServers (store : α) : List Server :=
  (Storage.get? store area serversKey).elim [] Server.listOfText

/-- The settings that a store holds. -/
def load (store : α) : Settings where
  servers := loadServers store
  proxy := loadProxy store
  enabled := loadEnabled store
  mode := loadMode store

/-- What there is to complain about when settings are loaded: skipped server tokens in order, then
an unreadable mode. -/
def loadNotices (store : α) : List Notice :=
  ((Storage.get? store area serversKey).elim [] fun list =>
      (Server.rejectedTokens list.toList).map .tokenSkipped) ++
    ((Storage.get? store area modeKey).elim [] fun text =>
      match Mode.ofText text with
      | .ok _ => []
      | .error why => [.modeUnreadable why])

/-- The text kept under each of the seven keys; nothing means that the key is removed. -/
def written (settings : Settings) : List (String × Option String) :=
  let servers := Server.listText settings.servers
  let proxy := settings.proxy
  [(serversKey, if servers = "" then none else some servers),
    (enabledKey, some (if settings.enabled then "1" else "0")),
    (modeKey, some settings.mode.name),
    (proxyHostKey, if proxy.isConfigured then some proxy.host else none),
    (proxyPortKey,
      if proxy.isConfigured then some (String.ofList (Text.numeral proxy.port.toNat)) else none),
    (proxyUserKey, proxy.username),
    (proxyPasswordKey, proxy.password)]

/-- Keeps settings in a store. -/
def save (settings : Settings) (store : α) : α :=
  settings.written.foldl (fun store (key, value) => Storage.set store area key value) store

end SipOverRelay.Settings
