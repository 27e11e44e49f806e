import SipOverRelay.Json.Parser
import SipOverRelay.Json.Printer
import SipOverRelay.Settings.Mode

/-!
# The JSON layout of settings

Every structure is a record of its fields in a fixed order, or a plain list of them. In a record
unknown names are ignored and known names must not repeat; in a list only trailing fields that have
a default may be missing, and nothing may follow them. Writing always gives the record form.
-/

namespace SipOverRelay

namespace Json

/-- The values of a structure's fields, absent ones as nothing. Of a list, at least `required`
fields must be there. -/
def fields? (names : List String) (required : Nat) : Json → Option (List (Option Json))
  | .record fields => do
    let fields ← fields.mapM fun (name, value) => name.map fun name => (name, value)
    if names.all fun name => (fields.filter (·.1 = name)).length ≤ 1 then
      return names.map (List.lookup · fields)
    else
      none
  | .list items =>
    if required ≤ items.length && items.length ≤ names.length then
      some (items.map some ++ List.replicate (names.length - items.length) none)
    else
      none
  | _ => none

/-- A string that has a text. -/
def text? : Json → Option String
  | .string text => text
  | _ => none

/-- A natural number up to a bound. -/
def natural? (limit : Nat) : Json → Option Nat
  | .natural n => if n ≤ limit then some n else none
  | _ => none

/-- A 16 bit number. -/
def port? (value : Json) : Option UInt16 := (natural? 65535 value).map UInt16.ofNat

/-- A truth value. -/
def bool? : Json → Option Bool
  | .bool value => some value
  | _ => none

/-- A value that may be null. -/
def nullable? {α : Type} (read : Json → Option α) : Json → Option (Option α)
  | .null => some none
  | value => (read value).map some

/-- A field that takes a default when it is absent. -/
def orElse {α : Type} (read : Json → Option α) (fallback : α) : Option Json → Option α
  | none => some fallback
  | some value => read value

/-- A text or null. -/
def ofText (text : Option String) : Json :=
  match text with
  | none => .null
  | some text => .string (some text)

/-- A record with these fields. -/
def ofFields (fields : List (String × Json)) : Json :=
  .record (fields.map fun (name, value) => (some name, value))

end Json

/-- The layout of a reflector. -/
def Reflector.toJson (reflector : Reflector) : Json :=
  .ofFields [("port", .natural reflector.port.toNat), ("delay_ms", .natural reflector.delay.toNat)]

/-- Reads a reflector. -/
def Reflector.ofJson? (value : Json) : Option Reflector := do
  match ← value.fields? ["port", "delay_ms"] 2 with
  | [some port, some delay] => do
    return ⟨← port.port?, UInt32.ofNat (← delay.natural? 4294967295)⟩
  | _ => none

/-- The layout of a server. -/
def Server.toJson (server : Server) : Json :=
  .ofFields [("host", .string (some server.host)), ("port", .natural server.port.toNat),
    ("mirror", (server.reflector.map Reflector.toJson).getD .null)]

/-- Reads a server. -/
def Server.ofJson? (value : Json) : Option Server := do
  match ← value.fields? ["host", "port", "mirror"] 2 with
  | [some host, some port, reflector] => do
    return ⟨← host.text?, ← port.port?,
      ← Json.orElse (Json.nullable? Reflector.ofJson?) none reflector⟩
  | _ => none

/-- The layout of a mode. -/
def Mode.toJson (mode : Mode) : Json := .string (some mode.name)

/-- Reads a mode: its name, or a record of its name with null. -/
def Mode.ofJson? : Json → Option Mode
  | .string (some name) => ofName? name
  | .record [(some name, .null)] => ofName? name
  | _ => none

/-- The layout of a proxy. -/
def Proxy.toJson (proxy : Proxy) : Json :=
  .ofFields [("host", .string (some proxy.host)), ("port", .natural proxy.port.toNat),
    ("username", .ofText proxy.username), ("password", .ofText proxy.password)]

/-- Reads a proxy. -/
def Proxy.ofJson? (value : Json) : Option Proxy := do
  match ← value.fields? ["host", "port", "username", "password"] 4 with
  | [some host, some port, username, password] => do
    return ⟨← host.text?, ← port.port?, ← Json.orElse (Json.nullable? Json.text?) none username,
      ← Json.orElse (Json.nullable? Json.text?) none password⟩
  | _ => none

/-- The layout of settings. -/
def Settings.toJson (settings : Settings) : Json :=
  .ofFields [("servers", .list (settings.servers.map Server.toJson)),
    ("http_proxy", settings.proxy.toJson), ("enabled", .bool settings.enabled),
    ("mode", settings.mode.toJson)]

/-- Reads settings. -/
def Settings.ofJson? (value : Json) : Option Settings := do
  match ← value.fields? ["servers", "http_proxy", "enabled", "mode"] 1 with
  | [some (.list servers), proxy, enabled, mode] => do
    return ⟨← servers.mapM Server.ofJson?, ← Json.orElse Proxy.ofJson? {} proxy,
      ← Json.orElse Json.bool? false enabled, ← Json.orElse Mode.ofJson? .never mode⟩
  | _ => none

/-- The compact text of settings. -/
def Settings.toText (settings : Settings) : String := settings.toJson.compact

/-- Reads settings from a text. -/
def Settings.ofText? (text : String) : Option Settings := (Json.ofText? text).bind Settings.ofJson?

end SipOverRelay
