import Mathlib.Data.List.Nodup
import SipOverRelay.Proofs.JsonText

/-!
# Settings through their JSON text

Settings, and each structure in them, are written as a record of all their fields, each under a name
of its own. Such a record gives the values of the fields in order, so that a structure is read back
if the values of its fields are. No field is left out on writing: what has no value is written as
null, which is told apart from an empty text, and defaults for missing fields never come into play.
-/

namespace SipOverRelay

namespace Json

/-! ### Records by their fields -/

/-- The names of named values are all there. -/
theorem mapM_named (fields : List (String × Json)) :
    (named fields).mapM (fun (name, value) => name.map fun name => (name, value)) =
      some fields := by
  induction fields with
  | nil => rfl
  | cons field fields ih =>
    rw [named] at ih
    rw [named, List.map_cons, List.mapM_cons]
    simp [ih]

/-- Among different names each stands once at most. -/
theorem length_filter_le_one {fields : List (String × Json)}
    (hn : (fields.map Prod.fst).Nodup) (name : String) :
    (fields.filter (·.1 = name)).length ≤ 1 := by
  have hcount : (fields.map Prod.fst).count name = (fields.filter (·.1 = name)).length := by
    rw [List.count, List.countP_map, List.countP_eq_length_filter]
    rfl
  rw [← hcount]
  exact List.nodup_iff_count_le_one.mp hn name

/-- Among different names each leads to its own value. -/
theorem lookup_of_mem {fields : List (String × Json)} (hn : (fields.map Prod.fst).Nodup)
    {field : String × Json} (hm : field ∈ fields) : fields.lookup field.1 = some field.2 := by
  induction fields with
  | nil => cases hm
  | cons first fields ih =>
    obtain ⟨hfirst, hrest⟩ := List.nodup_cons.mp hn
    rcases List.mem_cons.mp hm with rfl | hm
    · rw [List.lookup_cons_self]
    · have hne : field.1 ≠ first.1 := by
        intro heq
        exact hfirst (heq ▸ List.mem_map_of_mem hm)
      rw [List.lookup_cons, beq_false_of_ne hne]
      exact ih hrest hm

/-- A record of all fields, each under a name of its own, gives their values in order. -/
theorem fields?_ofFields {names : List String} {fields : List (String × Json)}
    (hnames : fields.map Prod.fst = names) (hn : names.Nodup) (required : Nat) :
    fields? names required (ofFields fields) = some (fields.map fun field => some field.2) := by
  subst hnames
  have hfound : (fields.map Prod.fst).map (List.lookup · fields) =
      fields.map fun field => some field.2 := by
    rw [List.map_map]
    exact List.map_congr_left fun field hfield => lookup_of_mem hn hfield
  have honce : (fields.map Prod.fst).all
      (fun name => (fields.filter (·.1 = name)).length ≤ 1) = true :=
    List.all_eq_true.mpr fun name _ => decide_eq_true (length_filter_le_one hn name)
  have hnamed := mapM_named fields
  rw [named] at hnamed
  rw [ofFields, fields?, hnamed, Option.bind_eq_bind, Option.bind_some, if_pos honce, hfound]
  rfl

/-! ### Values of fields -/

/-- A 16 bit number is read back. -/
theorem port?_natural (port : UInt16) : (natural port.toNat).port? = some port := by
  have hlimit : port.toNat ≤ 65535 := by
    have := port.toNat_lt
    omega
  rw [port?, natural?, if_pos hlimit, Option.map_some, UInt16.ofNat_toNat]

/-- A 32 bit number is read back. -/
theorem natural?_natural (n : UInt32) :
    (natural n.toNat).natural? 4294967295 = some n.toNat := by
  have hlimit : n.toNat ≤ 4294967295 := by
    have := n.toNat_lt
    omega
  rw [natural?, if_pos hlimit]

/-- A field that is there and not null is read. -/
theorem orElse_nullable? {α : Type} {read : Json → Option α} {value : Json} {a : α}
    (hnull : value ≠ .null) (hread : read value = some a) :
    orElse (nullable? read) none (some value) = some (some a) := by
  unfold orElse nullable?
  dsimp only
  split
  · exact absurd rfl hnull
  · rw [hread, Option.map_some]

/-- A text that may be missing is read back, the empty text too. -/
theorem orElse_ofText (text : Option String) :
    orElse (nullable? text?) none (some (ofText text)) = some text := by
  cases text <;> rfl

/-- A text that may be missing is a plain value. -/
theorem isPlain_ofText (text : Option String) : IsPlain (ofText text) := by
  cases text with
  | none => exact .null
  | some text => exact .string text

end Json

open Json

/-! ### Structures -/

theorem Reflector.isPlain_toJson (reflector : Reflector) : IsPlain reflector.toJson := by
  refine .record ?_
  simp only [List.forall_mem_cons]
  exact ⟨.natural _, .natural _, List.forall_mem_nil _⟩

/-- A reflector is read from its layout. -/
theorem Reflector.ofJson?_toJson (reflector : Reflector) :
    Reflector.ofJson? reflector.toJson = some reflector := by
  have hfields : reflector.toJson.fields? ["port", "delay_ms"] 2 =
      some [some (.natural reflector.port.toNat), some (.natural reflector.delay.toNat)] :=
    fields?_ofFields rfl (by simp) 2
  rw [Reflector.ofJson?, hfields]
  simp [port?_natural, natural?_natural]

theorem Server.isPlain_toJson (server : Server) : IsPlain server.toJson := by
  have hreflector : IsPlain ((server.reflector.map Reflector.toJson).getD .null) := by
    cases server.reflector with
    | none => exact .null
    | some reflector => exact reflector.isPlain_toJson
  refine .record ?_
  simp only [List.forall_mem_cons]
  exact ⟨.string _, .natural _, hreflector, List.forall_mem_nil _⟩

/-- A server is read from its layout. -/
theorem Server.ofJson?_toJson (server : Server) :
    Server.ofJson? server.toJson = some server := by
  have hfields : server.toJson.fields? ["host", "port", "mirror"] 2 =
      some [some (.string (some server.host)), some (.natural server.port.toNat),
        some ((server.reflector.map Reflector.toJson).getD .null)] :=
    fields?_ofFields rfl (by simp) 2
  have hreflector : Json.orElse (Json.nullable? Reflector.ofJson?) none
      (some ((server.reflector.map Reflector.toJson).getD .null)) = some server.reflector := by
    cases server.reflector with
    | none => rfl
    | some reflector => exact orElse_nullable? (fun h => nomatch h) reflector.ofJson?_toJson
  rw [Server.ofJson?, hfields]
  simp [port?_natural, text?, hreflector]

theorem Proxy.isPlain_toJson (proxy : Proxy) : IsPlain proxy.toJson := by
  refine .record ?_
  simp only [List.forall_mem_cons]
  exact ⟨.string _, .natural _, isPlain_ofText _, isPlain_ofText _, List.forall_mem_nil _⟩

/-- A proxy is read from its layout. -/
theorem Proxy.ofJson?_toJson (proxy : Proxy) : Proxy.ofJson? proxy.toJson = some proxy := by
  have hfields : proxy.toJson.fields? ["host", "port", "username", "password"] 4 =
      some [some (.string (some proxy.host)), some (.natural proxy.port.toNat),
        some (.ofText proxy.username), some (.ofText proxy.password)] :=
    fields?_ofFields rfl (by simp) 4
  rw [Proxy.ofJson?, hfields]
  simp [port?_natural, text?, orElse_ofText]

/-- A mode is read from its layout. -/
theorem Mode.ofJson?_toJson (mode : Mode) : Mode.ofJson? mode.toJson = some mode :=
  Mode.ofName?_name mode

namespace Settings

theorem isPlain_toJson (settings : Settings) : IsPlain settings.toJson := by
  have hservers : ∀ item ∈ settings.servers.map Server.toJson, IsPlain item :=
    List.forall_mem_map.mpr fun server _ => server.isPlain_toJson
  refine .record ?_
  simp only [List.forall_mem_cons]
  exact ⟨.list hservers, settings.proxy.isPlain_toJson, .bool _, .string _, List.forall_mem_nil _⟩

/-- Servers are read from their layouts, in order. -/
theorem mapM_ofJson?_toJson (servers : List Server) :
    servers.mapM (Server.ofJson? ∘ Server.toJson) = some servers := by
  induction servers with
  | nil => rfl
  | cons server servers ih =>
    rw [List.mapM_cons, Function.comp_apply, server.ofJson?_toJson, ih]
    rfl

/-- Settings are read from their layout. -/
theorem ofJson?_toJson (settings : Settings) : ofJson? settings.toJson = some settings := by
  have hfields : settings.toJson.fields? ["servers", "http_proxy", "enabled", "mode"] 1 =
      some [some (.list (settings.servers.map Server.toJson)), some settings.proxy.toJson,
        some (.bool settings.enabled), some settings.mode.toJson] :=
    fields?_ofFields rfl (by simp) 1
  rw [ofJson?, hfields]
  simp [mapM_ofJson?_toJson, orElse, bool?, Proxy.ofJson?_toJson, Mode.ofJson?_toJson]

/-- The text of settings is a JSON text, it stands for their layout, and the settings are what is
read from it: any servers with or without reflectors, any strings, absent and empty texts told
apart, any numbers and modes. -/
theorem text_tells_settings (settings : Settings) :
    Json.ofText? settings.toText = some settings.toJson ∧
      ofText? settings.toText = some settings := by
  have htext : Json.ofText? settings.toText = some settings.toJson :=
    ofText?_compact settings.isPlain_toJson
  refine ⟨htext, ?_⟩
  rw [ofText?, htext, Option.bind_some, ofJson?_toJson]

end Settings

end SipOverRelay
