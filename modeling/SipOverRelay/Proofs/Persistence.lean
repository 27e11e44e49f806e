import SipOverRelay.Proofs.ServerLists
import SipOverRelay.Settings.Persistence

/-!
# What a store brings back

Saving writes or removes every one of the seven keys, and loading looks at nothing but them. So what
is loaded after saving depends on the saved settings alone. Flag, mode, user name and password come
back as they were. The server list comes back as far as its text brings it back. A proxy without a
host is not kept at all, so its port comes back as the default one.
-/

namespace SipOverRelay

namespace Storage

variable {α : Type} [Storage α] [LawfulStorage α]

/-- Writes to other places do not change what is read. -/
theorem get?_foldl_set_of_not_mem {area area' key : String}
    {entries : List (String × Option String)} (h : area = area' → key ∉ entries.map Prod.fst)
    (store : α) :
    Storage.get? (entries.foldl (fun store (key, value) => Storage.set store area key value) store)
      area' key = Storage.get? store area' key := by
  induction entries generalizing store with
  | nil => rfl
  | cons entry entries ih =>
    have hrest : area = area' → key ∉ entries.map Prod.fst := fun ha hk =>
      h ha (List.mem_cons_of_mem _ hk)
    have hother : ¬(area = area' ∧ entry.1 = key) := fun ⟨ha, hk⟩ =>
      h ha (hk ▸ List.mem_cons_self)
    rw [List.foldl_cons, ih hrest, LawfulStorage.get?_set, if_neg hother]

/-- Of writes to distinct keys each is read back. -/
theorem get?_foldl_set_of_mem {area key : String} {value : Option String}
    {entries : List (String × Option String)} (hd : (entries.map Prod.fst).Nodup)
    (h : (key, value) ∈ entries) (store : α) :
    Storage.get? (entries.foldl (fun store (key, value) => Storage.set store area key value) store)
      area key = value := by
  induction entries generalizing store with
  | nil => cases h
  | cons entry entries ih =>
    obtain ⟨hnew, hd⟩ := List.nodup_cons.mp hd
    rw [List.foldl_cons]
    rcases List.mem_cons.mp h with rfl | h
    · rw [get?_foldl_set_of_not_mem fun _ => hnew, LawfulStorage.get?_set, if_pos ⟨rfl, rfl⟩]
    · exact ih hd h _

end Storage

namespace Settings

variable {α : Type} [Storage α] [LawfulStorage α]

/-- Every one of the seven keys is written once. -/
theorem map_fst_written (settings : Settings) : settings.written.map Prod.fst = keys := rfl

/-- After saving each of the seven keys holds what the settings keep under it. -/
theorem get?_save_of_mem {settings : Settings} {key : String} {value : Option String}
    (h : (key, value) ∈ settings.written) (store : α) :
    Storage.get? (settings.save store) area key = value :=
  Storage.get?_foldl_set_of_mem (by rw [map_fst_written]; decide) h store

/-- What a store holds after settings were saved: under the seven keys what the settings keep there,
whatever was there before, and under all others what it held. -/
theorem get?_save (settings : Settings) (store : α) (place key : String) :
    Storage.get? (settings.save store) place key =
      if place = area ∧ key ∈ keys then Storage.get? (settings.save Store.empty) area key
      else Storage.get? store place key := by
  split
  · next h =>
    obtain ⟨rfl, hkey⟩ := h
    rw [← settings.map_fst_written] at hkey
    obtain ⟨⟨key, value⟩, hm, rfl⟩ := List.mem_map.mp hkey
    rw [get?_save_of_mem hm, get?_save_of_mem hm]
  · next h =>
    refine Storage.get?_foldl_set_of_not_mem (fun harea hkey => ?_) store
    rw [settings.map_fst_written] at hkey
    exact h ⟨harea.symm, hkey⟩

/-- Settings after they have been kept in a store and loaded again. -/
def restored (settings : Settings) : Settings where
  servers := Server.listOfText (Server.listText settings.servers)
  proxy :=
    { settings.proxy with
      port := if settings.proxy.isConfigured then settings.proxy.port else defaultProxyPort }
  enabled := settings.enabled
  mode := settings.mode

theorem loadServers_save (settings : Settings) (store : α) :
    loadServers (settings.save store) = settings.restored.servers := by
  have hservers : Storage.get? (settings.save store) area serversKey =
      if Server.listText settings.servers = "" then none
      else some (Server.listText settings.servers) := get?_save_of_mem (by simp [written]) store
  rw [loadServers, hservers]
  split
  · -- Nothing is kept, and the empty text would be read as the empty list all the same.
    rename_i h
    rw [restored, h]
    rfl
  · rfl

theorem loadEnabled_save (settings : Settings) (store : α) :
    loadEnabled (settings.save store) = settings.enabled := by
  have henabled : Storage.get? (settings.save store) area enabledKey =
      some (if settings.enabled then "1" else "0") := get?_save_of_mem (by simp [written]) store
  rw [loadEnabled, henabled, Option.elim_some, readFlag_digit]

theorem loadMode_save (settings : Settings) (store : α) :
    loadMode (settings.save store) = settings.mode := by
  have hmode : Storage.get? (settings.save store) area modeKey = some settings.mode.name :=
    get?_save_of_mem (by simp [written]) store
  rw [loadMode, hmode]
  simp [Except.toOption]

theorem loadProxy_save (settings : Settings) (store : α) :
    loadProxy (settings.save store) = settings.restored.proxy := by
  have hhost : Storage.get? (settings.save store) area proxyHostKey =
      if settings.proxy.isConfigured then some settings.proxy.host else none :=
    get?_save_of_mem (by simp [written]) store
  have hport : Storage.get? (settings.save store) area proxyPortKey =
      if settings.proxy.isConfigured then
        some (String.ofList (Text.numeral settings.proxy.port.toNat))
      else none := get?_save_of_mem (by simp [written]) store
  have huser : Storage.get? (settings.save store) area proxyUserKey = settings.proxy.username :=
    get?_save_of_mem (by simp [written]) store
  have hpassword :
      Storage.get? (settings.save store) area proxyPasswordKey = settings.proxy.password :=
    get?_save_of_mem (by simp [written]) store
  rw [loadProxy, hhost, hport, huser, hpassword, restored]
  cases hc : settings.proxy.isConfigured with
  | true => simp [Text.port?_numeral]
  | false =>
    have hempty : settings.proxy.host = "" := by simpa [Proxy.isConfigured] using hc
    simp [hempty]

/-- What is loaded after saving depends on the saved settings alone. -/
theorem load_save (settings : Settings) (store : α) :
    load (settings.save store) = settings.restored := by
  rw [load, loadServers_save, loadEnabled_save, loadMode_save, loadProxy_save]
  rfl

/-- Settings are restored exactly if their servers are, and the proxy's port is one that is kept or
the default one. -/
theorem restored_eq_self_iff {settings : Settings} :
    settings.restored = settings ↔
      Server.listOfText (Server.listText settings.servers) = settings.servers ∧
        (settings.proxy.host ≠ "" ∨ settings.proxy.port = defaultProxyPort) := by
  have hconfigured : settings.proxy.isConfigured = true ↔ settings.proxy.host ≠ "" := by
    simp [Proxy.isConfigured]
  constructor
  · intro h
    have hport : (if settings.proxy.isConfigured then settings.proxy.port else defaultProxyPort) =
        settings.proxy.port := congrArg (·.proxy.port) h
    refine ⟨congrArg Settings.servers h, ?_⟩
    split at hport
    · rename_i hc
      exact .inl (hconfigured.mp hc)
    · exact .inr hport.symm
  · rintro ⟨hservers, hproxy⟩
    have hport : (if settings.proxy.isConfigured then settings.proxy.port else defaultProxyPort) =
        settings.proxy.port := by
      split
      · rfl
      · rename_i hc
        exact (hproxy.resolve_left (hconfigured.not.mp hc)).symm
    rw [restored, hservers, hport]

/-- Saved settings are loaded again as they were exactly if all hosts are legible and the proxy has
a host or the port that is assumed without one. Nothing that was in the store before shows in what
is loaded. -/
theorem load_save_eq_self_iff (settings : Settings) (store : α) :
    (load (settings.save store) = settings ↔
      (∀ server ∈ settings.servers, Server.IsLegible server.host.toList) ∧
        (settings.proxy.host ≠ "" ∨ settings.proxy.port = 8080)) ∧
      ∀ other : α, load (settings.save other) = load (settings.save store) := by
  refine ⟨?_, fun other => by rw [load_save, load_save]⟩
  rw [load_save, restored_eq_self_iff, Server.listOfText_listText,
    Server.listOfToken_listToken_eq_self_iff]
  rfl

/-- A store with leftovers of a proxy, an unreadable mode and a server. -/
def leftovers : Store :=
  (((Store.empty.set area proxyHostKey (some "old.example")).set area proxyPortKey
    (some "3128")).set area modeKey (some "sometimes")).set area serversKey (some "[[a]:1")

/-- Settings without a proxy, with hosts that need brackets and hosts that need none. -/
def roaming : Settings where
  servers := [⟨"2001:db8::1", 443, some ⟨5000, 250⟩⟩, ⟨"[::", 80, none⟩, ⟨"a]", 0, none⟩,
    ⟨"a]", 0, none⟩]
  proxy := { port := 8080, username := some "" }
  enabled := true
  mode := .auto

/-- Nothing of the leftovers shows. -/
theorem leftovers_do_not_show : load (roaming.save leftovers) = roaming :=
  (load_save_eq_self_iff roaming leftovers).1.mpr ⟨by decide, .inr rfl⟩

end Settings

end SipOverRelay
