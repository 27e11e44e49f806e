import Mathlib.Logic.Function.Iterate
import SipOverRelay.Proofs.Persistence

/-!
# Saving again and again

Saving leaves nothing of what was under the seven keys and everything else as it is. So of several
savings in a row only the last one counts, down to the order of the entries.

A program that is started again loads its settings and keeps what it loaded. The first time this can
still change something: a proxy's port without a host is dropped, and so are tokens that were read
but cannot be written, so that a later start no longer finds their servers. What is left then comes
back every time, and the store stays as it is.
-/

namespace SipOverRelay

namespace Store

/-- Whether an entry is kept under other keys than these. -/
def isElsewhere (area : String) (keys : List String) (entry : (String × String) × String) : Bool :=
  ¬(entry.1.1 = area ∧ entry.1.2 ∈ keys)

/-- The entry that a key and its text make, if there is a text. -/
def entryOf? (area : String) (kept : String × Option String) :
    Option ((String × String) × String) :=
  kept.2.map (((area, kept.1), ·))

/-- Writing one key takes its entry away and puts the new one at the end. -/
theorem entries_set (s : Store) (area key : String) (value : Option String) :
    (s.set area key value).entries =
      s.without area key ++ (entryOf? area (key, value)).toList := by
  cases value with
  | none => simp [set, entryOf?]
  | some value => rfl

/-- An entry is kept elsewhere if its key is another one. -/
theorem isElsewhere_of_mem_entryOf? {area : String} {keys : List String}
    {kept : String × Option String} {entry : (String × String) × String}
    (h : entry ∈ entryOf? area kept) : isElsewhere area keys entry = decide (kept.1 ∉ keys) := by
  obtain ⟨value, -, rfl⟩ := Option.map_eq_some_iff.mp h
  simp [isElsewhere]

/-- Taking one entry away and then those of other keys takes them all away. -/
theorem filter_without (s : Store) (area key : String) (keys : List String) :
    (s.without area key).filter (isElsewhere area keys) =
      s.entries.filter (isElsewhere area (key :: keys)) := by
  rw [without, List.filter_filter]
  refine List.filter_congr fun entry _ => ?_
  simp only [isElsewhere, List.mem_cons]
  grind

/-- Writing distinct keys takes their entries away and puts the new ones at the end, in the order
of writing. -/
theorem entries_foldl_set {area : String} {kept : List (String × Option String)}
    (hd : (kept.map Prod.fst).Nodup) (s : Store) :
    (kept.foldl (fun store (key, value) => Storage.set store area key value) s).entries =
      s.entries.filter (isElsewhere area (kept.map Prod.fst)) ++
        kept.filterMap (entryOf? area) := by
  induction kept generalizing s with
  | nil =>
    rw [List.foldl_nil, List.filterMap_nil, List.append_nil, eq_comm, List.filter_eq_self]
    exact fun entry _ => by simp [isElsewhere]
  | cons first kept ih =>
    obtain ⟨hnew, hd⟩ := List.nodup_cons.mp hd
    have hset : (Storage.set s area first.1 first.2).entries =
        s.without area first.1 ++ (entryOf? area first).toList := s.entries_set _ _ _
    -- The entry that was just written is under none of the keys to come.
    have hfirst : (entryOf? area first).toList.filter (isElsewhere area (kept.map Prod.fst)) =
        (entryOf? area first).toList := by
      rw [List.filter_eq_self]
      intro entry hentry
      rw [isElsewhere_of_mem_entryOf? (Option.mem_toList.mp hentry)]
      exact decide_eq_true hnew
    rw [List.foldl_cons, ih hd, hset, List.filter_append, filter_without, hfirst,
      List.append_assoc, List.map_cons]
    congr 1
    cases h : entryOf? area first <;> simp [h]

end Store

namespace Settings

/-- Saved settings stand behind all that is kept under other keys. -/
theorem entries_save (settings : Settings) (store : Store) :
    (settings.save store).entries = store.entries.filter (Store.isElsewhere area keys) ++
      settings.written.filterMap (Store.entryOf? area) :=
  Store.entries_foldl_set (by rw [map_fst_written]; decide) store

/-- Nothing that settings keep is kept under other keys. -/
theorem filter_written (settings : Settings) :
    (settings.written.filterMap (Store.entryOf? area)).filter
      (Store.isElsewhere area keys) = [] := by
  rw [List.filter_eq_nil_iff]
  intro entry hentry
  obtain ⟨kept, hkept, hentry⟩ := List.mem_filterMap.mp hentry
  have hkey : kept.1 ∈ keys := by
    rw [← settings.map_fst_written]
    exact List.mem_map_of_mem hkept
  simp [Store.isElsewhere_of_mem_entryOf? hentry, hkey]

/-- Saving over other settings leaves nothing of them. -/
theorem save_save (last earlier : Settings) (store : Store) :
    last.save (earlier.save store) = last.save store := by
  ext1
  rw [entries_save, entries_save, entries_save, List.filter_append, filter_written,
    List.append_nil, List.filter_filter]
  simp

/-- Saving over any number of other settings leaves nothing of them. -/
theorem save_foldl_save (last : Settings) (earlier : List Settings) (store : Store) :
    last.save (earlier.foldl (fun store settings => settings.save store) store) =
      last.save store := by
  induction earlier generalizing store with
  | nil => rfl
  | cons first earlier ih => rw [List.foldl_cons, ih, save_save]

/-- Of settings saved one after the other the last ones win: the store is the same as if they alone
had been saved. Under the seven keys it holds what they keep, whatever was there before, and under
all other keys what it held from the beginning. -/
theorem last_save_wins (earlier : List Settings) (last : Settings) (store : Store) :
    let saved := (earlier ++ [last]).foldl (fun store settings => settings.save store) store
    saved = last.save store ∧
      (∀ other : Store, ∀ key ∈ keys,
        saved.get? area key = (last.save other).get? area key) ∧
      ∀ place key, ¬(place = area ∧ key ∈ keys) → saved.get? place key = store.get? place key := by
  intro saved
  have hsaved : saved = last.save store := by
    rw [← save_foldl_save last earlier store]
    exact List.foldl_append
  refine ⟨hsaved, fun other key hkey => ?_, fun place key helse => ?_⟩
  · rw [hsaved]
    have hread (s : Store) := last.get?_save s area key
    simp only [hkey, and_self, if_true] at hread
    exact (hread store).trans (hread other).symm
  · rw [hsaved]
    exact (last.get?_save store place key).trans (if_neg helse)

/-- A store with a proxy, an unreadable mode and a setting of somebody else. -/
def shared : Store :=
  (((Store.empty.set area proxyHostKey (some "old.example")).set "sip" "port" (some "5060")).set
    area modeKey (some "sometimes")).set area "colour" (some "red")

/-- Settings with a proxy that asks for a password. -/
def proxied : Settings where
  servers := [⟨"a", 1, none⟩]
  proxy := { host := "proxy.example", port := 3128, password := some "secret" }

/-- Settings without a proxy. -/
def direct : Settings where
  enabled := true
  mode := .auto

/-- Proxy and password are gone when the last settings have none, and what is not theirs stays. -/
theorem proxy_is_forgotten :
    let saved := ([proxied, roaming, proxied] ++ [direct]).foldl
      (fun store settings => settings.save store) shared
    saved = direct.save shared ∧ saved.get? area proxyPasswordKey = none ∧
      saved.get? area "colour" = some "red" := by
  intro saved
  obtain ⟨hsaved, hkeys, helse⟩ := last_save_wins [proxied, roaming, proxied] direct shared
  exact ⟨hsaved, (hkeys .empty proxyPasswordKey (by decide)).trans (by decide),
    (helse area "colour" (by decide)).trans (by decide)⟩

section Restarts

variable {α : Type} [Storage α] [LawfulStorage α]

/-- What a start of the program does to a store: settings are loaded and kept again. -/
def restart (store : α) : α := (load store).save store

theorem load_restart (store : α) : load (restart store) = (load store).restored := load_save _ _

omit [LawfulStorage α] in
/-- Loaded servers come from a text. -/
theorem exists_loadServers (store : α) : ∃ text, loadServers store = Server.listOfText text := by
  rw [loadServers]
  cases Storage.get? store area serversKey with
  | none => exact ⟨"", rfl⟩
  | some text => exact ⟨text, rfl⟩

omit [LawfulStorage α] in
/-- What is left of loaded settings when they were kept and loaded again comes back every time. -/
theorem restored_restored_load (store : α) :
    (load store).restored.restored = (load store).restored := by
  rw [restored_eq_self_iff]
  constructor
  · obtain ⟨text, htext⟩ := exists_loadServers store
    change Server.listOfText (Server.listText (Server.listOfText (Server.listText
      (loadServers store)))) = Server.listOfText (Server.listText (loadServers store))
    rw [htext, Server.listOfText_listText (Server.listOfText _)]
    exact Server.listOfToken_listToken_of_isLegible fun _ => Server.isLegible_of_mem_rewritten
  · rw [restored]
    cases h : (load store).proxy.isConfigured with
    | true => exact .inl (by simpa [Proxy.isConfigured] using h)
    | false => exact .inr rfl

/-- Settings that come back are loaded after every further start. -/
theorem load_iterate_restart {store : α} (h : (load store).restored = load store) (n : Nat) :
    load (restart^[n] store) = load store := by
  induction n with
  | zero => rfl
  | succ n ih => rw [Function.iterate_succ_apply', load_restart, ih, h]

/-- Where settings were kept that come back, further starts change nothing. -/
theorem get?_iterate_restart {settings : Settings} (h : settings.restored = settings) (store : α)
    (n : Nat) (place key : String) :
    Storage.get? (restart^[n] (settings.save store)) place key =
      Storage.get? (settings.save store) place key := by
  have hload (n : Nat) : load (restart^[n] (settings.save store)) = settings := by
    rw [load_iterate_restart (by rw [load_save, h, h]), load_save, h]
  induction n with
  | zero => rfl
  | succ n ih =>
    rw [Function.iterate_succ_apply', restart, hload, get?_save, ih, get?_save settings store]
    split <;> rfl

/-- Whatever a store holds, all starts but the first load the same settings, and after the second
start the store stays as it is. What the first start loads can differ from what the others load in
the proxy's port and in servers that the others miss, and in nothing else. -/
theorem restarts_settle (store : α) :
    (∀ n, load (restart^[n + 2] store) = load (restart store)) ∧
      (∀ n place key, Storage.get? (restart^[n + 2] store) place key =
        Storage.get? (restart (restart store)) place key) ∧
      (load (restart store)).enabled = (load store).enabled ∧
      (load (restart store)).mode = (load store).mode ∧
      (load (restart store)).proxy.host = (load store).proxy.host ∧
      (load (restart store)).proxy.username = (load store).proxy.username ∧
      (load (restart store)).proxy.password = (load store).proxy.password ∧
      (load (restart store)).servers.Sublist (load store).servers := by
  have hsettled : (load (restart store)).restored = load (restart store) := by
    rw [load_restart, restored_restored_load]
  refine ⟨fun n => load_iterate_restart hsettled (n + 1),
    fun n place key => get?_iterate_restart hsettled (restart store) n place key, ?_⟩
  rw [load_restart]
  refine ⟨rfl, rfl, rfl, rfl, rfl, ?_⟩
  obtain ⟨text, htext⟩ := exists_loadServers store
  change (Server.listOfText (Server.listText (loadServers store))).Sublist (loadServers store)
  rw [htext, Server.listOfText_listText_of_read]
  exact List.filter_sublist

end Restarts

/-- A store from before there were modes, with bad tokens, one that cannot be written, and a port
and a password of no proxy. -/
def neglected : Store :=
  ((((Store.empty.set area serversKey (some "b:2 [[a]:1 c [::]:+03:x c:3")).set area enabledKey
    (some " yes ")).set area proxyPortKey (some "3128")).set area proxyPasswordKey
    (some "")).set "sip" "port" (some "5060")

/-- Its first start finds three servers, all others two. -/
theorem neglected_store_settles :
    (load neglected).servers = [⟨"b", 2, none⟩, ⟨"[a", 1, none⟩, ⟨"c", 3, none⟩] ∧
      (load (restart neglected)).servers = [⟨"b", 2, none⟩, ⟨"c", 3, none⟩] ∧
      load (restart (restart neglected)) = load (restart neglected) ∧
      (load (restart neglected)).mode = .always :=
  ⟨by decide, by decide, (restarts_settle neglected).1 0, by
    rw [(restarts_settle neglected).2.2.2.1]
    decide⟩

end Settings

end SipOverRelay
