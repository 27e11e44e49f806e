import SipOverRelay.Managed.Run
import SipOverRelay.Proofs.Persistence
import SipOverRelay.Rehearsal.Stage

/-!
# What a managed tunnel finds after a restart

Every request that changes a setting writes all settings back, and nothing else touches store or
settings. So the store always brings back what the text of the present servers brings back. A server
that was added by its token has a host, and unless the token begins with a bracket the end of that
host is marked. But a token is read as it is given, white space in the host included, and in the
list that is stored white space ends a token. So exactly the hosts with white space do not come
back.
-/

namespace SipOverRelay

/-- The host of a token that does not begin with a bracket is not empty, and its end is marked when
it is written again. -/
theorem Server.isDelimited_of_ofText {token : String} {server : Server}
    (h : ofText token = .ok server) (hb : token.toList.head? ≠ some '[') :
    server.host.toList ≠ [] ∧ IsDelimited server.host.toList := by
  obtain ⟨hne, written, told, hs, ht, _⟩ := ofToken_eq_ok_iff.mp h
  refine ⟨hne, hs.isDelimited fun hm => ?_⟩
  cases hs with
  | plain _ noOpening => exact noOpening hm.2
  | bracketed => exact hb (by rw [ht]; rfl)

/-- Removing a server adds none. -/
theorem Settings.mem_of_removeServer? {settings next : Settings} {server other : Server}
    (h : settings.removeServer? server = some next) (hm : other ∈ next.servers) :
    other ∈ settings.servers := by
  unfold Settings.removeServer? at h
  split at h
  · cases h
    exact List.mem_of_mem_erase hm
  · cases h

/-- If a server is added, then by its token; and if the token is accepted, it does not begin with a
bracket. -/
def ManagedHappening.addsByBareToken {σ : Type} : ManagedHappening σ → Bool
  | .request (.addServer _) => false
  | .request (.addToken token) =>
    (Server.ofText token).toOption.isNone || token.toList.head? ≠ some '['
  | _ => true

namespace Managed

variable {σ : Type} [Surroundings σ]

/-- A request leaves settings and store alone, or it writes the settings back. -/
theorem operate_books (m : Managed σ) (operation : ManagedOperation) :
    (m.operate operation).2.settings = m.settings ∧ (m.operate operation).2.store = m.store ∨
      (m.operate operation).2.store = (m.operate operation).2.settings.save m.store := by
  cases operation with
  | addToken token =>
    simp only [operate, addToken]
    cases Server.ofText token with
    | error why => exact .inl ⟨rfl, rfl⟩
    | ok server => exact .inr rfl
  | removeServer server =>
    simp only [operate, removeServer]
    cases m.settings.removeServer? server with
    | none => exact .inl ⟨rfl, rfl⟩
    | some settings => exact .inr rfl
  | iterate => exact .inl ⟨rfl, rfl⟩
  | _ => exact .inr rfl

/-- A server in the settings has been there before, or it is the one that was just added. -/
theorem mem_servers_operate {m : Managed σ} {operation : ManagedOperation} {server : Server}
    (h : server ∈ (m.operate operation).2.settings.servers) :
    server ∈ m.settings.servers ∨ operation = .addServer server ∨
      ∃ token, operation = .addToken token ∧ Server.ofText token = .ok server := by
  cases operation with
  | addServer added =>
    rcases List.mem_append.mp h with h | h
    · exact .inl h
    · rw [List.mem_singleton.mp h]
      exact .inr (.inl rfl)
  | addToken token =>
    simp only [operate, addToken] at h
    cases hr : Server.ofText token with
    | error why =>
      rw [hr] at h
      exact .inl h
    | ok added =>
      rw [hr] at h
      rcases List.mem_append.mp h with h | h
      · exact .inl h
      · rw [List.mem_singleton.mp h]
        exact .inr (.inr ⟨token, rfl, hr⟩)
  | removeServer removed =>
    simp only [operate, removeServer] at h
    cases hr : m.settings.removeServer? removed with
    | none =>
      rw [hr] at h
      exact .inl h
    | some settings =>
      rw [hr] at h
      exact .inl (Settings.mem_of_removeServer? hr h)
  | cleanServers => cases h
  | _ => exact .inl h

/-- The store brings back what the text of the servers brings back, and the end of every host is
marked. -/
structure Stored (m : Managed σ) : Prop where
  /-- The store holds the text of the servers. -/
  loaded : Settings.loadServers m.store =
    Server.listOfText (Server.listText m.settings.servers)
  /-- Every host is there, and its end is marked. -/
  delimited : ∀ server ∈ m.settings.servers,
    server.host.toList ≠ [] ∧ Server.IsDelimited server.host.toList

namespace Stored

/-- An empty store holds no servers. -/
theorem load_empty (s : Station σ) : Stored (load s .empty) where
  loaded := (Server.listOfText_listText []).symm
  delimited := fun _ h => nomatch h

theorem request {m : Managed σ} (h : m.Stored) {operation : ManagedOperation}
    (hb : (ManagedHappening.request (σ := σ) operation).addsByBareToken = true) :
    (m.operate operation).2.Stored where
  loaded := by
    rcases m.operate_books operation with ⟨hsettings, hstore⟩ | hstore
    · rw [hsettings, hstore]
      exact h.loaded
    · rw [hstore, Settings.loadServers_save]
      rfl
  delimited := by
    intro server hserver
    rcases mem_servers_operate hserver with hserver | rfl | ⟨token, rfl, hread⟩
    · exact h.delimited server hserver
    · cases hb
    · refine Server.isDelimited_of_ofText hread ?_
      simpa [ManagedHappening.addsByBareToken, hread, Except.toOption] using hb

theorem meet {m : Managed σ} (h : m.Stored) {happening : ManagedHappening σ}
    (hb : happening.addsByBareToken = true) : (m.meet happening).Stored := by
  cases happening with
  | request operation => exact h.request hb
  | meanwhile happening => exact ⟨h.loaded, h.delimited⟩

theorem after {m : Managed σ} (h : m.Stored) {run : List (ManagedHappening σ)}
    (hb : ∀ happening ∈ run, happening.addsByBareToken = true) : (m.after run).Stored := by
  induction run generalizing m with
  | nil => exact h
  | cons happening run ih =>
    exact ih (h.meet (hb happening List.mem_cons_self)) fun other ho =>
      hb other (List.mem_cons_of_mem _ ho)

omit [Surroundings σ] in
/-- The store brings the servers back exactly if no host has white space in it. -/
theorem loaded_eq_iff {m : Managed σ} (h : m.Stored) :
    (Settings.load m.store).servers = m.settings.servers ↔
      ∀ server ∈ m.settings.servers, Text.IsUnbroken server.host.toList := by
  have hload : (Settings.load m.store).servers =
      Server.listOfToken (Server.listToken m.settings.servers) :=
    h.loaded.trans (Server.listOfText_listText _)
  rw [hload, Server.listOfToken_listToken_eq_self_iff]
  refine forall₂_congr fun server hserver => ⟨fun hl => hl.unbroken, fun hunbroken => ?_⟩
  obtain ⟨hne, hdelimited⟩ := h.delimited server hserver
  exact ⟨hne, hunbroken, hdelimited⟩

end Stored

/-- Begun with an empty store, and with servers added by tokens that do not begin with a bracket,
a managed tunnel finds its servers after a restart exactly if no host has white space in it. -/
theorem restart_finds_servers_iff (s : Station σ) (run : List (ManagedHappening σ))
    (hb : ∀ happening ∈ run, happening.addsByBareToken = true) :
    let m := (load s .empty).after run
    (Settings.load m.store).servers = m.settings.servers ↔
      ∀ server ∈ m.settings.servers, Text.IsUnbroken server.host.toList :=
  ((Stored.load_empty s).after hb).loaded_eq_iff

/-- A managed tunnel that begins with an empty store and carries these requests out. -/
def begun (requests : List ManagedOperation) : Managed Rehearsal.Stage :=
  (load (Station.fresh {} {} ⟨⟨5060, 5060, 5061, 0⟩, .stun⟩) .empty).after (requests.map .request)

/-- Servers come and go by their tokens, some of which are refused, while mode and proxy change. -/
def moving : List ManagedOperation :=
  [.addToken "a.example:+443", .addToken "[::1]", .setMode .always, .addToken "b:1:2:3",
    .setProxy { host := "proxy.example" }, .cleanServers, .addToken "c]:007", .addToken "c]:7",
    .addToken "d e:x", .setProxyAuth (some "") none, .removeServer ⟨"c]", 7, none⟩,
    .addToken "f:80:9:250", .iterate]

/-- Two servers are left in the end, and a restart finds them. -/
theorem restart_finds_moved_servers :
    (begun moving).settings.servers = [⟨"c]", 7, none⟩, ⟨"f", 80, some ⟨9, 250⟩⟩] ∧
      (Settings.load (begun moving).store).servers = (begun moving).settings.servers :=
  ⟨by decide, (restart_finds_servers_iff _ (moving.map .request) (by decide)).mpr (by decide)⟩

/-- White space in a host makes another server of it. -/
theorem blank_in_host_changes_server :
    (begun [.addToken "a b:1"]).settings.servers = [⟨"a b", 1, none⟩] ∧
      (Settings.load (begun [.addToken "a b:1"]).store).servers = [⟨"b", 1, none⟩] := by
  decide

end Managed

end SipOverRelay
