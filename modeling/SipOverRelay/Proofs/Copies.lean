import SipOverRelay.Proofs.Lockstep
import SipOverRelay.Proofs.Managing
import SipOverRelay.Proofs.Restart

/-!
# Four copies in step

The settings of a managed tunnel are kept four times: by the managed tunnel itself, in its store, by
the tunnel, and as far as servers and proxy go by the relay that is held. Every request changes
them one after the other, a removal even by telling tunnel and relay the whole list anew, and relays
come and go in between. The copies agree all the same after every request, whatever happens
meanwhile, also after a restart. A proxy without a host is no proxy, and may be known to the
settings alone.
-/

namespace SipOverRelay

/-- A request to a managed tunnel was carried out. -/
def ManagedAnswer.accepted : ManagedAnswer → Bool
  | .done => true
  | .removed found => found
  | .refused _ => false

namespace Station

variable {σ : Type}

/-- The relay that is held has been told what the tunnel knows, and the ledger is nothing but the
replay of the calls. -/
structure Informed (start : Ledger) (s : Station σ) : Prop where
  /-- A relay is held only while the tunnel is on, and there is no signaling stream without one. -/
  poised : s.Poised
  /-- The ledger knows what the calls tell. -/
  booked : s.world.Booked start
  /-- The held relay has been told what the tunnel knows. -/
  inStep : s.InStep

namespace Informed

variable {start : Ledger} {s t : Station σ}

theorem note (h : s.Informed start) (notice : Notice) : (s.note notice).Informed start where
  poised := ⟨h.poised.on, h.poised.slot⟩
  booked := h.booked.congr rfl rfl
  inStep := h.inStep

variable [Surroundings σ]

theorem step (h : s.Informed start) (hl : s.LeadsTo t) : t.Informed start where
  poised := (h.poised.tends hl).poised h.poised
  booked := hl.booked h.booked
  inStep := (h.poised.tends hl).inStep h.inStep h.booked (hl.booked h.booked)

theorem meet (h : s.Informed start) (happening : Happening σ) : (s.meet happening).Informed start :=
  (of_legs (fun _ _ hs hl => hs.step hl) h [happening]).1

/-- A new tunnel holds no relay that would have to be told anything. -/
theorem build (tuning : Tuning) {w : World σ} (h : w.Booked start) :
    (Station.build tuning w).Informed start where
  poised := ⟨nofun, fun _ => rfl⟩
  booked := h
  inStep := nofun

/-- Dropping the tunnel is booked. -/
theorem booked_drop (h : s.Informed start) : s.drop.Booked start :=
  (h.booked.unfolds s.unfolds_ended).congr rfl rfl

end Informed

end Station

/-- Settings say what the tunnel knows. -/
structure Settings.Agrees (settings : Settings) (t : Tunnel) : Prop where
  /-- The servers are the same. -/
  servers : settings.servers = t.servers
  /-- The proxy is the same if there is one, which then has a host. -/
  proxy : settings.proxy.host ≠ "" → settings.proxy = t.proxy

namespace Settings.Agrees

variable {settings next : Settings} {t u : Tunnel}

/-- Settings and tunnel go on agreeing if nothing about servers and proxy changes. -/
theorem congr (h : settings.Agrees t) (hs : next.servers = settings.servers)
    (hp : next.proxy = settings.proxy) (hk : u.known = t.known) : next.Agrees u := by
  obtain ⟨hservers, hproxy⟩ := Prod.ext_iff.mp hk
  constructor
  · rw [hs, h.servers]
    exact hservers.symm
  · rw [hp]
    intro hhost
    rw [h.proxy hhost]
    exact hproxy.symm

end Settings.Agrees

namespace Managed

variable {σ : Type} [Surroundings σ]

/-- A tunnel without servers agrees with the settings once it has been introduced to them. -/
theorem agrees_introductions (settings : Settings) {s : Station σ} (h : s.tunnel.servers = []) :
    settings.Agrees ((introductions settings).foldl Station.operate s).tunnel := by
  have hadded : ((settings.servers.map .addServer).foldl Station.operate s).tunnel =
      { s.tunnel with servers := settings.servers } := by
    rw [List.foldl_map]
    refine (s.tunnel_foldl_addServer settings.servers).trans ?_
    rw [h, List.nil_append]
  rw [introductions, List.foldl_append]
  cases hc : settings.proxy.isConfigured with
  | true =>
    have hproxy := Station.tunnel_setProxy
      ((settings.servers.map .addServer).foldl Station.operate s) settings.proxy
    rw [hadded] at hproxy
    exact ⟨(congrArg Tunnel.servers hproxy).symm, fun _ => (congrArg Tunnel.proxy hproxy).symm⟩
  | false =>
    have hempty : settings.proxy.host = "" := by simpa [Proxy.isConfigured] using hc
    exact ⟨(congrArg Tunnel.servers hadded).symm, fun hhost => absurd hempty hhost⟩

/-- Settings that were loaded are what a new tunnel has been told. -/
theorem agrees_load (tuning : Tuning) (w : World σ) (store : Store) :
    (load (.build tuning w) store).settings.Agrees
      (load (.build tuning w) store).station.tunnel := by
  obtain ⟨s, t, hs, ht, he⟩ := station_load (.build tuning w) store
  have hknown : (load (.build tuning w) store).station.tunnel.known = t.tunnel.known := by
    rw [he]
    exact Station.known_mode _ t
  have hintroduced : (Settings.load store).Agrees t.tunnel := by
    rw [ht]
    exact agrees_introductions _ (by rw [hs]; rfl)
  exact hintroduced.congr rfl rfl hknown

/-- What a request changes about the settings it tells the tunnel. -/
theorem agrees_operate {m : Managed σ} (h : m.settings.Agrees m.station.tunnel)
    (operation : ManagedOperation) :
    (m.operate operation).2.settings.Agrees (m.operate operation).2.station.tunnel := by
  have hadd (server : Server) :
      (m.addServer server).settings.Agrees (m.addServer server).station.tunnel := by
    have ht : (m.addServer server).station.tunnel =
        { m.station.tunnel with servers := m.station.tunnel.servers ++ [server] } :=
      m.station.tunnel_addServer server
    rw [ht]
    exact ⟨congrArg (· ++ [server]) h.servers, h.proxy⟩
  cases operation with
  | addServer server => exact hadd server
  | addToken token =>
    simp only [operate, addToken]
    cases Server.ofText token with
    | error why => exact h
    | ok server => exact hadd server
  | removeServer server =>
    simp only [operate, removeServer]
    cases hr : m.settings.removeServer? server with
    | none => exact h
    | some settings =>
      have hproxy : settings.proxy = m.settings.proxy := by
        unfold Settings.removeServer? at hr
        split at hr
        · cases hr
          rfl
        · cases hr
      -- The tunnel has forgotten all servers, and is told those that are left.
      have ht := m.station.clearServers.tunnel_foldl_addServer settings.servers
      rw [Station.tunnel_clearServers] at ht
      refine ⟨(congrArg Tunnel.servers ht).symm, fun hhost => ?_⟩
      refine Eq.trans ?_ (congrArg Tunnel.proxy ht).symm
      have hsame : m.settings.proxy.host ≠ "" := hproxy ▸ hhost
      exact hproxy.trans (h.proxy hsame)
  | cleanServers =>
    have ht := m.station.tunnel_clearServers
    refine ⟨(congrArg Tunnel.servers ht).symm, fun hhost => ?_⟩
    exact (h.proxy hhost).trans (congrArg Tunnel.proxy ht).symm
  | setMode mode =>
    refine h.congr rfl rfl ?_
    rw [operate, setMode, station_applyMode]
    exact Station.known_mode _ _
  | setProxy proxy =>
    have ht := m.station.tunnel_setProxy proxy
    exact ⟨h.servers.trans (congrArg Tunnel.servers ht).symm,
      fun _ => (congrArg Tunnel.proxy ht).symm⟩
  | setProxyAuth username password =>
    have ht := m.station.tunnel_setProxyAuth username password
    refine ⟨h.servers.trans (congrArg Tunnel.servers ht).symm, fun hhost => ?_⟩
    refine Eq.trans ?_ (congrArg Tunnel.proxy ht).symm
    exact congrArg (fun proxy : Proxy => { proxy with username, password }) (h.proxy hhost)
  | iterate => exact h.congr rfl rfl m.station.known_iterate

/-- The states of a managed tunnel in use: it is taken over with what some store holds, requests are
made and other things happen meanwhile, and in the end it is dropped, and in whichever surroundings
there are by then the next one is taken over. -/
inductive Served : Managed σ → Prop where
  /-- A tunnel that nobody has used before is taken over. -/
  | opens (tuning : Tuning) (scene : σ) (found : EngineSettings) (store : Store) :
    Served (load (.fresh tuning scene found) store)
  /-- A request is made, or something happens that is no request. -/
  | meets {m : Managed σ} (h : Served m) (happening : ManagedHappening σ)
    (hb : happening.bypasses = false) : Served (m.meet happening)
  /-- The tunnel is dropped and a new one is taken over. -/
  | reopens {m : Managed σ} (h : Served m) (tuning : Tuning) (scene : σ) (store : Store) :
    Served (load (.build tuning { m.station.drop with scene }) store)

/-- Settings, tunnel and relay are in step. -/
structure InStep (m : Managed σ) : Prop where
  /-- The tunnel knows what the settings say. -/
  agrees : m.settings.Agrees m.station.tunnel
  /-- The held relay has been told what the tunnel knows. -/
  informed : ∃ start, m.station.Informed start

namespace InStep

variable {m : Managed σ}

theorem load (tuning : Tuning) {w : World σ} {start : Ledger} (h : w.Booked start)
    (store : Store) : (Managed.load (.build tuning w) store).InStep where
  agrees := agrees_load tuning w store
  informed :=
    ⟨start, load_induction (fun _ notice ht => ht.note notice)
      (fun _ order _ ht => ht.meet (.operate order)) (.build tuning h) store⟩

theorem meet (h : m.InStep) {happening : ManagedHappening σ}
    (hb : happening.bypasses = false) : (m.meet happening).InStep := by
  obtain ⟨start, hinformed⟩ := h.informed
  cases happening with
  | request operation =>
    exact ⟨agrees_operate h.agrees operation, start,
      operate_induction (fun _ notice ht => ht.note notice)
        (fun _ order _ ht => ht.meet (.operate order)) hinformed⟩
  | meanwhile happening =>
    have hsame : (m.station.meet happening).tunnel = m.station.tunnel := by
      cases happening with
      | operate operation => cases hb
      | _ => rfl
    exact ⟨h.agrees.congr rfl rfl (congrArg Tunnel.known hsame), start, hinformed.meet happening⟩

end InStep

namespace Served

variable {m : Managed σ}

theorem inStep (h : m.Served) : m.InStep := by
  induction h with
  | opens tuning scene found store =>
    have hb : ({ scene, ledger := { engine := found } } : World σ).Booked { engine := found } := rfl
    exact .load tuning hb store
  | meets _ happening hb ih => exact ih.meet hb
  | @reopens m _ tuning scene store ih =>
    obtain ⟨start, hinformed⟩ := ih.informed
    have hb : ({ m.station.drop with scene } : World σ).Booked start :=
      hinformed.booked_drop.congr rfl rfl
    exact .load tuning hb store

theorem after (h : m.Served) {run : List (ManagedHappening σ)}
    (hb : ∀ happening ∈ run, happening.bypasses = false) : (m.after run).Served := by
  induction run generalizing m with
  | nil => exact h
  | cons happening run ih =>
    exact ih (h.meets happening (hb happening List.mem_cons_self)) fun other ho =>
      hb other (List.mem_cons_of_mem _ ho)

end Served

/-- A request that is refused changes nothing, and one that is accepted writes all settings back,
unless it is a tick, which has nothing to do with settings. -/
theorem operate_accepted (m : Managed σ) (operation : ManagedOperation) :
    ((m.operate operation).1.accepted = false → (m.operate operation).2 = m) ∧
      ((m.operate operation).1.accepted = true → operation ≠ .iterate →
        (m.operate operation).2.store = (m.operate operation).2.settings.save m.store) := by
  cases operation with
  | addToken token =>
    simp only [operate, addToken]
    cases Server.ofText token with
    | error why => exact ⟨fun _ => rfl, fun h => absurd h Bool.false_ne_true⟩
    | ok server => exact ⟨fun h => absurd h.symm Bool.false_ne_true, fun _ _ => rfl⟩
  | removeServer server =>
    simp only [operate, removeServer]
    cases m.settings.removeServer? server with
    | none => exact ⟨fun _ => rfl, fun h => absurd h Bool.false_ne_true⟩
    | some settings => exact ⟨fun h => absurd h.symm Bool.false_ne_true, fun _ _ => rfl⟩
  | iterate => exact ⟨fun h => absurd h.symm Bool.false_ne_true, fun _ h => absurd rfl h⟩
  | _ => exact ⟨fun h => absurd h.symm Bool.false_ne_true, fun _ _ => rfl⟩

/-- A removal takes out the first server equal to the given one, if there is one, and says so. -/
theorem operate_removeServer (m : Managed σ) (server : Server) :
    (m.operate (.removeServer server)).1 = .removed (server ∈ m.settings.servers) ∧
      (server ∈ m.settings.servers → ∃ before after,
        m.settings.servers = before ++ server :: after ∧ server ∉ before ∧
          (m.operate (.removeServer server)).2.settings.servers = before ++ after) := by
  by_cases hm : server ∈ m.settings.servers
  · obtain ⟨before, after, hbefore, hservers, herase⟩ := List.exists_erase_eq hm
    simp only [operate, removeServer, Settings.removeServer?, if_pos hm]
    exact ⟨by simp [hm], fun _ => ⟨before, after, hservers, hbefore, herase⟩⟩
  · simp only [operate, removeServer, Settings.removeServer?, if_neg hm]
    exact ⟨by simp [hm], fun h => absurd h hm⟩

/-- In every state that a managed tunnel comes to, whatever the stores held that it was taken over
with and whatever happened meanwhile: the servers of the settings are those of the tunnel and those
that the held relay has been told, and the proxy is the tunnel's if there is one. A request that is
accepted leaves under the seven keys what the settings as they are then put into an empty store, and
the rest of the store as it was; one that is refused changes nothing at all. A removal takes out the
first server equal to the given one, and is accepted exactly if there is one; a token that cannot be
read is refused. -/
theorem copies_stay_in_step {m : Managed σ} (h : m.Served) :
    m.settings.servers = m.station.tunnel.servers ∧
      (∀ relay, m.station.tunnel.relay = some relay → ∃ record,
        m.station.world.ledger.relays[relay]? = some record ∧
          record.servers = m.settings.servers) ∧
      (m.settings.proxy.host ≠ "" → m.settings.proxy = m.station.tunnel.proxy) ∧
      (∀ operation,
        let next := (m.operate operation).2
        ((m.operate operation).1.accepted = false → next = m) ∧
          ((m.operate operation).1.accepted = true → operation ≠ .iterate → ∀ place key,
            Storage.get? next.store place key =
              if place = Settings.area ∧ key ∈ Settings.keys then
                Storage.get? (next.settings.save Store.empty) Settings.area key
              else Storage.get? m.store place key)) ∧
      (∀ server,
        (m.operate (.removeServer server)).1 = .removed (server ∈ m.settings.servers) ∧
          (server ∈ m.settings.servers → ∃ before after,
            m.settings.servers = before ++ server :: after ∧ server ∉ before ∧
              (m.operate (.removeServer server)).2.settings.servers = before ++ after)) ∧
      ∀ token why, Server.ofText token = .error why →
        m.operate (.addToken token) = (.refused (.server why), m) := by
  have hm : m.InStep := h.inStep
  obtain ⟨_, hinformed⟩ := hm.informed
  refine ⟨hm.agrees.servers, fun relay held => ?_, hm.agrees.proxy, fun operation => ⟨?_, ?_⟩,
    m.operate_removeServer, fun token why hread => ?_⟩
  · obtain ⟨record, hr, hservers, _⟩ := hinformed.inStep relay held
    exact ⟨record, hr, hservers.trans hm.agrees.servers.symm⟩
  · exact (m.operate_accepted operation).1
  · intro haccepted hop place key
    rw [(m.operate_accepted operation).2 haccepted hop]
    exact Settings.get?_save _ _ _ _
  · simp only [operate, addToken, hread]

/-- A store with a server that is listed twice, one without a host, and a user name for a proxy that
is not there. -/
def untidy : Store :=
  Settings.save
    { servers := [⟨"a", 1, none⟩, ⟨"b", 2, none⟩, ⟨"a", 1, none⟩]
      proxy := { port := 8080, username := some "alice" }
      enabled := true
      mode := .always }
    ((Store.empty.set "sip" "port" (some "5060")).set Settings.area "colour" (some "red"))

/-- What happens to a tunnel that was taken over with that store: one of the two equal servers is
removed, one without a host is added, tokens are refused and accepted, and a proxy comes while there
is a relay already. -/
def tidying : List (ManagedHappening Rehearsal.Stage) :=
  [.request (.removeServer ⟨"a", 1, none⟩), .request (.addServer ⟨"", 443, none⟩),
    .request (.addToken "c"), .request (.addToken "c:3"), .meanwhile (.report (.relay 0 true)),
    .request .iterate, .request (.setProxyAuth (some "bob") none),
    .request (.setProxy { host := "proxy", port := 3128 })]

/-- The tunnel after that. -/
def tidied : Managed Rehearsal.Stage :=
  (load (.fresh {} {} ⟨⟨5060, 5060, 5061, 0⟩, .stun⟩) untidy).after tidying

/-- That tunnel was dropped, and a new one was taken over with its store. -/
def reopened : Managed Rehearsal.Stage :=
  load (.build {} { tidied.station.drop with scene := {} }) tidied.store

/-- Settings, tunnel and the new relay have the same servers and the same proxy, without the server
that has no host, since no store brings it back. -/
theorem reopened_copies_agree :
    reopened.station.tunnel.relay = some 1 ∧
      reopened.settings.servers = [⟨"b", 2, none⟩, ⟨"a", 1, none⟩, ⟨"c", 3, none⟩] ∧
      reopened.station.tunnel.servers = reopened.settings.servers ∧
      reopened.settings.proxy = reopened.station.tunnel.proxy ∧
      ∃ record, reopened.station.world.ledger.relays[1]? = some record ∧
        record.servers = reopened.settings.servers := by
  have held : reopened.station.tunnel.relay = some 1 := by decide
  have htidied : tidied.Served := Served.after (.opens _ _ _ _) (by decide)
  have hreopened : reopened.Served := .reopens htidied _ _ _
  obtain ⟨hservers, hrelay, hproxy, _⟩ := copies_stay_in_step hreopened
  exact ⟨held, by decide, hservers.symm, hproxy (by decide), hrelay 1 held⟩

end Managed

end SipOverRelay
