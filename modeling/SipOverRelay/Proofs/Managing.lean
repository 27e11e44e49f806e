import SipOverRelay.Managed.Run
import SipOverRelay.Proofs.Conduct

/-!
# What a managed tunnel asks of its tunnel

A managed tunnel does nothing to the tunnel but make requests and write notices. Which requests it
makes follows from its settings and the request made to it, so whatever is known about requests to a
tunnel carries over. Servers and proxy of a tunnel change only when it is told so: neither the mode
nor any event touches them.
-/

namespace SipOverRelay

/-- What a mode asks of the tunnel. -/
def Mode.orders : Mode → List Operation
  | .never => [.stopAutoDetect, .enable false]
  | .always => [.stopAutoDetect, .enable true]
  | .auto => [.autoDetect]

/-- Somebody other than the managed tunnel makes a request to the tunnel. -/
def ManagedHappening.bypasses {σ : Type} : ManagedHappening σ → Bool
  | .meanwhile (.operate _) => true
  | _ => false

namespace Managed

variable {σ : Type}

/-- What a request asks of the tunnel. -/
def orders (m : Managed σ) : ManagedOperation → List Operation
  | .addServer server => [.addServer server]
  | .addToken token => (Server.ofText token).toOption.toList.map .addServer
  | .removeServer server =>
    (m.settings.removeServer? server).elim [] fun settings =>
      .clearServers :: settings.servers.map .addServer
  | .cleanServers => [.clearServers]
  | .setMode mode => mode.orders
  | .setProxy proxy => [.setProxy proxy]
  | .setProxyAuth username password => [.setProxyAuth username password]
  | .iterate => [.iterate]

/-- What settings that were loaded ask of the tunnel before the mode does. -/
def introductions (settings : Settings) : List Operation :=
  settings.servers.map .addServer ++
    if settings.proxy.isConfigured then [.setProxy settings.proxy] else []

variable [Surroundings σ]

/-- The mode is applied by what it asks. -/
theorem station_applyMode (m : Managed σ) :
    m.applyMode.station = m.settings.mode.orders.foldl Station.operate m.station := by
  unfold applyMode onStation
  cases m.settings.mode <;> rfl

/-- A request is carried out by what it asks of the tunnel, after a notice perhaps. -/
theorem station_operate (m : Managed σ) (operation : ManagedOperation) :
    ∃ s, (s = m.station ∨ ∃ before after, s = m.station.note (.modeChanged before after)) ∧
      (m.operate operation).2.station = (m.orders operation).foldl Station.operate s := by
  cases operation with
  | addToken token =>
    refine ⟨m.station, .inl rfl, ?_⟩
    simp only [operate, addToken, orders]
    cases Server.ofText token with
    | error why => rfl
    | ok server => rfl
  | removeServer server =>
    refine ⟨m.station, .inl rfl, ?_⟩
    simp only [operate, removeServer, orders]
    cases m.settings.removeServer? server with
    | none => rfl
    | some settings =>
      rw [Option.elim_some, List.foldl_cons, List.foldl_map]
      rfl
  | setMode mode =>
    exact ⟨m.station.note (.modeChanged m.settings.mode mode), .inr ⟨_, _, rfl⟩,
      station_applyMode _⟩
  | _ => exact ⟨m.station, .inl rfl, rfl⟩

/-- A tunnel is taken over by introducing it to the settings and applying their mode, with notices
in between. -/
theorem station_load (s : Station σ) (store : Store) :
    ∃ t u : Station σ, t = { s with world := s.world.noteAll (Settings.loadNotices store) } ∧
      u = ((introductions (Settings.load store)).foldl Station.operate t).note
        (.settingsLoaded (Settings.load store).servers.length (Settings.load store).mode) ∧
      (load s store).station = (Settings.load store).mode.orders.foldl Station.operate u := by
  refine ⟨_, _, rfl, rfl, ?_⟩
  rw [load, station_applyMode, introductions, List.foldl_append, List.foldl_map]
  dsimp only
  split <;> rfl

end Managed

/-! ### What requests and notices keep -/

namespace Station

variable {σ : Type}

/-- Several notices keep what one keeps. -/
theorem noteAll_induction {I : Station σ → Prop} (hnote : ∀ t notice, I t → I (t.note notice))
    {s : Station σ} (h : I s) (notices : List Notice) :
    I { s with world := s.world.noteAll notices } := by
  induction notices generalizing s with
  | nil => exact h
  | cons notice notices ih => exact ih (hnote s notice h)

/-- Several requests keep what each of them keeps. -/
theorem foldl_operate_induction [Surroundings σ] {I : Station σ → Prop} {orders : List Operation}
    (horder : ∀ t order, order ∈ orders → I t → I (t.operate order)) {s : Station σ} (h : I s) :
    I (orders.foldl Station.operate s) := by
  induction orders generalizing s with
  | nil => exact h
  | cons order orders ih =>
    have hrest (t : Station σ) (other : Operation) (ho : other ∈ orders) :
        I t → I (t.operate other) := horder t other (List.mem_cons_of_mem _ ho)
    exact ih hrest (horder s order List.mem_cons_self h)

end Station

/-- What the tunnel was told: its servers and its proxy. -/
def Tunnel.known (t : Tunnel) : List Server × Proxy := (t.servers, t.proxy)

namespace Station

variable {σ : Type} [Surroundings σ]

theorem known_startRelay (s : Station σ) : s.startRelay.tunnel.known = s.tunnel.known := by
  rcases s.startRelay_cases with ⟨_, _, _, ht, _⟩ | ⟨_, ht, _⟩ | ⟨_, _, ht, _⟩
  · rw [ht]
    rfl
  · rw [ht]
  · rw [ht]
    rfl

/-- Turning the tunnel on or off touches neither servers nor proxy. -/
theorem known_enable (s : Station σ) (on : Bool) : (s.enable on).tunnel.known = s.tunnel.known := by
  rcases s.enable_cases on with ⟨_, _, he⟩ | ⟨settings, _, _, _, he⟩ | ⟨_, he⟩
  · obtain ⟨t, ht, htunnel, _⟩ := s.turnOn_eq_startRelay
    rw [he, ht, known_startRelay, htunnel]
    rfl
  · obtain ⟨_, ht⟩ := s.tunnel_turnOff settings
    rw [he, ht]
    rfl
  · rw [he]
    rfl

theorem known_abandon (s : Station σ) : s.abandon.tunnel.known = s.tunnel.known := by
  rw [tunnel_abandon]
  rfl

theorem known_startProbe (s : Station σ) (index : Nat) :
    (s.startProbe index).2.tunnel.known = s.tunnel.known := by
  obtain ⟨_, ht⟩ := s.tunnel_startProbe index
  rw [ht]
  rfl

/-- What a mode asks touches neither servers nor proxy. -/
theorem known_mode (mode : Mode) (s : Station σ) :
    (mode.orders.foldl operate s).tunnel.known = s.tunnel.known := by
  have hstop : s.stopAutoDetect.tunnel.known = s.tunnel.known := by
    obtain ⟨t, rfl | rfl, he⟩ := s.stopAutoDetect_cases
    · rw [he, known_abandon]
    · rw [he, known_abandon]
      rfl
  have hauto : s.autoDetect.tunnel.known = s.tunnel.known := by
    rcases s.autoDetect_cases with ⟨_, he⟩ | ⟨_, t, rfl | rfl, he⟩
    · rw [he]
      rfl
    · rw [he, known_startProbe, tunnel_renumbered]
      rfl
    · rw [he, known_startProbe, tunnel_renumbered]
      rfl
  cases mode with
  | never => exact (known_enable _ false).trans hstop
  | always => exact (known_enable _ true).trans hstop
  | auto => exact hauto

/-- A relay's report touches neither servers nor proxy. -/
theorem known_onConnectivity (s : Station σ) (connected : Bool) (generation : Nat) :
    (s.onConnectivity connected generation).tunnel.known = s.tunnel.known := by
  rcases s.onConnectivity_cases connected generation with
    ⟨_, he⟩ | ⟨_, _, _, ⟨_, he⟩ | ⟨_, _, _, ⟨_, _, he⟩ | ⟨_, he⟩ | ⟨_, he⟩⟩⟩
  · rw [he]
    rfl
  · rw [he]
    rfl
  · rw [he]
  · rw [he]
    rfl
  · rw [he, tunnel_goDisconnected]
    rfl

/-- A probe's result touches neither servers nor proxy. -/
theorem known_onProbed (s : Station σ) (reachable : Bool) (run index : Nat) :
    (s.onProbed reachable run index).tunnel.known = s.tunnel.known :=
  onProbed_induction (I := fun t => t.tunnel.known = s.tunnel.known)
    (fun _ _ _ ht => ht) (fun t ht => t.known_abandon.trans ht)
    (fun t on ht => (t.known_enable on).trans ht) (fun _ => s.known_startProbe _) rfl reachable

/-- No event touches servers or proxy. -/
theorem known_handle (s : Station σ) (posted : Posted) :
    (s.handle posted).tunnel.known = s.tunnel.known := by
  unfold handle
  cases posted.event with
  | connectivity connected generation => exact known_onConnectivity _ connected generation
  | probed reachable run index => exact known_onProbed _ reachable run index

/-- No tick touches servers or proxy. -/
theorem known_iterate (s : Station σ) : s.iterate.tunnel.known = s.tunnel.known := by
  have hbatch (batch : List Posted) (t : Station σ) :
      (batch.foldl handle t).tunnel.known = t.tunnel.known := by
    induction batch generalizing t with
    | nil => rfl
    | cons posted batch ih => exact (ih (t.handle posted)).trans (t.known_handle posted)
  exact hbatch _ s.emptied

/-- Added servers come after those that were there. -/
theorem tunnel_foldl_addServer (s : Station σ) (servers : List Server) :
    (servers.foldl addServer s).tunnel =
      { s.tunnel with servers := s.tunnel.servers ++ servers } := by
  induction servers generalizing s with
  | nil => rw [List.foldl_nil, List.append_nil]
  | cons server servers ih =>
    rw [List.foldl_cons, ih, tunnel_addServer, List.append_assoc]
    rfl

end Station

namespace Managed

variable {σ : Type} [Surroundings σ] {I : Station σ → Prop}

/-- A request to a managed tunnel keeps what notices keep and what the requests that it comes down
to keep. -/
theorem operate_induction (hnote : ∀ t notice, I t → I (t.note notice)) {m : Managed σ}
    {operation : ManagedOperation}
    (horder : ∀ t order, order ∈ m.orders operation → I t → I (t.operate order))
    (h : I m.station) : I (m.operate operation).2.station := by
  obtain ⟨s, hs, he⟩ := m.station_operate operation
  have hbefore : I s := by
    rcases hs with rfl | ⟨_, _, rfl⟩
    · exact h
    · exact hnote _ _ h
  rw [he]
  exact Station.foldl_operate_induction horder hbefore

/-- A tunnel that is taken over asks for no tick before it is used. -/
theorem iterate_not_mem_introductions (settings : Settings) :
    .iterate ∉ introductions settings := by
  intro h
  rcases List.mem_append.mp h with h | h
  · obtain ⟨_, _, he⟩ := List.mem_map.mp h
    cases he
  · split at h
    · cases List.mem_singleton.mp h
    · cases h

/-- No mode asks for a tick. -/
theorem iterate_not_mem_orders (mode : Mode) : .iterate ∉ mode.orders := by
  cases mode <;> decide

/-- Taking a tunnel over keeps what notices keep and what requests that are no ticks keep. -/
theorem load_induction (hnote : ∀ t notice, I t → I (t.note notice))
    (horder : ∀ t order, order ≠ .iterate → I t → I (t.operate order)) {s : Station σ} (h : I s)
    (store : Store) : I (load s store).station := by
  obtain ⟨t, u, ht, hu, he⟩ := station_load s store
  have hintroduced : I t := by
    rw [ht]
    exact Station.noteAll_induction hnote h _
  have hready : I u := by
    rw [hu]
    refine hnote _ _ (Station.foldl_operate_induction (fun t order hm => ?_) hintroduced)
    exact horder t order fun hi => iterate_not_mem_introductions _ (hi ▸ hm)
  rw [he]
  refine Station.foldl_operate_induction (fun t order hm => ?_) hready
  exact horder t order fun hi => iterate_not_mem_orders _ (hi ▸ hm)

end Managed

end SipOverRelay
