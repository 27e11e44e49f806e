import SipOverRelay.Proofs.Course
import SipOverRelay.Proofs.Managing
import SipOverRelay.Rehearsal.Stage

/-!
# Modes that pin the link

The modes that leave nothing to detection end the run in progress and turn the tunnel on or off.
From then on no candidate is current, so every result is stale, and while the tunnel is off every
relay's report comes to nothing. So neither what was posted before nor what is posted afterwards,
forged or not, turns the tunnel on or off before the mode is set again; and while it is off nothing
is done to the engines, no relay is brought up and no probe is started.
-/

namespace SipOverRelay

/-- A call that touches neither engines nor probes and brings up or ends no relay: a relay is told
what the tunnel is told, or a datagram passes over a stream. -/
def Call.isPassive : Call → Bool
  | .addServer _ _ | .removeServers _ | .setProxy _ _ | .setProxyAuth _ _ _ | .send _ _ _
  | .receive _ _ => true
  | _ => false

/-- Traffic touches nothing but streams. -/
theorem Call.isPassive_of_traffic {call : Call} (h : call.aspect = .traffic) :
    call.isPassive = true := by
  cases call <;> first | rfl | cases h

/-- What a held relay is told when the tunnel is told something. -/
def Operation.news? : Operation → Option (RelayId → Call)
  | .addServer server => some (.addServer · server)
  | .addServerWithReflector server reflector =>
    some (.addServer · { server with reflector := some reflector })
  | .clearServers => some .removeServers
  | .setProxy proxy => some (.setProxy · proxy)
  | .setProxyAuth username password => some (.setProxyAuth · username password)
  | _ => none

/-- Telling a relay something is passive. -/
theorem Operation.isPassive_of_news {operation : Operation} {c : RelayId → Call}
    (h : operation.news? = some c) (relay : RelayId) : (c relay).isPassive = true := by
  cases operation <;> cases h <;> rfl

/-- The mode is set. -/
def ManagedHappening.setsMode {σ : Type} : ManagedHappening σ → Bool
  | .request (.setMode _) => true
  | _ => false

namespace Station

variable {σ : Type}

/-- The link is pinned on or off: no detection run is in progress that could change it, and if it is
off all calls since some state of the world were passive. -/
structure Pinned (on : Bool) (since : World σ) (s : Station σ) : Prop where
  /-- The link is as wanted. -/
  link : s.tunnel.link.isOn = on
  /-- No candidate is on trial. -/
  idle : s.tunnel.detection.current = none
  /-- While the link is off only passive calls are made. -/
  passive : on = false → ∃ later : List Call,
    s.world.calls = later ++ since.calls ∧ ∀ call ∈ later, call.isPassive = true

namespace Pinned

variable {on : Bool} {since : World σ} {s t : Station σ}

/-- The link stays pinned if link and detection stay as they are and passive calls are made. -/
theorem step (h : Pinned on since s) (hlink : t.tunnel.link.isOn = s.tunnel.link.isOn)
    (hidle : t.tunnel.detection.current = none)
    (hcalls : on = false → ∃ more : List Call,
      t.world.calls = more ++ s.world.calls ∧ ∀ call ∈ more, call.isPassive = true) :
    Pinned on since t where
  link := hlink.trans h.link
  idle := hidle
  passive hoff := by
    obtain ⟨later, hl, hlater⟩ := h.passive hoff
    obtain ⟨more, hm, hmore⟩ := hcalls hoff
    refine ⟨more ++ later, by rw [hm, hl, List.append_assoc], fun call hc => ?_⟩
    rcases List.mem_append.mp hc with hc | hc
    · exact hmore call hc
    · exact hlater call hc

/-- What only writes notices, posts or receives mail, or changes the surroundings, keeps the link
pinned. -/
theorem congr (h : Pinned on since s) (ht : t.tunnel = s.tunnel)
    (hc : t.world.calls = s.world.calls) : Pinned on since t := by
  refine h.step (by rw [ht]) (by rw [ht]; exact h.idle) fun _ => ⟨[], hc, ?_⟩
  exact fun _ hm => absurd hm List.not_mem_nil

/-- While the link is pinned off it is off. -/
theorem link_off (h : Pinned false since s) : s.tunnel.link = .off := by
  have hlink := h.link
  cases hl : s.tunnel.link with
  | off => rfl
  | on restore phase =>
    rw [hl] at hlink
    cases hlink

end Pinned

variable [Surroundings σ]

theorem calls_callRelay (s : Station σ) (c : RelayId → Call) :
    (s.callRelay c).world.calls = (s.tunnel.relay.map c).toList ++ s.world.calls := by
  unfold callRelay
  cases s.tunnel.relay with
  | none => rfl
  | some relay => exact s.world.calls_perform _

/-- Being told something does not turn the tunnel on or off, and it begins no detection run. If none
is in progress the held relay is told, and nobody else. -/
theorem operate_of_news (s : Station σ) {operation : Operation} {c : RelayId → Call}
    (h : operation.news? = some c) (idle : s.tunnel.detection.current = none) :
    (s.operate operation).tunnel.link = s.tunnel.link ∧
      (s.operate operation).tunnel.detection.current = none ∧
      (s.operate operation).world.calls = (s.tunnel.relay.map c).toList ++ s.world.calls := by
  have hadd (server : Server) : (s.addServer server).world.calls =
      (s.tunnel.relay.map (.addServer · server)).toList ++ s.world.calls := by
    unfold addServer
    dsimp only
    rw [world_modify, calls_callRelay]
    split <;> rfl
  cases operation with
  | addServer server =>
    cases h
    rw [operate, tunnel_addServer]
    exact ⟨rfl, idle, hadd server⟩
  | addServerWithReflector server reflector =>
    cases h
    rw [operate, addServerWithReflector, tunnel_addServer]
    exact ⟨rfl, idle, hadd _⟩
  | clearServers =>
    cases h
    rw [operate, tunnel_clearServers]
    refine ⟨rfl, rfl, ?_⟩
    rw [clearServers, calls_callRelay, tunnel_abandon]
    simp [abandon, idle]
  | setProxy proxy =>
    cases h
    rw [operate, tunnel_setProxy]
    exact ⟨rfl, idle, calls_callRelay _ _⟩
  | setProxyAuth username password =>
    cases h
    rw [operate, tunnel_setProxyAuth]
    exact ⟨rfl, idle, calls_callRelay _ _⟩
  | _ => cases h

/-- While the link is off a relay's report comes to nothing but a notice. -/
theorem onConnectivity_of_off (s : Station σ) (h : s.tunnel.link = .off) (connected : Bool)
    (generation : Nat) :
    ∃ notice, s.onConnectivity connected generation = s.note notice := by
  rcases s.onConnectivity_cases connected generation with
    ⟨_, he⟩ | ⟨_, _, _, ⟨_, he⟩ | ⟨_, _, hl, _⟩⟩
  · exact ⟨_, he⟩
  · exact ⟨_, he⟩
  · rw [h] at hl
    cases hl

/-- While no candidate is on trial a result comes to nothing but a notice. -/
theorem onProbed_of_idle (s : Station σ) (h : s.tunnel.detection.current = none)
    (reachable : Bool) (run index : Nat) :
    s.onProbed reachable run index = s.note (.staleProbe run index) := by
  -- Run and index may well be the latest ones: what makes the result stale is that no probe is out.
  have hstale : s.tunnel.detection.isCurrent run index = false := by
    simp [Detection.isCurrent, h]
  rcases s.onProbed_cases reachable run index with ⟨_, he⟩ | ⟨hc, _⟩
  · exact he
  · rw [hstale] at hc
    cases hc

namespace Pinned

variable {on : Bool} {since : World σ} {s : Station σ}

/-- Detection is ended and the tunnel turned on or off: so it stays. -/
theorem of_mode (s : Station σ) (on : Bool) :
    Pinned on (s.stopAutoDetect.enable on).world (s.stopAutoDetect.enable on) where
  link := s.stopAutoDetect.isOn_enable on
  idle := by
    obtain ⟨t, _, ht⟩ := s.stopAutoDetect_cases
    rw [(s.stopAutoDetect.rest_enable on).2, ht, tunnel_abandon]
  passive _ := ⟨[], rfl, fun _ hm => absurd hm List.not_mem_nil⟩

/-- Nothing that the tunnel is told makes a difference. -/
theorem news (h : Pinned on since s) {operation : Operation} {c : RelayId → Call}
    (hn : operation.news? = some c) : Pinned on since (s.operate operation) := by
  obtain ⟨hlink, hidle, hcalls⟩ := s.operate_of_news hn h.idle
  refine h.step (by rw [hlink]) hidle fun _ => ⟨_, hcalls, fun call hm => ?_⟩
  obtain ⟨relay, _, rfl⟩ := Option.map_eq_some_iff.mp (Option.mem_toList.mp hm)
  exact Operation.isPassive_of_news hn relay

/-- No relay's report turns the tunnel on or off. -/
theorem onConnectivity (h : Pinned on since s) (connected : Bool) (generation : Nat) :
    Pinned on since (s.onConnectivity connected generation) := by
  obtain ⟨hlink, _, hdetection⟩ := s.rest_onConnectivity connected generation
  refine h.step hlink (by rw [hdetection]; exact h.idle) fun hoff => ?_
  subst hoff
  obtain ⟨notice, he⟩ := s.onConnectivity_of_off h.link_off connected generation
  rw [he]
  exact ⟨[], rfl, fun _ hm => absurd hm List.not_mem_nil⟩

/-- No event makes a difference, whoever posted it and whatever its tag. -/
theorem handle (h : Pinned on since s) (posted : Posted) : Pinned on since (s.handle posted) := by
  have hn : Pinned on since (s.note (.handling posted)) := h.congr rfl rfl
  unfold Station.handle
  cases posted.event with
  | connectivity connected generation => exact hn.onConnectivity connected generation
  | probed reachable run index =>
    dsimp only
    rw [onProbed_of_idle _ hn.idle]
    exact hn.congr rfl rfl

/-- A tick makes no difference. -/
theorem iterate (h : Pinned on since s) : Pinned on since s.iterate := by
  have hbatch (batch : List Posted) (t : Station σ) (ht : Pinned on since t) :
      Pinned on since (batch.foldl Station.handle t) := by
    induction batch generalizing t with
    | nil => exact ht
    | cons posted batch ih => exact ih _ (ht.handle posted)
  exact hbatch _ _ (h.congr rfl rfl)

/-- Whatever happens that is no request makes no difference. -/
theorem aside (h : Pinned on since s) {happening : Happening σ}
    (ha : ∀ operation, happening ≠ .operate operation) : Pinned on since (s.meet happening) := by
  -- The engine may go on using the hook while the tunnel is off; that is passive, too.
  have htraffic {v : World σ} (hu : s.world.Unfolds [.traffic] v) :
      Pinned on since (s.within v) := by
    obtain ⟨more, hcalls, hmore⟩ := hu.calls_append
    refine h.step rfl h.idle fun _ => ⟨more, hcalls, fun call hm => ?_⟩
    exact Call.isPassive_of_traffic (List.mem_singleton.mp (hmore call hm))
  cases happening with
  | operate operation => exact absurd rfl (ha operation)
  | post event => exact h.congr rfl rfl
  | report report => exact h.congr rfl (s.world.calls_deliver report)
  | stir change => exact h.congr rfl rfl
  | send data dest => exact htraffic (Hook.unfolds_send _ _ _ _)
  | receive size => exact htraffic (Hook.unfolds_receive _ _ _)

end Pinned

end Station

namespace Managed

variable {σ : Type}

/-- A request that does not set the mode comes down to ticks and to telling the tunnel something. -/
theorem orders_of_not_setMode (m : Managed σ) {operation : ManagedOperation}
    (h : ∀ mode, operation ≠ .setMode mode) {order : Operation} (ho : order ∈ m.orders operation) :
    order = .iterate ∨ ∃ c, order.news? = some c := by
  cases operation with
  | addToken token =>
    obtain ⟨server, _, rfl⟩ := List.mem_map.mp ho
    exact .inr ⟨_, rfl⟩
  | removeServer server =>
    rw [orders] at ho
    cases hr : m.settings.removeServer? server with
    | none =>
      rw [hr] at ho
      cases ho
    | some settings =>
      rw [hr] at ho
      rcases List.mem_cons.mp ho with rfl | ho
      · exact .inr ⟨_, rfl⟩
      · obtain ⟨other, _, rfl⟩ := List.mem_map.mp ho
        exact .inr ⟨_, rfl⟩
  | setMode mode => exact absurd rfl (h mode)
  | iterate => exact .inl (List.mem_singleton.mp ho)
  | addServer server =>
    rw [List.mem_singleton.mp ho]
    exact .inr ⟨_, rfl⟩
  | cleanServers =>
    rw [List.mem_singleton.mp ho]
    exact .inr ⟨_, rfl⟩
  | setProxy proxy =>
    rw [List.mem_singleton.mp ho]
    exact .inr ⟨_, rfl⟩
  | setProxyAuth username password =>
    rw [List.mem_singleton.mp ho]
    exact .inr ⟨_, rfl⟩

variable [Surroundings σ]

/-- Until the mode is set again the link stays pinned. -/
theorem pinned_after {on : Bool} {since : World σ} {m : Managed σ}
    (h : m.station.Pinned on since) {run : List (ManagedHappening σ)}
    (hrun : ∀ happening ∈ run, happening.setsMode = false ∧ happening.bypasses = false) :
    (m.after run).station.Pinned on since := by
  induction run generalizing m with
  | nil => exact h
  | cons happening run ih =>
    obtain ⟨hmode, hbypass⟩ := hrun happening List.mem_cons_self
    have hnext : (m.meet happening).station.Pinned on since := by
      cases happening with
      | request operation =>
        have hset (mode : Mode) : operation ≠ .setMode mode := by
          rintro rfl
          cases hmode
        refine operate_induction (fun _ _ ht => ht.congr rfl rfl) (fun t order ho ht => ?_) h
        rcases m.orders_of_not_setMode hset ho with rfl | ⟨c, hc⟩
        · exact ht.iterate
        · exact ht.news hc
      | meanwhile happening =>
        refine h.aside fun operation => ?_
        rintro rfl
        cases hbypass
    exact ih hnext fun other ho => hrun other (List.mem_cons_of_mem _ ho)

/-- What a mode that leaves nothing to detection makes of the link. -/
theorem pinned_of_orders {mode : Mode} {on : Bool}
    (h : mode.orders = [.stopAutoDetect, .enable on]) (s : Station σ) :
    (mode.orders.foldl Station.operate s).Pinned on
      (mode.orders.foldl Station.operate s).world := by
  rw [h]
  exact .of_mode s on

/-- After the mode was set, and after a tunnel was taken over with a mode from the store, the link
is pinned, whatever the tunnel was doing. -/
theorem pinned_of_start {mode : Mode} {on : Bool}
    (h : mode.orders = [.stopAutoDetect, .enable on]) {m : Managed σ}
    (hm : (∃ before : Managed σ, m = before.setMode mode) ∨
      ∃ s store, (Settings.load store).mode = mode ∧ m = load s store) :
    m.station.Pinned on m.station.world := by
  rcases hm with ⟨before, rfl⟩ | ⟨s, store, hmode, rfl⟩
  · rw [setMode, station_applyMode]
    exact pinned_of_orders h _
  · obtain ⟨_, t, _, _, he⟩ := station_load s store
    rw [he, hmode]
    exact pinned_of_orders h t

/-- However the managed tunnel got its mode, by a request or from the store, and whatever state the
tunnel was in: until the mode is set again the modes that leave nothing to detection pin the link,
whatever else is requested and whichever events are posted. While the link is off nothing but
passive calls are made. -/
theorem mode_pins_link {mode : Mode} {start : Managed σ}
    (hstart : (∃ before : Managed σ, start = before.setMode mode) ∨
      ∃ s store, (Settings.load store).mode = mode ∧ start = load s store)
    {run : List (ManagedHappening σ)}
    (hrun : ∀ happening ∈ run, happening.setsMode = false ∧ happening.bypasses = false) :
    let s := (start.after run).station
    (mode = .never →
      s.tunnel.link = .off ∧ s.tunnel.detection.inProgress = false ∧
        ∃ later : List Call, s.world.calls = later ++ start.station.world.calls ∧
          ∀ call ∈ later, call.isPassive = true) ∧
    (mode = .always →
      s.tunnel.link.isOn = true ∧ s.tunnel.detection.inProgress = false) := by
  intro s
  have hidle {on : Bool} (h : s.Pinned on start.station.world) :
      s.tunnel.detection.inProgress = false := by
    rw [Detection.inProgress, h.idle]
    rfl
  constructor
  · rintro rfl
    have hs : s.Pinned false start.station.world := pinned_after (pinned_of_start rfl hstart) hrun
    exact ⟨hs.link_off, hidle hs, hs.passive rfl⟩
  · rintro rfl
    have hs : s.Pinned true start.station.world := pinned_after (pinned_of_start rfl hstart) hrun
    exact ⟨hs.link, hidle hs⟩

/-- The first candidate was out of reach, so the tunnel is on and its relay has connected; the
second candidate is on trial, and its result waits together with the relay's report. -/
def searching : Managed Rehearsal.Stage :=
  (load (Station.fresh {} { connectsOnStart := true } ⟨⟨5060, 5060, 5061, 0⟩, .stun⟩) .empty).after
    [.request (.addServer ⟨"first", 443, some ⟨5000, 250⟩⟩),
      .request (.addServer ⟨"second", 443, some ⟨5000, 250⟩⟩), .request (.setMode .auto),
      .meanwhile (.report (.probe 0 false)), .request .iterate,
      .meanwhile (.report (.probe 1 false))]

/-- What waits is handled, and more is posted under the numbers that would have counted. -/
def lateNews : List (ManagedHappening Rehearsal.Stage) :=
  [.request .iterate, .meanwhile (.post (.probed false 1 1)),
    .meanwhile (.post (.connectivity true 1)), .meanwhile (.report (.relay 0 true)),
    .request (.addToken "third:443:5000:250"), .request .iterate,
    .request (.removeServer ⟨"first", 443, some ⟨5000, 250⟩⟩),
    .request (.setProxy { host := "proxy", port := 3128 }), .request .iterate]

/-- In the midst of the search the mode is set to never, and the late news change nothing. -/
theorem late_news_leave_tunnel_off :
    searching.station.tunnel.link.isOn = true ∧
      searching.station.tunnel.detection.inProgress = true ∧
      searching.station.world.mailbox.waiting =
        [⟨1, .connectivity true 1⟩, ⟨2, .probed false 1 1⟩] ∧
      ((searching.setMode .never).after lateNews).station.tunnel.link = .off ∧
      ((searching.setMode .never).after lateNews).station.tunnel.detection.inProgress = false := by
  have hrun : ∀ happening ∈ lateNews, happening.setsMode = false ∧ happening.bypasses = false := by
    decide
  obtain ⟨hoff, hidle, _⟩ := (mode_pins_link (.inl ⟨searching, rfl⟩) hrun).1 rfl
  exact ⟨by decide, by decide, by decide, hoff, hidle⟩

end Managed

end SipOverRelay
