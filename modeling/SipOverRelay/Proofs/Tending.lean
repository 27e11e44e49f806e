import SipOverRelay.Proofs.Legs

/-!
# How relays are tended

Every leg of a run does one of three things about relays. It may create one, which is told what it
has to know, started and asked for the signaling stream; it may end the held one, after closing the
stream that it opened; or it passes on to the held one what the tunnel itself is told. Which of them
it is follows from what the tunnel holds before.
-/

namespace SipOverRelay

namespace Call

/-- The relay that a call is made to. -/
def relay? : Call → Option RelayId
  | .listen relay _ | .addServer relay _ | .removeServers relay | .setProxy relay _
  | .setProxyAuth relay _ _ | .startRelay relay | .reconnectRelay relay | .destroyRelay relay
  | .openStream relay _ | .missStream relay _ | .closeStream relay _ => some relay
  | _ => none

/-- A call that creates a relay or is made to one. -/
def concernsRelay (call : Call) : Bool := call = .createRelay || call.relay?.isSome

/-- A call that may be made to a relay again and again while it is held. -/
def isEveryday : Call → Bool
  | .addServer _ _ | .removeServers _ | .setProxy _ _ | .setProxyAuth _ _ _
  | .reconnectRelay _ => true
  | _ => false

/-- The servers that one knows who has been told those known before and hears this call. -/
def knownServers (known : List Server) : Call → List Server
  | .addServer _ server => known ++ [server]
  | .removeServers _ => []
  | _ => known

/-- The proxy that one knows who hears this call. Whoever is told how to identify oneself before
knowing a proxy assumes one without a host. -/
def knownProxy (known : Option Proxy) : Call → Option Proxy
  | .setProxy _ proxy => some proxy
  | .setProxyAuth _ username password => some { known.getD {} with username, password }
  | _ => known

/-- Whoever knows a proxy knows one after every call. -/
theorem knownProxy_some (proxy : Proxy) (call : Call) :
    ∃ next, knownProxy (some proxy) call = some next := by
  cases call <;> exact ⟨_, rfl⟩

/-- Calls of other aspects do not concern relays. -/
theorem concernsRelay_of_aspect {call : Call} (hr : call.aspect ≠ .roster)
    (ht : call.aspect ≠ .relay) : call.concernsRelay = false := by
  cases call <;> first | rfl | exact absurd rfl hr | exact absurd rfl ht

/-- What is made to a relay concerns relays. -/
theorem concernsRelay_of_relay {call : Call} {relay : RelayId} (h : call.relay? = some relay) :
    call.concernsRelay = true := by
  rw [concernsRelay, h]
  exact Bool.or_true _

end Call

namespace Ledger

/-- A change of a relay's record that keeps its streams keeps all streams. -/
theorem streamsOf_onRelay (l : Ledger) (relay other : RelayId) {f : RelayRecord → RelayRecord}
    (hf : ∀ r, (f r).streams = r.streams) :
    (l.onRelay relay f).streamsOf other = l.streamsOf other := by
  simp only [streamsOf, onRelay, List.getElem?_modify]
  cases l.relays[other]? with
  | none => rfl
  | some r => by_cases h : relay = other <;> simp [h, hf]

/-- A new relay has opened no stream. -/
theorem streamsOf_createRelay (l : Ledger) :
    (l.apply .createRelay).streamsOf l.relays.length = [] := by
  simp [streamsOf, apply]

end Ledger

namespace World

variable {σ : Type}

/-- The calls that concern relays, oldest first. -/
def relayCalls (w : World σ) : List Call := (w.calls.filter Call.concernsRelay).reverse

/-- The same history has the same calls. -/
theorem relayCalls_congr {w v : World σ} (h : v.history = w.history) :
    v.relayCalls = w.relayCalls := by
  rw [relayCalls, calls, h, relayCalls, calls]

variable [Surroundings σ]

theorem relayCalls_perform (w : World σ) (call : Call) :
    (w.perform call).relayCalls = w.relayCalls ++ [call].filter Call.concernsRelay := by
  rw [relayCalls, calls_perform, ← List.singleton_append, List.filter_append, List.reverse_append,
    relayCalls]
  cases hc : call.concernsRelay <;> simp [hc]

/-- Several calls change no streams if none of them does. -/
theorem streamsOf_performAll (w : World σ) {calls : List Call} {relay : RelayId}
    (h : ∀ call ∈ calls, ∀ l : Ledger, (l.apply call).streamsOf relay = l.streamsOf relay) :
    (w.performAll calls).ledger.streamsOf relay = w.ledger.streamsOf relay := by
  induction calls generalizing w with
  | nil => rfl
  | cons call calls ih =>
    have hn := ih (w.perform call) fun other hm => h other (List.mem_cons_of_mem _ hm)
    rw [ledger_perform, h call List.mem_cons_self] at hn
    exact hn

/-- Calls are added in the order in which they are made. -/
theorem relayCalls_performAll (w : World σ) (calls : List Call) :
    (w.performAll calls).relayCalls = w.relayCalls ++ calls.filter Call.concernsRelay := by
  induction calls generalizing w with
  | nil => simp [performAll]
  | cons call calls ih =>
    have hn := ih (w.perform call)
    rw [relayCalls_perform, List.append_assoc, ← List.filter_append] at hn
    exact hn

/-- What is no matter of relays adds no calls that concern them. -/
theorem Unfolds.relayCalls_eq {w v : World σ} {aspects : List Aspect} (h : w.Unfolds aspects v)
    (hr : .roster ∉ aspects) (ht : .relay ∉ aspects) : v.relayCalls = w.relayCalls := by
  induction h with
  | refl => rfl
  | perform _ call hc ih =>
    have hn : call.concernsRelay = false :=
      Call.concernsRelay_of_aspect (fun he => hr (he ▸ hc)) (fun he => ht (he ▸ hc))
    rw [relayCalls_perform, ih, List.filter_cons_of_neg (by simp [hn]), List.filter_nil,
      List.append_nil]
  | note _ _ _ ih => exact ih
  | answer _ _ _ _ ih => exact ih

end World

/-- The tunnel that knows what a call says. -/
def Tunnel.hear (t : Tunnel) (call : Call) : Tunnel :=
  { t with
    servers := Call.knownServers t.servers call
    proxy := (Call.knownProxy (some t.proxy) call).getD t.proxy }

/-- What matters for relays: all that the tunnel holds and knows but hooks and detection, and of the
link whether it is on. -/
def Tunnel.holdings (t : Tunnel) :
    Option RelayId × Option StreamId × List Server × Proxy × Nat × Tuning × Bool :=
  (t.relay, t.signaling, t.servers, t.proxy, t.generation, t.tuning, t.link.isOn)

theorem Tunnel.holdings_eq_iff {t u : Tunnel} : t.holdings = u.holdings ↔
    t.relay = u.relay ∧ t.signaling = u.signaling ∧ t.servers = u.servers ∧ t.proxy = u.proxy ∧
      t.generation = u.generation ∧ t.tuning = u.tuning ∧ t.link.isOn = u.link.isOn := by
  simp only [holdings, Prod.mk.injEq]

namespace Station

variable {σ : Type}

/-- What is said to a new relay: under which number to report, one more than the number of relays
before, then the servers one by one, and the proxy if it has a host. Then the relay is started and
asked for the signaling stream. -/
def upbringing (t : Tunnel) (relay : RelayId) (opened : Bool) : List Call :=
  .listen relay (t.generation + 1) :: t.servers.map (.addServer relay) ++
    (if t.proxy.host ≠ "" then [.setProxy relay t.proxy] else []) ++
    [.startRelay relay, if opened then .openStream relay t.tuning.signalingPort
      else .missStream relay t.tuning.signalingPort]

/-- What is said to a relay that is ended, while there is this signaling stream. -/
def ending (relay : RelayId) (signaling : Option StreamId) : List Call :=
  (signaling.map (.closeStream relay)).toList ++ [.destroyRelay relay]

/-- The first stream of a relay, if it opened one. -/
def firstStream (relay : RelayId) (opened : Bool) : Option StreamId :=
  if opened then some ⟨relay, 0⟩ else none

/-- A relay that is introduced, started and asked for a stream is brought up. -/
theorem introduction_append (t : Tunnel) (relay : RelayId) (opened : Bool) :
    introduction { t with generation := t.generation + 1 } relay ++
      [.startRelay relay, if opened then .openStream relay t.tuning.signalingPort
        else .missStream relay t.tuning.signalingPort] = upbringing t relay opened := by
  simp only [introduction, upbringing, Proxy.isConfigured, decide_eq_true_eq]

/-- What is said to a new relay follows from what the tunnel holds. -/
theorem upbringing_congr {t u : Tunnel} (h : t.holdings = u.holdings) (relay : RelayId)
    (opened : Bool) : upbringing t relay opened = upbringing u relay opened := by
  obtain ⟨-, -, hservers, hproxy, hgeneration, htuning, -⟩ := Tunnel.holdings_eq_iff.mp h
  simp only [upbringing, hservers, hproxy, hgeneration, htuning]

/-- A relay is held only while the tunnel is on, and there is no signaling stream without one. -/
structure Poised (s : Station σ) : Prop where
  /-- A relay is held only while the tunnel is on. -/
  on : ∀ relay, s.tunnel.relay = some relay → s.tunnel.link.isOn = true
  /-- There is no signaling stream without a relay. -/
  slot : s.tunnel.relay = none → s.tunnel.signaling = none

/-- What one leg does about relays. -/
inductive Tends (s t : Station σ) : Prop where
  /-- Relays neither come nor go. The held one, if any, is told what the tunnel is told, and perhaps
  to connect anew. -/
  | uses (told : List Call) (calls : t.world.relayCalls = s.world.relayCalls ++ told)
    (everyday : ∀ call ∈ told, call.isEveryday = true ∧ call.relay? = s.tunnel.relay)
    (relay : t.tunnel.relay = s.tunnel.relay) (signaling : t.tunnel.signaling = s.tunnel.signaling)
    (on : s.tunnel.relay.isSome = true → t.tunnel.link.isOn = true)
    (servers : s.tunnel.relay.isSome = true →
      t.tunnel.servers = told.foldl Call.knownServers s.tunnel.servers)
    (proxy : s.tunnel.relay.isSome = true →
      some t.tunnel.proxy = told.foldl Call.knownProxy (some s.tunnel.proxy))
  /-- A relay is created and brought up, and held from now on with the stream that it opened, if it
  opened one. -/
  | raises (opened : Bool) (free : s.tunnel.relay = none)
    (calls : t.world.relayCalls = s.world.relayCalls ++
      .createRelay :: upbringing s.tunnel s.world.ledger.relays.length opened)
    (relay : t.tunnel.relay = some s.world.ledger.relays.length)
    (signaling : t.tunnel.signaling = firstStream s.world.ledger.relays.length opened)
    (on : t.tunnel.link.isOn = true) (servers : t.tunnel.servers = s.tunnel.servers)
    (proxy : t.tunnel.proxy = s.tunnel.proxy)
  /-- The tunnel is turned off and the held relay is ended. -/
  | ends (relay : RelayId) (held : s.tunnel.relay = some relay)
    (calls : t.world.relayCalls = s.world.relayCalls ++ ending relay s.tunnel.signaling)
    (gone : t.tunnel.relay = none) (signaling : t.tunnel.signaling = none)
    (on : s.tunnel.link.isOn = true) (off : t.tunnel.link = .off)

variable {s t u : Station σ}

/-- While no relay is held nothing has to be done. -/
theorem Tends.idle (free : s.tunnel.relay = none) (calls : t.world.relayCalls = s.world.relayCalls)
    (relay : t.tunnel.relay = none) (signaling : t.tunnel.signaling = s.tunnel.signaling) :
    s.Tends t := by
  have hnot : ¬ s.tunnel.relay.isSome = true := by simp [free]
  exact .uses [] (calls.trans (List.append_nil _).symm) (fun _ hm => absurd hm List.not_mem_nil)
    (relay.trans free.symm) signaling (fun h => absurd h hnot) (fun h => absurd h hnot)
    fun h => absurd h hnot

/-- What is tended is poised again. -/
theorem Tends.poised (h : s.Tends t) (hp : s.Poised) : t.Poised := by
  cases h with
  | uses told _ _ hr hs hon _ _ =>
    refine ⟨fun relay ht => hon (by rw [← hr, ht]; rfl), fun ht => ?_⟩
    rw [hs]
    exact hp.slot (hr.symm.trans ht)
  | raises opened _ _ hr _ hon _ _ =>
    refine ⟨fun _ _ => hon, fun ht => ?_⟩
    rw [hr] at ht
    cases ht
  | ends relay _ _ hr hs _ _ =>
    refine ⟨fun relay ht => ?_, fun _ => hs⟩
    rw [hr] at ht
    cases ht

/-- Nothing is done about relays. -/
structure Leaves (s t : Station σ) : Prop where
  /-- The tunnel holds the same and knows the same. -/
  holdings : t.tunnel.holdings = s.tunnel.holdings
  /-- No relay hears of it. -/
  calls : t.world.relayCalls = s.world.relayCalls
  /-- No relay is created. -/
  count : t.world.ledger.relays.length = s.world.ledger.relays.length

namespace Leaves

theorem refl (s : Station σ) : s.Leaves s := ⟨rfl, rfl, rfl⟩

theorem trans (h : s.Leaves t) (k : t.Leaves u) : s.Leaves u :=
  ⟨k.holdings.trans h.holdings, k.calls.trans h.calls, k.count.trans h.count⟩

/-- What only writes notices, posts or receives mail, or changes the surroundings, is no matter. -/
theorem of_eq (ht : t.tunnel.holdings = s.tunnel.holdings) (hl : t.world.ledger = s.world.ledger)
    (hh : t.world.history = s.world.history) : s.Leaves t :=
  ⟨ht, World.relayCalls_congr hh, by rw [hl]⟩

theorem note (s : Station σ) (notice : Notice) : s.Leaves (s.note notice) := .of_eq rfl rfl rfl

/-- What is left alone leaves the tunnel as poised as it was. -/
theorem poised (h : s.Leaves t) (hp : s.Poised) : t.Poised := by
  obtain ⟨hr, hs, -, -, -, -, hl⟩ := Tunnel.holdings_eq_iff.mp h.holdings
  refine ⟨?_, ?_⟩
  · rw [hr, hl]
    exact hp.on
  · rw [hr, hs]
    exact hp.slot

/-- What is left alone is tended by doing nothing. -/
theorem tends (h : s.Leaves t) (hp : s.Poised) : s.Tends t := by
  obtain ⟨hr, hs, hservers, hproxy, -, -, hl⟩ := Tunnel.holdings_eq_iff.mp h.holdings
  refine .uses [] ?_ (fun _ hm => absurd hm List.not_mem_nil) hr hs (fun held => ?_)
    (fun _ => hservers) (fun _ => congrArg some hproxy)
  · rw [h.calls, List.append_nil]
  · obtain ⟨relay, hheld⟩ := Option.isSome_iff_exists.mp held
    rw [hl]
    exact hp.on relay hheld

/-- What is done about relays after something else is what is done about them altogether. -/
theorem andThen (h : s.Leaves u) (k : u.Tends t) : s.Tends t := by
  obtain ⟨hr, hs, hservers, hproxy, -, -, hl⟩ := Tunnel.holdings_eq_iff.mp h.holdings
  have hu (relay : RelayId) (opened : Bool) :
      upbringing u.tunnel relay opened = upbringing s.tunnel relay opened :=
    upbringing_congr h.holdings relay opened
  cases k with
  | uses told calls everyday relay signaling on servers proxy =>
    rw [hr] at everyday relay on servers proxy
    rw [hservers] at servers
    rw [hproxy] at proxy
    exact .uses told (h.calls ▸ calls) everyday relay (signaling.trans hs) on servers proxy
  | raises opened free calls relay signaling on servers proxy =>
    rw [h.calls, h.count, hu] at calls
    rw [h.count] at relay signaling
    exact .raises opened (hr ▸ free) calls relay signaling on (servers.trans hservers)
      (proxy.trans hproxy)
  | ends relay held calls gone signaling on off =>
    rw [h.calls, hs] at calls
    exact .ends relay (hr ▸ held) calls gone signaling (hl ▸ on) off

variable [Surroundings σ]

/-- What is no matter of relays is left alone. -/
theorem of_unfolds {aspects : List Aspect} (hu : s.world.Unfolds aspects t.world)
    (ht : t.tunnel.holdings = s.tunnel.holdings)
    (ha : aspects ⊆ [.settings, .routing, .probe, .traffic, .passing]) : s.Leaves t := by
  have hw := hu.mono ha
  exact ⟨ht, hw.relayCalls_eq (by decide) (by decide), hw.length_relays_eq (by decide)⟩

theorem abandon (s : Station σ) : s.Leaves s.abandon :=
  .of_unfolds s.unfolds_abandon (by rw [tunnel_abandon]; rfl) (by decide)

theorem startProbe (s : Station σ) (index : Nat) : s.Leaves (s.startProbe index).2 := by
  obtain ⟨current, ht⟩ := s.tunnel_startProbe index
  exact .of_unfolds (s.unfolds_startProbe index) (by rw [ht]; rfl) (by decide)

theorem renumbered (s : Station σ) : s.Leaves s.renumbered :=
  .of_unfolds s.unfolds_renumbered (by rw [tunnel_renumbered]; rfl) (by decide)

theorem stopAutoDetect (s : Station σ) : s.Leaves s.stopAutoDetect := by
  obtain ⟨t, rfl | rfl, he⟩ := s.stopAutoDetect_cases
  · rw [he]
    exact .abandon _
  · rw [he]
    exact (note s _).trans (.abandon _)

theorem autoDetect (s : Station σ) : s.Leaves s.autoDetect := by
  rcases s.autoDetect_cases with ⟨_, he⟩ | ⟨_, t, rfl | rfl, he⟩
  · rw [he]
    exact .note _ _
  · rw [he]
    exact (renumbered _).trans (.startProbe _ _)
  · rw [he]
    exact ((note s _).trans (.renumbered _)).trans (.startProbe _ _)

theorem awaitDeregistration (s : Station σ) : s.Leaves s.awaitDeregistration.2 :=
  .of_unfolds s.unfolds_awaitDeregistration (by rw [tunnel_awaitDeregistration]) (by decide)

/-- A relay's report changes how the engines work, and nothing about relays. -/
theorem onConnectivity (s : Station σ) (connected : Bool) (generation : Nat) :
    s.Leaves (s.onConnectivity connected generation) := by
  refine .of_unfolds (s.unfolds_onConnectivity connected generation) ?_ (by decide)
  rcases s.onConnectivity_cases connected generation with
    ⟨_, he⟩ | ⟨_, _, _, ⟨_, he⟩ | ⟨_, _, hl, ⟨_, _, he⟩ | ⟨_, he⟩ | ⟨_, he⟩⟩⟩
  · rw [he]
    rfl
  · rw [he]
    rfl
  · rw [he]
  · rw [he, Tunnel.holdings_eq_iff, hl]
    exact ⟨rfl, rfl, rfl, rfl, rfl, rfl, rfl⟩
  · rw [he, tunnel_goDisconnected, Tunnel.holdings_eq_iff, hl]
    exact ⟨rfl, rfl, rfl, rfl, rfl, rfl, rfl⟩

end Leaves

/-! ### Telling the held relay -/

/-- Something that the tunnel is told is passed on to the held relay. -/
theorem Poised.tends_of_tell (hp : s.Poised) {c : RelayId → Call}
    (hc : ∀ relay, (c relay).isEveryday = true ∧ (c relay).relay? = some relay)
    (calls : t.world.relayCalls = s.world.relayCalls ++ (s.tunnel.relay.map c).toList)
    (tunnel : ∀ relay, t.tunnel.holdings = (s.tunnel.hear (c relay)).holdings) : s.Tends t := by
  obtain ⟨hr, hs, -⟩ := Tunnel.holdings_eq_iff.mp (tunnel 0)
  cases held : s.tunnel.relay with
  | none =>
    rw [held] at calls
    exact .idle held (calls.trans (List.append_nil _)) (hr.trans held) hs
  | some own =>
    rw [held] at calls
    obtain ⟨-, -, hservers, hproxy, -, -, hon⟩ := Tunnel.holdings_eq_iff.mp (tunnel own)
    obtain ⟨proxy, hknown⟩ := Call.knownProxy_some s.tunnel.proxy (c own)
    refine .uses [c own] calls (fun call hm => ?_) hr hs (fun _ => ?_) (fun _ => hservers)
      fun _ => ?_
    · rw [List.mem_singleton.mp hm, held]
      exact hc own
    · rw [hon]
      exact hp.on own held
    · rw [hproxy, Tunnel.hear, hknown]
      exact hknown.symm

variable [Surroundings σ]

theorem relayCalls_callRelay (s : Station σ) {c : RelayId → Call}
    (hc : ∀ relay, (c relay).relay? = some relay) :
    (s.callRelay c).world.relayCalls = s.world.relayCalls ++ (s.tunnel.relay.map c).toList := by
  unfold callRelay
  cases s.tunnel.relay with
  | none => exact (List.append_nil _).symm
  | some relay =>
    rw [world_call, World.relayCalls_perform,
      List.filter_cons_of_pos (Call.concernsRelay_of_relay (hc relay))]
    rfl

theorem Poised.addServer (hp : s.Poised) (server : Server) : s.Tends (s.addServer server) := by
  refine hp.tends_of_tell (c := (.addServer · server)) (fun _ => ⟨rfl, rfl⟩) ?_ fun _ => ?_
  · unfold Station.addServer
    dsimp only
    rw [world_modify, relayCalls_callRelay _ fun _ => rfl]
    split <;> rfl
  · rw [tunnel_addServer]
    rfl

theorem Poised.clearServers (hp : s.Poised) : s.Tends s.clearServers := by
  refine hp.tends_of_tell (c := .removeServers) (fun _ => ⟨rfl, rfl⟩) ?_ fun _ => ?_
  · have ha := (Leaves.abandon (s.modify fun t => { t with servers := [] })).calls
    rw [Station.clearServers, relayCalls_callRelay _ fun _ => rfl, ha, tunnel_abandon]
    rfl
  · rw [tunnel_clearServers]
    rfl

theorem Poised.setProxy (hp : s.Poised) (proxy : Proxy) : s.Tends (s.setProxy proxy) := by
  refine hp.tends_of_tell (c := (.setProxy · proxy)) (fun _ => ⟨rfl, rfl⟩) ?_ fun _ => ?_
  · rw [Station.setProxy, relayCalls_callRelay _ fun _ => rfl]
    rfl
  · rw [tunnel_setProxy]
    rfl

theorem Poised.setProxyAuth (hp : s.Poised) (username password : Option String) :
    s.Tends (s.setProxyAuth username password) := by
  refine hp.tends_of_tell (c := (.setProxyAuth · username password)) (fun _ => ⟨rfl, rfl⟩) ?_
    fun _ => ?_
  · rw [Station.setProxyAuth, relayCalls_callRelay _ fun _ => rfl]
    rfl
  · rw [tunnel_setProxyAuth]
    rfl

/-! ### Bringing a relay up -/

/-- What a new relay is told before it starts. -/
theorem mem_introduction {t : Tunnel} {relay : RelayId} {call : Call}
    (h : call ∈ introduction t relay) :
    call = .listen relay t.generation ∨ (∃ server, call = .addServer relay server) ∨
      call = .setProxy relay t.proxy := by
  rw [introduction, List.cons_append] at h
  rcases List.mem_cons.mp h with rfl | h
  · exact .inl rfl
  · rcases List.mem_append.mp h with h | h
    · obtain ⟨server, _, rfl⟩ := List.mem_map.mp h
      exact .inr (.inl ⟨server, rfl⟩)
    · split at h
      · exact .inr (.inr (List.mem_singleton.mp h))
      · cases h

/-- All that a new relay is told before it starts concerns it. -/
theorem relay_of_mem_introduction {t : Tunnel} {relay : RelayId} {call : Call}
    (h : call ∈ introduction t relay) : call.relay? = some relay := by
  rcases mem_introduction h with rfl | ⟨_, rfl⟩ | rfl <;> rfl

/-- All that is said to a new relay concerns it. -/
theorem relay_of_mem_upbringing {t : Tunnel} {relay : RelayId} {opened : Bool} {call : Call}
    (h : call ∈ upbringing t relay opened) : call.relay? = some relay := by
  rw [← introduction_append] at h
  rcases List.mem_append.mp h with h | h
  · exact relay_of_mem_introduction h
  · rcases List.mem_cons.mp h with rfl | h
    · rfl
    · rw [List.mem_singleton.mp h]
      split <;> rfl

/-- Before it starts a new relay opens no stream. -/
theorem streamsOf_introduction {t : Tunnel} {relay : RelayId} {call : Call}
    (h : call ∈ introduction t relay) (other : RelayId) (l : Ledger) :
    (l.apply call).streamsOf other = l.streamsOf other := by
  rcases mem_introduction h with rfl | ⟨_, rfl⟩ | rfl <;>
    exact l.streamsOf_onRelay _ _ fun _ => rfl

/-- What was said when a relay was to be created: nothing to any relay, or a new one was introduced,
which has opened no stream so far. -/
theorem relayCalls_createRelay_cases (s : Station σ) :
    (s.createRelay.1 = none ∧ s.createRelay.2.tunnel = s.tunnel ∧ s.Leaves s.createRelay.2) ∨
    (s.createRelay.1 = some s.world.ledger.relays.length ∧
      s.createRelay.2.tunnel =
        { s.tunnel with
          relay := some s.world.ledger.relays.length
          generation := s.tunnel.generation + 1 } ∧
      s.createRelay.2.world.relayCalls = s.world.relayCalls ++ .createRelay ::
        introduction { s.tunnel with generation := s.tunnel.generation + 1 }
          s.world.ledger.relays.length ∧
      s.createRelay.2.world.ledger.streamsOf s.world.ledger.relays.length = []) := by
  unfold createRelay
  cases Surroundings.relayOffer s.world.scene with
  | error why =>
    have hu : s.world.Unfolds [.passing] (s.call .missRelay).world :=
      World.Unfolds.refl.perform _ (by simp)
    exact .inl ⟨rfl, rfl, .of_unfolds (hu.note _ rfl) rfl (by decide)⟩
  | ok _ =>
    refine .inr ⟨rfl, rfl, ?_, ?_⟩
    · have htold (t : Tunnel) (relay : RelayId) :
          (introduction t relay).filter Call.concernsRelay = introduction t relay :=
        List.filter_eq_self.mpr fun _ hm =>
          Call.concernsRelay_of_relay (relay_of_mem_introduction hm)
      dsimp only
      rw [world_modify, world_callAll, World.relayCalls_performAll, htold, world_modify, world_call,
        World.relayCalls_perform, List.append_assoc]
      rfl
    · dsimp only
      rw [world_modify, world_callAll,
        World.streamsOf_performAll _ fun call hm l => streamsOf_introduction hm _ l,
        world_modify, world_call, World.ledger_perform, Ledger.streamsOf_createRelay]

/-- What came of asking a relay for the signaling stream while there is none: the stream that the
relay opened, or still none. -/
theorem openSignaling_cases (s : Station σ) (relay : RelayId) (h : s.tunnel.signaling = none) :
    ∃ opened : Bool,
      (s.openSignaling relay).tunnel =
        { s.tunnel with
          signaling :=
            if opened then some ⟨relay, (s.world.ledger.streamsOf relay).length⟩ else none } ∧
      (s.openSignaling relay).world.relayCalls = s.world.relayCalls ++
        [if opened then .openStream relay s.tunnel.tuning.signalingPort
          else .missStream relay s.tunnel.tuning.signalingPort] := by
  unfold openSignaling
  dsimp only
  rw [h]
  split
  · next hs => cases hs
  · split
    · refine ⟨true, rfl, ?_⟩
      rw [world_modify, world_call, World.relayCalls_perform]
      rfl
    · refine ⟨false, ?_, ?_⟩
      · rw [tunnel_note, tunnel_call]
        exact congrArg (fun signaling => { s.tunnel with signaling }) h
      · have hn := (Leaves.note (s.call (.missStream relay s.tunnel.tuning.signalingPort))
          (.signalingRefused s.tunnel.tuning.signalingPort)).calls
        rw [hn, world_call, World.relayCalls_perform]
        rfl

/-- What starting a relay while none is held comes to: still none is held and no relay was spoken
to, or a new one was created and brought up. -/
theorem startRelay_of_none (s : Station σ) (hr : s.tunnel.relay = none)
    (hs : s.tunnel.signaling = none) :
    (s.startRelay.tunnel = s.tunnel ∧ s.Leaves s.startRelay) ∨
    ∃ opened,
      s.startRelay.tunnel =
        { s.tunnel with
          relay := some s.world.ledger.relays.length
          generation := s.tunnel.generation + 1
          signaling := firstStream s.world.ledger.relays.length opened } ∧
      s.startRelay.world.relayCalls = s.world.relayCalls ++
        .createRelay :: upbringing s.tunnel s.world.ledger.relays.length opened := by
  have hcases := s.relayCalls_createRelay_cases
  unfold startRelay obtainRelay
  rw [hr]
  rcases hc : s.createRelay with ⟨found, t⟩
  rw [hc] at hcases
  rcases hcases with ⟨rfl, ht, hl⟩ | ⟨rfl, ht, hcalls, hstreams⟩
  · exact .inl ⟨ht, hl⟩
  -- The new relay is asked for its first stream, since it has not opened any so far.
  · have hnone : (t.call (.startRelay s.world.ledger.relays.length)).tunnel.signaling = none := by
      rw [tunnel_call, ht]
      exact hs
    obtain ⟨opened, htunnel, hasked⟩ := openSignaling_cases _ s.world.ledger.relays.length hnone
    have hfirst : (t.call (.startRelay s.world.ledger.relays.length)).world.ledger.streamsOf
        s.world.ledger.relays.length = [] := by
      have hstart := t.world.ledger.streamsOf_onRelay s.world.ledger.relays.length
        s.world.ledger.relays.length (f := fun r => { r with starts := r.starts + 1 }) fun _ => rfl
      rw [world_call, World.ledger_perform]
      exact hstart.trans hstreams
    refine .inr ⟨opened, ?_, ?_⟩
    · rw [htunnel, hfirst, tunnel_call, ht]
      rfl
    · rw [hasked, world_call, World.relayCalls_perform, tunnel_call, ht, hcalls,
        ← introduction_append]
      simp only [List.append_assoc]
      rfl

/-- Starting a relay while none is held and the tunnel is on, or has just been turned on, brings one
up or leaves things as they are. -/
theorem Poised.tends_startRelay (hp : s.Poised) (hr : s.tunnel.relay = none) {link : Link}
    (hon : link.isOn = true) (ht : t.tunnel = { s.tunnel with link })
    (hc : t.world.relayCalls = s.world.relayCalls)
    (hn : t.world.ledger.relays.length = s.world.ledger.relays.length) :
    s.Tends t.startRelay := by
  have hs := hp.slot hr
  have htr : t.tunnel.relay = none := by rw [ht]; exact hr
  have hts : t.tunnel.signaling = none := by rw [ht]; exact hs
  rcases t.startRelay_of_none htr hts with ⟨hsame, hl⟩ | ⟨opened, hnew, hcalls⟩
  · exact .idle hr (hl.calls.trans hc) (by rw [hsame]; exact htr) (by rw [hsame, ht])
  · rw [hn] at hnew hcalls
    refine .raises opened hr ?_ ?_ ?_ ?_ ?_ ?_
    · rw [hcalls, hc, ht]
      rfl
    all_goals
      rw [hnew, ht]
    exact hon

theorem Poised.turnOn (hp : s.Poised) (hl : s.tunnel.link = .off) : s.Tends s.turnOn := by
  have hr : s.tunnel.relay = none := by
    cases held : s.tunnel.relay with
    | none => rfl
    | some relay =>
      have hon := hp.on relay held
      rw [hl] at hon
      cases hon
  obtain ⟨t, he, ht, hu⟩ := s.turnOn_eq_startRelay
  rw [he]
  exact hp.tends_startRelay hr rfl ht (hu.relayCalls_eq (by decide) (by decide))
    (hu.length_relays_eq (by decide))

theorem Poised.reconnect (hp : s.Poised) : s.Tends s.reconnect := by
  unfold Station.reconnect
  split
  · next hon =>
    split
    · next own held =>
      refine hp.tends_of_tell (c := .reconnectRelay) (fun _ => ⟨rfl, rfl⟩) ?_ fun _ => rfl
      rw [world_call, World.relayCalls_perform, held]
      rfl
    · next hr => exact hp.tends_startRelay hr hon rfl rfl rfl
  · exact (Leaves.refl s).tends hp

/-! ### Ending a relay -/

/-- What is said to a relay while it is stopped. -/
theorem relayCalls_stopRelay (s : Station σ) :
    s.stopRelay.world.relayCalls = s.world.relayCalls ++
      s.tunnel.relay.elim [] fun relay => ending relay s.tunnel.signaling := by
  have hu : s.uninstallHooks.world.relayCalls = s.world.relayCalls :=
    s.unfolds_uninstallHooks.relayCalls_eq (by decide) (by decide)
  unfold stopRelay
  dsimp only
  split
  · next relay held =>
    have hheld : s.tunnel.relay = some relay := held
    have hclose (t : Station σ) : (t.closeSignaling relay).world.relayCalls =
        t.world.relayCalls ++ (t.tunnel.signaling.map (.closeStream relay)).toList := by
      unfold closeSignaling
      split
      · next stream hs =>
        rw [world_call, World.relayCalls_perform, hs]
        rfl
      · next hs =>
        rw [hs]
        exact (List.append_nil _).symm
    rw [world_call, World.relayCalls_perform, hclose, world_modify, hu, hheld, List.append_assoc]
    rfl
  · next hr =>
    have hnone : s.tunnel.relay = none := hr
    rw [hu, hnone]
    exact (List.append_nil _).symm

/-- Once a held relay has been stopped there is no signaling stream. -/
theorem signaling_stopRelay (s : Station σ)
    (h : s.tunnel.relay = none → s.tunnel.signaling = none) :
    s.stopRelay.tunnel.signaling = none := by
  unfold stopRelay
  dsimp only
  split
  · rw [tunnel_call, tunnel_closeSignaling]
  · next hr => exact h hr

/-- What is said to a relay when the tunnel is turned off. -/
theorem relayCalls_turnOff (s : Station σ) (settings : EngineSettings) :
    (s.turnOff settings).world.relayCalls = s.world.relayCalls ++
      s.tunnel.relay.elim [] fun relay => ending relay s.tunnel.signaling := by
  have hwait : s.Leaves (s.note .turningOff).awaitDeregistration.2 :=
    (Leaves.note s _).trans (.awaitDeregistration _)
  obtain ⟨hr, hs, -⟩ := Tunnel.holdings_eq_iff.mp hwait.holdings
  have hstop := relayCalls_stopRelay
    ((s.note .turningOff).awaitDeregistration.2.modify fun t => { t with link := .off })
  have hrest (u : Station σ) : ((u.restore settings).call .resumeRegistration).world.relayCalls =
      u.world.relayCalls := by
    have hu : u.world.Unfolds [.settings, .passing] (u.restore settings).world :=
      (u.unfolds_restore settings).mono (by decide)
    exact (hu.perform _ (by simp)).relayCalls_eq (by decide) (by decide)
  rw [tunnel_modify, world_modify, hwait.calls, hr, hs] at hstop
  exact (hrest _).trans hstop

theorem Poised.turnOff (hp : s.Poised) {settings : EngineSettings} {phase : Phase}
    (hl : s.tunnel.link = .on settings phase) : s.Tends (s.turnOff settings) := by
  obtain ⟨signaling, ht⟩ := s.tunnel_turnOff settings
  have hcalls := s.relayCalls_turnOff settings
  -- Whether or not a relay is held, no signaling stream is left: without one there was none.
  have hnone : (s.turnOff settings).tunnel.signaling = none := by
    have hwait : s.Leaves (s.note .turningOff).awaitDeregistration.2 :=
      (Leaves.note s _).trans (.awaitDeregistration _)
    have hq := hwait.poised hp
    exact signaling_stopRelay
      ((s.note .turningOff).awaitDeregistration.2.modify fun t => { t with link := .off }) hq.slot
  cases held : s.tunnel.relay with
  | none =>
    rw [held] at hcalls
    exact .idle held (hcalls.trans (List.append_nil _)) (by rw [ht])
      (hnone.trans (hp.slot held).symm)
  | some relay =>
    rw [held] at hcalls
    refine .ends relay held hcalls ?_ hnone ?_ ?_
    · rw [ht]
    · rw [hl]
      rfl
    · rw [ht]

/-! ### Every leg -/

theorem Poised.enable (hp : s.Poised) (on : Bool) : s.Tends (s.enable on) := by
  rcases s.enable_cases on with ⟨_, hl, he⟩ | ⟨settings, phase, _, hl, he⟩ | ⟨_, he⟩
  · rw [he]
    exact hp.turnOn hl
  · rw [he]
    exact hp.turnOff hl
  · rw [he]
    exact (Leaves.note s _).tends hp

/-- What is done before the tunnel is turned on or off has nothing to do with relays. -/
theorem Poised.leaves_enable (hp : s.Poised) (h : s.Leaves t) (on : Bool) :
    s.Tends (t.enable on) :=
  h.andThen ((h.poised hp).enable on)

theorem Poised.onProbed (hp : s.Poised) (reachable : Bool) (run index : Nat) :
    s.Tends (s.onProbed reachable run index) := by
  rcases s.onProbed_cases reachable run index with
    ⟨_, he⟩ | ⟨_, ⟨_, he⟩ | ⟨_, _, he⟩ | ⟨_, _, he⟩⟩
  · rw [he]
    exact (Leaves.note s _).tends hp
  · rw [he]
    exact hp.leaves_enable ((Leaves.note s _).trans (.abandon _)) _
  · rw [he]
    exact hp.leaves_enable ((Leaves.note s _).trans (.abandon _)) _
  · rw [he]
    exact hp.leaves_enable ((Leaves.startProbe s _).trans (.note _ _)) _

theorem Poised.handle (hp : s.Poised) (posted : Posted) : s.Tends (s.handle posted) := by
  have hn := Leaves.note s (.handling posted)
  unfold Station.handle
  cases posted.event with
  | connectivity connected generation =>
    exact (hn.trans (.onConnectivity _ connected generation)).tends hp
  | probed reachable run index => exact hn.andThen ((hn.poised hp).onProbed reachable run index)

theorem Poised.operate (hp : s.Poised) {operation : Operation} (ho : operation ≠ .iterate) :
    s.Tends (s.operate operation) := by
  cases operation with
  | addServer server => exact hp.addServer server
  | addServerWithReflector server reflector => exact hp.addServer _
  | clearServers => exact hp.clearServers
  | setProxy proxy => exact hp.setProxy proxy
  | setProxyAuth username password => exact hp.setProxyAuth username password
  | enable on => exact hp.enable on
  | reconnect => exact hp.reconnect
  | autoDetect => exact (Leaves.autoDetect s).tends hp
  | stopAutoDetect => exact (Leaves.stopAutoDetect s).tends hp
  | iterate => exact absurd rfl ho

/-- Every leg of a run tends to relays. -/
theorem Poised.tends (hp : s.Poised) (h : s.LeadsTo t) : s.Tends t := by
  cases h with
  | operate operation ho => exact hp.operate ho
  | aside happening ha =>
    have hl : s.Leaves (s.meet happening) := by
      cases happening with
      | operate operation => exact absurd rfl (ha operation)
      | post event => exact .of_eq rfl rfl rfl
      | report report =>
        have hd := s.world.deliver_frame report
        exact .of_eq rfl hd.2.1 hd.2.2.1
      | stir change => exact .of_eq rfl rfl rfl
      | send data dest => exact .of_unfolds (Hook.unfolds_send _ _ _ _) rfl (by decide)
      | receive size => exact .of_unfolds (Hook.unfolds_receive _ _ _) rfl (by decide)
    exact hl.tends hp
  | take => exact Leaves.tends (.of_eq rfl rfl rfl) hp
  | handle posted => exact hp.handle posted

/-- A new tunnel holds nothing. -/
theorem poised_fresh (tuning : Tuning) (scene : σ) (found : EngineSettings) :
    (fresh tuning scene found).Poised :=
  ⟨nofun, fun _ => rfl⟩

end Station

end SipOverRelay
