import SipOverRelay.Proofs.Tending
import SipOverRelay.Rehearsal.Stage

/-!
# Tunnel and relay in step

A relay knows what it has been told: all servers when it is introduced, and every change from then
on. So the held relay knows exactly the servers that the tunnel knows. With the proxy it is less
plain. A relay is told nothing while there is none, and it may then hear about user name and
password alone; but as soon as there is a proxy it has been told all of it.
-/

namespace SipOverRelay

namespace Ledger

/-- Other calls do not change what relays have been told. -/
theorem relays_apply (l : Ledger) {call : Call} (h : call.concernsRelay = false) :
    (l.apply call).relays = l.relays := by
  cases call <;> first | rfl | cases h

/-- What a call changes about relays does not depend on anything else. -/
theorem relays_apply_congr {l m : Ledger} (h : l.relays = m.relays) (call : Call) :
    (l.apply call).relays = (m.apply call).relays := by
  cases call <;> simp [apply, onRelay, onProbe, h]

theorem relays_foldl_congr {l m : Ledger} (h : l.relays = m.relays) (calls : List Call) :
    (calls.foldl apply l).relays = (calls.foldl apply m).relays := by
  induction calls generalizing l m with
  | nil => exact h
  | cons call calls ih => exact ih (relays_apply_congr h call)

/-- What is not about relays can be left out of their replay. -/
theorem relays_replay_filter (l : Ledger) (history : List Call) :
    (l.replay (history.filter Call.concernsRelay)).relays = (l.replay history).relays := by
  induction history with
  | nil => rfl
  | cons call history ih =>
    cases hc : call.concernsRelay with
    | true =>
      rw [List.filter_cons_of_pos hc, replay_cons, replay_cons]
      exact relays_apply_congr ih call
    | false =>
      rw [List.filter_cons_of_neg (by simp [hc]), replay_cons, relays_apply _ hc]
      exact ih

/-- A change of one record leaves every record what it is, or changes it. -/
theorem record_onRelay {l : Ledger} {relay : RelayId} {record : RelayRecord}
    (h : l.relays[relay]? = some record) (other : RelayId) (f : RelayRecord → RelayRecord) :
    (l.onRelay other f).relays[relay]? = some (if other = relay then f record else record) := by
  rw [onRelay, List.getElem?_modify, h]
  split <;> rfl

/-- A relay knows the servers and the proxy that it has been told. -/
theorem record_apply {l : Ledger} {relay : RelayId} {record : RelayRecord}
    (h : l.relays[relay]? = some record) {call : Call} (hc : call.relay? = some relay) :
    ∃ next, (l.apply call).relays[relay]? = some next ∧
      next.servers = Call.knownServers record.servers call ∧
        next.proxy = Call.knownProxy record.proxy call := by
  cases call <;> cases hc <;> refine ⟨_, record_onRelay h _ _, ?_⟩ <;> split <;>
    first
    | exact ⟨rfl, rfl⟩
    | exact absurd rfl ‹_›

theorem record_foldl {l : Ledger} {relay : RelayId} {record : RelayRecord}
    (h : l.relays[relay]? = some record) {told : List Call}
    (ht : ∀ call ∈ told, call.relay? = some relay) :
    ∃ next, (told.foldl apply l).relays[relay]? = some next ∧
      next.servers = told.foldl Call.knownServers record.servers ∧
        next.proxy = told.foldl Call.knownProxy record.proxy := by
  induction told generalizing l record with
  | nil => exact ⟨record, h, rfl, rfl⟩
  | cons call told ih =>
    obtain ⟨mid, hm, hservers, hproxy⟩ := record_apply h (ht call List.mem_cons_self)
    rw [List.foldl_cons, List.foldl_cons, List.foldl_cons, ← hservers, ← hproxy]
    exact ih hm fun other ho => ht other (List.mem_cons_of_mem _ ho)

end Ledger

/-- Whoever is to know a proxy knows it if there is one, which then has a host. -/
def Proxy.KnownAs (proxy : Proxy) (known : Option Proxy) : Prop :=
  proxy.host ≠ "" → known = some proxy

namespace Proxy.KnownAs

variable {proxy next : Proxy} {known : Option Proxy}

/-- User name and password change nothing about whether there is a proxy. So whoever hears of them
alone knows the whole proxy still, or there is none still. -/
theorem hear (h : proxy.KnownAs known) {call : Call}
    (hn : some next = Call.knownProxy (some proxy) call) :
    next.KnownAs (Call.knownProxy known call) := by
  intro hhost
  cases call with
  | setProxy relay told => exact hn.symm
  | setProxyAuth relay username password =>
    have he : next = { proxy with username, password } := Option.some.inj hn
    rw [he] at hhost ⊢
    rw [h hhost]
    rfl
  | _ =>
    have he : next = proxy := Option.some.inj hn
    rw [he] at hhost ⊢
    exact h hhost

/-- Whoever has known a proxy knows it after hearing all that was said about it. -/
theorem hearAll (h : proxy.KnownAs known) {told : List Call}
    (hn : some next = told.foldl Call.knownProxy (some proxy)) :
    next.KnownAs (told.foldl Call.knownProxy known) := by
  induction told generalizing proxy known with
  | nil =>
    rw [Option.some.inj hn]
    exact h
  | cons call told ih =>
    obtain ⟨mid, hm⟩ := Call.knownProxy_some proxy call
    rw [List.foldl_cons, hm] at hn
    exact ih (h.hear hm.symm) hn

end Proxy.KnownAs

/-- The relays follow from the calls that concern them. -/
theorem World.Booked.relays_append {σ : Type} {start : Ledger} {w v : World σ}
    (hw : w.Booked start) (hv : v.Booked start) {told : List Call}
    (h : v.relayCalls = w.relayCalls ++ told) :
    v.ledger.relays = (told.foldl Ledger.apply w.ledger).relays := by
  have hb {u : World σ} (hu : u.Booked start) :
      u.ledger.relays = (u.relayCalls.foldl Ledger.apply start).relays := by
    rw [hu, ← Ledger.relays_replay_filter, World.relayCalls, List.foldl_reverse]
    rfl
  -- The two ledgers may differ in all but the relays, and nothing else counts for those.
  rw [hb hv, h, List.foldl_append]
  exact (Ledger.relays_foldl_congr (hb hw) told).symm

namespace Station

variable {σ : Type} {s t : Station σ}

/-- A relay that is brought up has been told all servers, and the proxy if there is one. -/
theorem known_upbringing (t : Tunnel) (relay : RelayId) (opened : Bool) :
    (upbringing t relay opened).foldl Call.knownServers [] = t.servers ∧
      t.proxy.KnownAs ((upbringing t relay opened).foldl Call.knownProxy none) := by
  have hservers (known servers : List Server) :
      (servers.map (Call.addServer relay)).foldl Call.knownServers known = known ++ servers := by
    induction servers generalizing known with
    | nil => exact (List.append_nil _).symm
    | cons server servers ih =>
      rw [List.map_cons, List.foldl_cons, ih]
      exact List.append_assoc _ _ _
  have hproxy (known : Option Proxy) (servers : List Server) :
      (servers.map (Call.addServer relay)).foldl Call.knownProxy known = known := by
    induction servers with
    | nil => rfl
    | cons server servers ih => exact ih
  rw [upbringing, List.cons_append, List.cons_append, List.append_assoc]
  constructor
  · rw [List.foldl_cons, List.foldl_append, hservers]
    by_cases hhost : t.proxy.host = "" <;> cases opened <;> simp [hhost] <;> rfl
  · intro hhost
    rw [List.foldl_cons, List.foldl_append, hproxy, if_pos hhost]
    cases opened <;> rfl

/-- The held relay has been told what the tunnel knows: the same servers in the same order, and the
same proxy if there is one. -/
def InStep (s : Station σ) : Prop :=
  ∀ relay, s.tunnel.relay = some relay → ∃ record, s.world.ledger.relays[relay]? = some record ∧
    record.servers = s.tunnel.servers ∧ s.tunnel.proxy.KnownAs record.proxy

/-- What is done about relays keeps the held one in step. -/
theorem Tends.inStep {start : Ledger} (h : s.Tends t) (hi : s.InStep)
    (hs : s.world.Booked start) (ht : t.world.Booked start) : t.InStep := by
  intro relay held
  cases h with
  | uses told calls everyday same _ _ servers proxy =>
    rw [same] at held
    have hsome : s.tunnel.relay.isSome = true := by rw [held]; rfl
    obtain ⟨record, hr, hservers, hproxy⟩ := hi relay held
    obtain ⟨next, hn, hnservers, hnproxy⟩ :=
      Ledger.record_foldl hr fun call hm => (everyday call hm).2.trans held
    refine ⟨next, ?_, ?_, ?_⟩
    · rw [hs.relays_append ht calls]
      exact hn
    · rw [hnservers, hservers, servers hsome]
    · rw [hnproxy]
      exact hproxy.hearAll (proxy hsome)
  | raises opened _ calls new _ _ servers proxy =>
    rw [new] at held
    cases held
    have hcreated : (s.world.ledger.apply .createRelay).relays[s.world.ledger.relays.length]? =
        some {} := by simp [Ledger.apply]
    have hsaid : ∀ call ∈ upbringing s.tunnel s.world.ledger.relays.length opened,
        call.relay? = some s.world.ledger.relays.length :=
      fun _ hm => relay_of_mem_upbringing hm
    obtain ⟨next, hn, hnservers, hnproxy⟩ := Ledger.record_foldl hcreated hsaid
    obtain ⟨hknown, hproxy⟩ := known_upbringing s.tunnel s.world.ledger.relays.length opened
    refine ⟨next, ?_, ?_, ?_⟩
    · rw [hs.relays_append ht calls]
      exact hn
    · rw [hnservers, servers]
      exact hknown
    · rw [hnproxy, proxy]
      exact hproxy
  | ends _ _ _ gone _ _ _ =>
    rw [gone] at held
    cases held

variable [Surroundings σ]

/-- In every run, between the requests and in the midst of ticks, the held relay has been told what
the tunnel knows. The ledger is nothing but the replay of all calls. -/
theorem held_relay_in_lockstep (tuning : Tuning) (scene : σ) (found : EngineSettings)
    (run : List (Happening σ)) :
    let start := fresh tuning scene found
    let s := start.after run
    s.world.ledger = Ledger.replay { engine := found } s.world.calls ∧ s.InStep ∧
      ∀ leg ∈ start.legs run, leg.before.InStep ∧ leg.after.InStep := by
  intro start s
  have hall := of_legs
    (I := fun s => s.Poised ∧ s.world.Booked { engine := found } ∧ s.InStep)
    (fun s t ⟨hp, hb, hi⟩ hl =>
      have ht := hp.tends hl
      have hbt := hl.booked hb
      ⟨ht.poised hp, hbt, ht.inStep hi hb hbt⟩)
    ⟨poised_fresh tuning scene found, rfl, nofun⟩ run
  refine ⟨hall.1.2.1, hall.1.2.2, fun leg hm => ?_⟩
  obtain ⟨⟨_, _, hb⟩, _, _, _, ha⟩ := hall.2 leg hm
  exact ⟨hb, ha⟩

/-- The tunnel hears of a user name before there is a proxy, and of the proxy and its password only
while a relay is held. Servers come before and after, one without a host, and are forgotten in
between. -/
def toldPiecemeal : List (Happening Rehearsal.Stage) :=
  [.operate (.setProxyAuth (some "alice") none), .operate (.addServer ⟨"first", 443, none⟩),
    .operate (.enable true), .operate .clearServers, .operate (.addServer ⟨"", 443, none⟩),
    .operate (.setProxy { host := "proxy", port := 3128 }),
    .operate (.setProxyAuth (some "alice") (some "secret"))]

/-- After that the relay knows the server that was added last and the whole proxy. -/
theorem piecemeal_news_reach_relay :
    ∃ s : Station Rehearsal.Stage,
      s = (fresh {} {} ⟨⟨5060, 5060, 5061, 0⟩, .stun⟩).after toldPiecemeal ∧
      s.tunnel.relay = some 0 ∧ ∃ record, s.world.ledger.relays[0]? = some record ∧
        record.servers = [⟨"", 443, none⟩] ∧
        record.proxy = some ⟨"proxy", 3128, some "alice", some "secret"⟩ := by
  obtain ⟨_, hstep, _⟩ := held_relay_in_lockstep {} ({} : Rehearsal.Stage)
    ⟨⟨5060, 5060, 5061, 0⟩, .stun⟩ toldPiecemeal
  obtain ⟨record, hr, hservers, hproxy⟩ := hstep 0 rfl
  exact ⟨_, rfl, rfl, record, hr, hservers, hproxy (by decide)⟩

end Station

end SipOverRelay
