import SipOverRelay.Proofs.Candidates

/-!
# The succession of candidates

The tunnel's detection has a current candidate or none. Whatever is done to it, the candidate is
given up, or a run begins, or the next candidate takes over; everything else spares it. So the tags
of a run ascend, and a probe is stopped just when its candidate is given up.
-/

namespace SipOverRelay

/-- The probe of the current candidate, if there is one. -/
def Detection.probe? (d : Detection) : Option ProbeId := d.current.bind Candidate.probe

/-- What a result has to carry to be the one that is awaited. -/
theorem Detection.isCurrent_iff {d : Detection} {run index : Nat} :
    d.isCurrent run index = true ↔ run = d.run ∧ ∃ c, d.current = some c ∧ c.index = index := by
  unfold isCurrent
  cases d.current <;> simp

namespace World

variable {σ : Type} {w v : World σ}

/-- A report is no result of the tunnel's own. -/
theorem ownTags_deliver (w : World σ) (report : Report) :
    (w.deliver report).ownTags = w.ownTags := by
  rcases w.deliver_cases report with he | ⟨_, _, _, _, he⟩ | ⟨_, _, _, _, _, he⟩
  · rw [he]
  · rw [he]
    exact w.ownTags_post rfl
  · rw [he]
    exact ownTags_post _ rfl

/-- A report starts no candidate. -/
theorem started_deliver (w : World σ) (report : Report) :
    (w.deliver report).started = w.started := by
  rw [started, ownTags_deliver, probeTags, calls_deliver]
  rfl

variable [Surroundings σ]

/-- A call posts no result of the tunnel's own. -/
theorem ownTags_perform (w : World σ) (call : Call) : (w.perform call).ownTags = w.ownTags := by
  have hd (v : World σ) (report : Report) (hv : v.ownTags = w.ownTags) :
      (v.deliver report).ownTags = w.ownTags :=
    (v.ownTags_deliver report).trans hv
  exact perform_induction hd rfl

/-- A call that starts no probe starts no candidate. -/
theorem started_perform (w : World σ) {call : Call} (hc : call.tag? = none) :
    (w.perform call).started = w.started := by
  rw [started, probeTags, calls_perform, List.filterMap_cons_none hc, ownTags_perform]
  rfl

/-- The new probe, and no other, gets the tag. -/
theorem tagOf_probing (w : World σ) (server : Server) (run index : Nat) (probe : ProbeId) :
    (w.probing server run index).ledger.tagOf probe =
      if probe = w.ledger.probes.length then some (run, index) else w.ledger.tagOf probe := by
  have hl : (w.ledger.apply (.createProbe server)).probes.length = w.ledger.probes.length + 1 :=
    List.length_append
  rw [probing, ledger_perform, ledger_perform, Ledger.tagOf_startProbe, Ledger.tagOf_createProbe,
    hl]
  by_cases hp : probe = w.ledger.probes.length
  · rw [if_pos ⟨hp.symm, hp ▸ Nat.lt_succ_self _⟩, if_pos hp]
  · rw [if_neg fun hn => hp hn.1.symm, if_neg hp]

/-- The new probe has not been stopped. -/
theorem stopsOf_probing (w : World σ) (server : Server) (run index : Nat) (probe : ProbeId) :
    (w.probing server run index).ledger.stopsOf probe =
      if probe = w.ledger.probes.length then some 0 else w.ledger.stopsOf probe := by
  rw [probing, ledger_perform, ledger_perform, Ledger.stopsOf_startProbe,
    Ledger.stopsOf_createProbe]

/-- A probe that is started starts a candidate. -/
theorem started_probing (w : World σ) (server : Server) (run index : Nat) :
    (w.probing server run index).started = (run, index) :: w.started := by
  rw [probing, started, probeTags, calls_perform, calls_perform, ownTags_perform, ownTags_perform]
  rfl

/-- A new probe may be started under a tag that no other candidate has. -/
theorem Tagged.probing (h : w.Tagged) (server : Server) {run index : Nat}
    (hn : (run, index) ∉ w.started) : (w.probing server run index).Tagged := by
  refine (h.perform rfl).startProbe ?_ ?_
  · rw [ledger_perform, Ledger.tagOf_createProbe, Ledger.tagOf,
      List.getElem?_eq_none (Nat.le_refl _)]
    rfl
  · rw [w.started_perform rfl]
    exact hn

/-- What is no matter of probes starts no candidate. -/
theorem Unfolds.tags_eq {aspects : List Aspect} (hu : w.Unfolds aspects v)
    (ha : .probe ∉ aspects) :
    v.started = w.started ∧ v.ownTags = w.ownTags := by
  have ho : v.ownTags = w.ownTags := by
    induction hu with
    | refl => rfl
    | @perform v _ call _ ih => exact (v.ownTags_perform call).trans ih
    | note _ _ _ ih => exact ih
    | answer _ run index hp _ => exact absurd hp ha
  have hp : v.probeTags = w.probeTags :=
    hu.filterMap_calls fun call hc => Call.tag?_of_aspect fun he => ha (he ▸ hc)
  exact ⟨congrArg₂ (· ++ ·) hp ho, ho⟩

end World

namespace Station

open World (Unfolds)

variable {σ : Type} [Surroundings σ] {s t : Station σ}

/-! ### What spares detection -/

/-- One station comes from another by what is no matter of detection. -/
structure Spares (s t : Station σ) : Prop where
  /-- Run and candidate stay. -/
  detection : t.tunnel.detection = s.tunnel.detection
  /-- Nothing is done about probes. -/
  unfolds : s.world.Unfolds [.settings, .routing, .roster, .relay, .traffic, .passing] t.world

namespace Spares

theorem refl (s : Station σ) : s.Spares s := ⟨rfl, .refl⟩

/-- Calls about no probes spare detection if the tunnel's own state does. -/
theorem of_unfolds {aspects : List Aspect} (hu : s.world.Unfolds aspects t.world)
    (hd : t.tunnel.detection = s.tunnel.detection)
    (ha : aspects ⊆ [.settings, .routing, .roster, .relay, .traffic, .passing]) : s.Spares t :=
  ⟨hd, hu.mono ha⟩

end Spares

theorem spares_note (s : Station σ) (notice : Notice) (hn : notice.handled? = none) :
    s.Spares (s.note notice) :=
  ⟨rfl, Unfolds.refl.note notice hn⟩

theorem spares_enable (s : Station σ) (on : Bool) : s.Spares (s.enable on) :=
  .of_unfolds (s.unfolds_enable on) (s.rest_enable on).2 (by decide)

theorem spares_reconnect (s : Station σ) : s.Spares s.reconnect :=
  .of_unfolds s.unfolds_reconnect s.rest_reconnect.2.2 (by decide)

theorem spares_onConnectivity (s : Station σ) (connected : Bool) (generation : Nat) :
    s.Spares (s.onConnectivity connected generation) :=
  .of_unfolds (s.unfolds_onConnectivity connected generation)
    (s.rest_onConnectivity connected generation).2.2 (by decide)

theorem spares_addServer (s : Station σ) (server : Server) : s.Spares (s.addServer server) :=
  .of_unfolds (s.unfolds_addServer server) (by rw [tunnel_addServer]) (by decide)

/-- A request spares detection, or gives a candidate up and spares it otherwise, or begins a
run. -/
theorem operate_detection_cases (s : Station σ) {operation : Operation} (h : operation ≠ .iterate) :
    s.Spares (s.operate operation) ∨
    (∃ t, s.Spares t ∧ t.abandon.Spares (s.operate operation)) ∨
    s.operate operation = s.autoDetect := by
  cases operation with
  | addServer server => exact .inl (s.spares_addServer server)
  | addServerWithReflector server reflector => exact .inl (s.spares_addServer _)
  | clearServers =>
    let t := s.modify fun t => { t with servers := [] }
    have ht : s.Spares t := ⟨rfl, .refl⟩
    have hu : t.abandon.world.Unfolds [.relay] s.clearServers.world :=
      t.abandon.unfolds_callRelay fun _ => by simp
    have hs : t.abandon.Spares s.clearServers :=
      .of_unfolds hu (congrArg _ (t.abandon.tunnel_callRelay _)) (by decide)
    exact .inr (.inl ⟨t, ht, hs⟩)
  | setProxy proxy =>
    exact .inl (.of_unfolds (s.unfolds_setProxy proxy) (by rw [operate, tunnel_setProxy])
      (by decide))
  | setProxyAuth username password =>
    exact .inl (.of_unfolds (s.unfolds_setProxyAuth username password)
      (by rw [operate, tunnel_setProxyAuth]) (by decide))
  | enable on => exact .inl (s.spares_enable on)
  | reconnect => exact .inl s.spares_reconnect
  | autoDetect => exact .inr (.inr rfl)
  | stopAutoDetect =>
    obtain ⟨t, ht, hs⟩ := s.stopAutoDetect_cases
    have hst : s.Spares t := by
      rcases ht with rfl | rfl
      · exact .refl _
      · exact s.spares_note .detectionStopped rfl
    refine .inr (.inl ⟨t, hst, ?_⟩)
    rw [operate, hs]
    exact .refl _
  | iterate => exact absurd rfl h

/-! ### Results of the current candidate -/

/-- A result of the current candidate ends the run, or makes the next candidate the current one. -/
theorem detection_onProbed (s : Station σ) (reachable : Bool) {run index : Nat}
    (hc : s.tunnel.detection.isCurrent run index = true) :
    ∃ current, (s.onProbed reachable run index).tunnel.detection =
        { s.tunnel.detection with current } ∧
      current.map Candidate.index =
        if reachable = false ∧ (Server.candidate? s.tunnel.servers (index + 1)).isSome = true then
          some (index + 1)
        else none := by
  rcases s.onProbed_cases reachable run index with
    ⟨hn, _⟩ | ⟨_, ⟨rfl, he⟩ | ⟨rfl, hn, he⟩ | ⟨rfl, hs, he⟩⟩
  · rw [hc] at hn
    cases hn
  · refine ⟨none, ?_, rfl⟩
    rw [he, (spares_enable _ false).detection, tunnel_abandon]
    rfl
  · refine ⟨none, ?_, ?_⟩
    · rw [he, (spares_enable _ true).detection, tunnel_abandon]
      rfl
    · rw [hn]
      rfl
  · obtain ⟨probe, hp⟩ := s.tunnel_startProbe_of_isSome hs
    refine ⟨some ⟨index + 1, probe⟩, ?_, ?_⟩
    · rw [he, (spares_enable _ true).detection, tunnel_note, hp]
    · rw [if_pos ⟨rfl, hs⟩]
      rfl

/-- A result of the current candidate turns the tunnel off if the candidate was reached, and on if
it was not. -/
theorem isOn_onProbed (s : Station σ) (reachable : Bool) {run index : Nat}
    (hc : s.tunnel.detection.isCurrent run index = true) :
    (s.onProbed reachable run index).tunnel.link.isOn = !reachable := by
  rcases s.onProbed_cases reachable run index with
    ⟨hn, _⟩ | ⟨_, ⟨rfl, he⟩ | ⟨rfl, _, he⟩ | ⟨rfl, _, he⟩⟩
  · rw [hc] at hn
    cases hn
  · rw [he, isOn_enable]
    rfl
  · rw [he, isOn_enable]
    rfl
  · rw [he, isOn_enable]
    rfl

/-! ### Giving candidates up -/

/-- Giving a candidate up stops its probe, if it has one, and does nothing else to the world. -/
theorem abandon_cases (s : Station σ) :
    (s.tunnel.detection.probe? = none ∧ s.abandon.world = s.world) ∨
    ∃ probe, s.tunnel.detection.probe? = some probe ∧
      s.abandon.world = s.world.perform (.stopProbe probe) := by
  unfold abandon Detection.probe?
  rcases s.tunnel.detection.current with _ | ⟨index, _ | probe⟩
  · exact .inl ⟨rfl, rfl⟩
  · exact .inl ⟨rfl, rfl⟩
  · exact .inr ⟨probe, rfl, rfl⟩

/-- Giving a candidate up gives no probe a tag. -/
theorem tagOf_abandon (s : Station σ) (probe : ProbeId) :
    s.abandon.world.ledger.tagOf probe = s.world.ledger.tagOf probe := by
  rcases s.abandon_cases with ⟨_, h⟩ | ⟨stopped, _, h⟩
  · rw [h]
  · rw [h, World.ledger_perform, Ledger.tagOf_stopProbe]

/-- Giving a candidate up counts as a stop of its probe. -/
theorem stopsOf_abandon (s : Station σ) (probe : ProbeId) :
    s.abandon.world.ledger.stopsOf probe =
      if s.tunnel.detection.probe? = some probe then (s.world.ledger.stopsOf probe).map (· + 1)
      else s.world.ledger.stopsOf probe := by
  rcases s.abandon_cases with ⟨hp, h⟩ | ⟨stopped, hp, h⟩
  · rw [h, hp, if_neg nofun]
  · rw [h, hp, World.ledger_perform, Ledger.stopsOf_stopProbe]
    simp only [Option.some.injEq]

/-- Giving a candidate up starts none. -/
theorem started_abandon (s : Station σ) : s.abandon.world.started = s.world.started := by
  rcases s.abandon_cases with ⟨_, h⟩ | ⟨stopped, _, h⟩
  · rw [h]
  · rw [h, World.started_perform _ rfl]

theorem tagged_abandon (h : s.world.Tagged) : s.abandon.world.Tagged := by
  rcases s.abandon_cases with ⟨_, he⟩ | ⟨stopped, _, he⟩
  · rw [he]
    exact h
  · rw [he]
    exact h.perform rfl

/-! ### The invariant -/

/-- What every happening keeps: the tags of the present run do not go beyond the current candidate,
which was started under its tag, and every other probe has been stopped once. -/
structure Detecting (s : Station σ) : Prop where
  /-- Tags are used once, and results come from where their tags say. -/
  tagged : s.world.Tagged
  /-- There are no tags of later runs, and none beyond the current candidate. -/
  recent : ∀ tag ∈ s.world.started, tag.1 < s.tunnel.detection.run ∨
    tag.1 = s.tunnel.detection.run ∧
      ∀ c, s.tunnel.detection.current = some c → tag.2 ≤ c.index
  /-- The current candidate's probe has its tag. -/
  probed : ∀ c probe, s.tunnel.detection.current = some c → c.probe = some probe →
    s.world.ledger.tagOf probe = some (s.tunnel.detection.run, c.index)
  /-- The current candidate's result has been posted if it has no probe. -/
  unprobed : ∀ c, s.tunnel.detection.current = some c → c.probe = none →
    (s.tunnel.detection.run, c.index) ∈ s.world.ownTags
  /-- The current candidate's probe has not been stopped, and all others have been once. -/
  stops : ∀ probe count, s.world.ledger.stopsOf probe = some count →
    count = if s.tunnel.detection.probe? = some probe then 0 else 1

namespace Detecting

omit [Surroundings σ] in
/-- What is said here depends on detection, on the tags and on the probes alone. -/
theorem congr (h : s.Detecting) (hd : t.tunnel.detection = s.tunnel.detection)
    (ht : t.world.Tagged) (hs : t.world.started = s.world.started)
    (ho : t.world.ownTags = s.world.ownTags)
    (hl : t.world.ledger.probes = s.world.ledger.probes) : t.Detecting := by
  refine ⟨ht, ?_, ?_, ?_, ?_⟩
  · rw [hs, hd]
    exact h.recent
  · rw [hd]
    simp only [Ledger.tagOf, hl]
    exact h.probed
  · rw [hd, ho]
    exact h.unprobed
  · rw [hd]
    simp only [Ledger.stopsOf, hl]
    exact h.stops

theorem spares (h : s.Detecting) (hs : s.Spares t) : t.Detecting :=
  have ht := hs.unfolds.tags_eq (by decide)
  h.congr hs.detection (h.tagged.unfolds hs.unfolds (by decide)) ht.1 ht.2
    (hs.unfolds.probes_eq (by decide))

omit [Surroundings σ] in
/-- The current candidate's probe is among the probes. -/
theorem lt_of_probe (h : s.Detecting) {probe : ProbeId}
    (hp : s.tunnel.detection.probe? = some probe) : probe < s.world.ledger.probes.length := by
  obtain ⟨c, hc, hcp⟩ := Option.bind_eq_some_iff.mp hp
  exact Ledger.lt_of_tagOf (h.probed c probe hc hcp)

/-- After giving a candidate up every probe has been stopped once. -/
theorem stops_abandon (h : s.Detecting) {probe : ProbeId} {count : Nat}
    (hs : s.abandon.world.ledger.stopsOf probe = some count) : count = 1 := by
  rw [stopsOf_abandon] at hs
  by_cases hp : s.tunnel.detection.probe? = some probe
  · rw [if_pos hp] at hs
    obtain ⟨before, hb, rfl⟩ := Option.map_eq_some_iff.mp hs
    rw [h.stops probe before hb, if_pos hp]
  · rw [if_neg hp] at hs
    rw [h.stops probe count hs, if_neg hp]

theorem abandon (h : s.Detecting) : s.abandon.Detecting := by
  have hd : s.abandon.tunnel.detection.current = none := by rw [tunnel_abandon]
  have hr : s.abandon.tunnel.detection.run = s.tunnel.detection.run := by rw [tunnel_abandon]
  refine ⟨tagged_abandon h.tagged, ?_, ?_, ?_, ?_⟩
  · intro tag hm
    rw [started_abandon] at hm
    rw [hd, hr]
    rcases h.recent tag hm with hlt | ⟨he, _⟩
    · exact .inl hlt
    · exact .inr ⟨he, nofun⟩
  · rw [hd]
    nofun
  · rw [hd]
    nofun
  · intro probe count hs
    rw [Detection.probe?, hd, h.stops_abandon hs]
    rfl

/-- When a new probe has been started and the old candidate is given up, every probe but the new one
has been stopped once. -/
theorem stops_probing (h : s.Detecting) (server : Server) (run index : Nat) {probe : ProbeId}
    {count : Nat} (hs : (s.within (s.world.probing server run index)).abandon.world.ledger.stopsOf
      probe = some count) : count = if probe = s.world.ledger.probes.length then 0 else 1 := by
  rw [stopsOf_abandon, world_within, World.stopsOf_probing, tunnel_within] at hs
  by_cases hp : probe = s.world.ledger.probes.length
  · -- The new probe is none that was held before.
    subst hp
    rw [if_neg fun hp => Nat.lt_irrefl _ (h.lt_of_probe hp), if_pos rfl] at hs
    rw [if_pos rfl]
    exact (Option.some.inj hs).symm
  · rw [if_neg hp, ← stopsOf_abandon] at hs
    rw [if_neg hp]
    exact h.stops_abandon hs

/-- A tag does not go beyond a candidate that is tried under it, or under a later one. -/
theorem recent_next {run index : Nat} {probe : Option ProbeId} {tag : Nat × Nat}
    (h : tag = (run, index) ∨ tag.1 < run ∨ tag.1 = run ∧ tag.2 < index) :
    tag.1 < run ∨ tag.1 = run ∧
      ∀ c : Candidate, some ⟨index, probe⟩ = some c → tag.2 ≤ c.index := by
  rcases h with rfl | hlt | ⟨he, hlt⟩
  · refine .inr ⟨rfl, fun c hc => ?_⟩
    cases hc
    exact Nat.le_refl _
  · exact .inl hlt
  · refine .inr ⟨he, fun c hc => ?_⟩
    cases hc
    exact Nat.le_of_lt hlt

/-- The candidate at a place may be tried under a new probe if no tag of the run goes so far. -/
theorem advance_probe (h : s.Detecting) (server : Server) {index : Nat}
    (hn : ∀ tag ∈ s.world.started, tag.1 < s.tunnel.detection.run ∨
      tag.1 = s.tunnel.detection.run ∧ tag.2 < index) :
    ((s.within (s.world.probing server s.tunnel.detection.run index)).advance
      ⟨index, some s.world.ledger.probes.length⟩).Detecting := by
  let t := s.within (s.world.probing server s.tunnel.detection.run index)
  have hfresh : (s.tunnel.detection.run, index) ∉ s.world.started := fun hm => by
    have := hn _ hm
    omega
  change (t.advance ⟨index, some s.world.ledger.probes.length⟩).Detecting
  refine ⟨tagged_abandon (h.tagged.probing server hfresh), ?_, ?_, ?_, ?_⟩
  · intro tag hm
    change tag ∈ t.abandon.world.started at hm
    rw [started_abandon, world_within, World.started_probing] at hm
    rw [tunnel_advance]
    refine recent_next ?_
    rcases List.mem_cons.mp hm with he | hm
    · exact .inl he
    · exact .inr (hn tag hm)
  · intro c probe hc hp
    rw [tunnel_advance] at hc ⊢
    cases hc
    cases hp
    change t.abandon.world.ledger.tagOf _ = _
    rw [tagOf_abandon, world_within, World.tagOf_probing, if_pos rfl]
    rfl
  · intro c hc hp
    rw [tunnel_advance] at hc
    cases hc
    cases hp
  · intro probe count hs
    rw [h.stops_probing server _ index hs, tunnel_advance]
    change _ = if some s.world.ledger.probes.length = some probe then 0 else 1
    simp only [Option.some.injEq, eq_comm]

/-- The candidate at a place may get its result at once if no tag of the run goes so far. -/
theorem advance_none (h : s.Detecting) (server : Server) {index : Nat}
    (hn : ∀ tag ∈ s.world.started, tag.1 < s.tunnel.detection.run ∨
      tag.1 = s.tunnel.detection.run ∧ tag.2 < index) :
    (((s.call (.missProbe server)).advance ⟨index, none⟩).post .tunnel
      (.probed false s.tunnel.detection.run index)).Detecting := by
  let t := s.call (.missProbe server)
  have hstarted : t.world.started = s.world.started := s.world.started_perform rfl
  have ht : t.Detecting := h.congr rfl (h.tagged.perform rfl) hstarted (s.world.ownTags_perform _)
    (congrArg Ledger.probes (s.world.ledger_perform _))
  have ha := ht.abandon
  have hfresh : (s.tunnel.detection.run, index) ∉ t.abandon.world.started := fun hm => by
    rw [started_abandon, hstarted] at hm
    have := hn _ hm
    omega
  change ((t.advance ⟨index, none⟩).post .tunnel
    (.probed false s.tunnel.detection.run index)).Detecting
  refine ⟨ha.tagged.postOwn hfresh, ?_, ?_, ?_, ?_⟩
  · intro tag hm
    change tag ∈ (t.abandon.world.post .tunnel _).started at hm
    rw [World.started_postOwn, started_abandon, hstarted] at hm
    rw [tunnel_post, tunnel_advance]
    refine recent_next ?_
    rcases List.mem_append.mp hm with hm | hm
    · exact .inr (hn tag hm)
    · exact .inl (List.mem_singleton.mp hm)
  · intro c probe hc hp
    rw [tunnel_post, tunnel_advance] at hc
    cases hc
    cases hp
  · intro c hc _
    rw [tunnel_post, tunnel_advance] at hc ⊢
    cases hc
    exact List.mem_filterMap.mpr ⟨_, World.mem_letters_post.mpr (.inr rfl), rfl⟩
  · intro probe count hs
    rw [tunnel_post, tunnel_advance]
    exact ht.stops_abandon hs

/-- The candidate at a place may be tried if no tag of the run goes so far. -/
theorem startProbe (h : s.Detecting) {index : Nat}
    (hn : ∀ tag ∈ s.world.started, tag.1 < s.tunnel.detection.run ∨
      tag.1 = s.tunnel.detection.run ∧ tag.2 < index) : (s.startProbe index).2.Detecting := by
  rcases s.startProbe_cases index with ⟨_, he⟩ | ⟨server, _, he⟩ | ⟨server, _, he⟩
  · rw [he]
    exact h
  · rw [he]
    exact h.advance_probe server hn
  · rw [he]
    exact h.advance_none server hn

/-- A new run has no tags yet. -/
theorem renumbered (h : s.Detecting) : s.renumbered.Detecting ∧
    ∀ tag ∈ s.abandon.world.started, tag.1 < s.tunnel.detection.run + 1 := by
  have ha := h.abandon
  have hr : s.abandon.tunnel.detection.run = s.tunnel.detection.run := by rw [tunnel_abandon]
  have hlt : ∀ tag ∈ s.abandon.world.started, tag.1 < s.tunnel.detection.run + 1 := by
    intro tag hm
    have hrecent := ha.recent tag hm
    rw [hr] at hrecent
    omega
  refine ⟨⟨ha.tagged, ?_, ?_, ?_, ?_⟩, hlt⟩
  · intro tag hm
    rw [tunnel_renumbered]
    exact .inl (hlt tag hm)
  · intro c probe hc
    rw [tunnel_renumbered] at hc
    cases hc
  · intro c hc
    rw [tunnel_renumbered] at hc
    cases hc
  · intro probe count hs
    rw [tunnel_renumbered, h.stops_abandon hs]
    rfl

theorem autoDetect (h : s.Detecting) : s.autoDetect.Detecting := by
  rcases s.autoDetect_cases with ⟨_, he⟩ | ⟨_, t, ht, he⟩
  · rw [he]
    exact h.spares (s.spares_note .nothingToProbe rfl)
  · have hst : t.Detecting := by
      rcases ht with rfl | rfl
      · exact h
      · exact h.spares (s.spares_note .detectionRestarted rfl)
    obtain ⟨hb, hlt⟩ := hst.renumbered
    rw [he]
    refine hb.startProbe fun tag hm => .inl ?_
    rw [tunnel_renumbered]
    exact hlt tag hm

omit [Surroundings σ] in
/-- While a result of the current candidate is acted upon, no tag goes as far as the next one. -/
theorem lt_next (h : s.Detecting) {run index : Nat}
    (hc : s.tunnel.detection.isCurrent run index = true) :
    ∀ tag ∈ s.world.started, tag.1 < s.tunnel.detection.run ∨
      tag.1 = s.tunnel.detection.run ∧ tag.2 < index + 1 := by
  obtain ⟨_, c, hcur, rfl⟩ := Detection.isCurrent_iff.mp hc
  intro tag hm
  rcases h.recent tag hm with hlt | ⟨he, hle⟩
  · exact .inl hlt
  · exact .inr ⟨he, Nat.lt_succ_of_le (hle c hcur)⟩

theorem onProbed (h : s.Detecting) (reachable : Bool) (run index : Nat) :
    (s.onProbed reachable run index).Detecting := by
  refine onProbed_induction ?_ ?_ ?_ ?_ h reachable
  · exact fun t notice hn ht => ht.spares (t.spares_note notice hn)
  · exact fun _ ht => ht.abandon
  · exact fun t on ht => ht.spares (t.spares_enable on)
  · exact fun hc => h.startProbe (h.lt_next hc)

theorem operate (h : s.Detecting) {operation : Operation} (ho : operation ≠ .iterate) :
    (s.operate operation).Detecting := by
  rcases s.operate_detection_cases ho with hs | ⟨t, hs, ht⟩ | he
  · exact h.spares hs
  · exact (h.spares hs).abandon.spares ht
  · rw [he]
    exact h.autoDetect

theorem handle (h : s.Detecting) (posted : Posted) : (s.handle posted).Detecting := by
  have hn : (s.note (.handling posted)).Detecting :=
    h.congr rfl (h.tagged.congr rfl rfl rfl fun _ => rfl) rfl rfl rfl
  unfold Station.handle
  cases posted.event with
  | connectivity connected generation =>
    exact hn.spares (spares_onConnectivity _ connected generation)
  | probed reachable run index => exact hn.onProbed reachable run index

/-- Every step of every run keeps this, whatever strangers post. -/
theorem kept (allowed : Happening σ → Prop) : Kept allowed fun _ s => s.Detecting where
  operate _ _ _ h _ ho := h.operate ho
  post _ s event _ h _ := by
    exact h.congr rfl (h.tagged.postOther (by simp) (by simp) (by simp))
      (s.world.started_post rfl) (s.world.ownTags_post rfl) rfl
  report _ s report _ h := by
    have hl := (s.world.deliver_frame report).2.1
    exact h.congr rfl (h.tagged.deliver report) (s.world.started_deliver report)
      (s.world.ownTags_deliver report) (congrArg Ledger.probes hl)
  stir _ _ _ h := h.congr rfl (h.tagged.congr rfl rfl rfl fun _ => rfl) rfl rfl rfl
  hook _ _ _ _ h hu := h.spares (.of_unfolds hu rfl (by decide))
  tick _ _ h := h.congr rfl (h.tagged.congr rfl rfl rfl fun _ => rfl) rfl rfl rfl
  handle _ _ _ _ h := h.handle _

end Detecting

/-- A new tunnel has started no candidate. -/
theorem detecting_fresh (tuning : Tuning) (scene : σ) (found : EngineSettings) :
    (fresh tuning scene found).Detecting where
  tagged := ⟨List.nodup_nil, nofun, nofun, nofun, nofun, nofun, nofun, List.nodup_nil⟩
  recent := nofun
  probed := nofun
  unprobed := nofun
  stops := nofun

end Station

end SipOverRelay
