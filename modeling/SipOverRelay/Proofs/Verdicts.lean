import SipOverRelay.Proofs.Detecting

/-!
# The verdicts of a detection run

A run that nobody interferes with asks for a probe of one candidate after the other, in the order of
the servers, and goes on exactly as long as the verdicts say that the candidates were not reachable.
Servers that are added meanwhile are tried in their turn.
-/

namespace SipOverRelay

/-- The server for which a call asks for a probe, whether it gets one or not. -/
def Call.asked? : Call → Option Server
  | .createProbe server => some server
  | .missProbe server => some server
  | _ => none

/-- Only calls about probes ask for one. -/
theorem Call.asked?_of_aspect {call : Call} (h : call.aspect ≠ .probe) : call.asked? = none := by
  cases call with
  | createProbe server => exact absurd rfl h
  | missProbe server => exact absurd rfl h
  | _ => rfl

/-- What a letter says about a candidate of a run, if a probe or the tunnel posted it. -/
def Letter.verdict? (run : Nat) : Letter → Option (Nat × Bool)
  | ⟨.tunnel, .probed reachable r index⟩ => if r = run then some (index, reachable) else none
  | ⟨.probe _, .probed reachable r index⟩ => if r = run then some (index, reachable) else none
  | _ => none

/-- A verdict is a result with a tag of the run. -/
theorem Letter.verdict?_eq_some {letter : Letter} {run index : Nat} {reachable : Bool} :
    letter.verdict? run = some (index, reachable) ↔
      letter.tag? = some (run, index) ∧ letter.event = .probed reachable run index := by
  obtain ⟨sender, event⟩ := letter
  cases event with
  | connectivity connected generation => cases sender <;> simp [verdict?, tag?]
  | probed said r i =>
    by_cases hr : r = run
    · cases sender <;> simp +contextual [verdict?, tag?, hr]
    · cases sender <;> simp [verdict?, tag?, hr]

/-- The verdicts when the first so many candidates were not reachable. -/
def unreached (count : Nat) : List (Nat × Bool) := (List.range count).map (·, false)

theorem unreached_succ (count : Nat) :
    unreached (count + 1) = unreached count ++ [(count, false)] := by
  rw [unreached, List.range_succ, List.map_append]
  rfl

theorem length_unreached (count : Nat) : (unreached count).length = count := by
  rw [unreached, List.length_map, List.length_range]

theorem mem_unreached {count index : Nat} (h : index < count) :
    (index, false) ∈ unreached count :=
  List.mem_map.mpr ⟨index, List.mem_range.mpr h, rfl⟩

namespace Ledger

/-- The server that a probe was created for. -/
def serverOf (l : Ledger) (probe : ProbeId) : Option Server :=
  (l.probes[probe]?).map ProbeRecord.server

/-- What a probe is told later does not change its server. -/
theorem serverOf_startProbe (l : Ledger) (started probe : ProbeId) (run index : Nat) :
    (l.apply (.startProbe started run index)).serverOf probe = l.serverOf probe :=
  l.probes_onProbe (·.map ProbeRecord.server) started probe fun _ => rfl

theorem serverOf_stopProbe (l : Ledger) (stopped probe : ProbeId) :
    (l.apply (.stopProbe stopped)).serverOf probe = l.serverOf probe :=
  l.probes_onProbe (·.map ProbeRecord.server) stopped probe fun _ => rfl

/-- A new probe is one of the server that it was asked for. -/
theorem serverOf_createProbe (l : Ledger) (server : Server) :
    (l.apply (.createProbe server)).serverOf l.probes.length = some server := by
  rw [serverOf, probes_createProbe, if_pos rfl]
  rfl

end Ledger

namespace World

variable {σ : Type} {w v : World σ} {posted : Posted} {batch : List Posted}

/-- Whether an event is a forged result. -/
def isForged (w : World σ) (posted : Posted) : Bool :=
  (w.letters[posted.seq]?).any Letter.isForged

/-- The servers of which a probe was asked for, in order. -/
def asked (w : World σ) : List Server := (w.calls.filterMap Call.asked?).reverse

/-- The verdicts on the candidates of a run, as far as they have been handled, in order. -/
def verdicts (w : World σ) (run : Nat) : List (Nat × Bool) :=
  (w.readings (Letter.verdict? run)).reverse

/-- The event that is being handled is the last verdict, if it is one. -/
theorem verdicts_note_handling (w : World σ) (run : Nat) (posted : Posted) :
    (w.note (.handling posted)).verdicts run =
      w.verdicts run ++ (w.reading (Letter.verdict? run) posted).toList := by
  rw [verdicts, readings_note_handling, List.reverse_append]
  cases w.reading (Letter.verdict? run) posted with
  | none => rfl
  | some verdict => rfl

/-- Verdicts on a candidate have been handled with its tag. -/
theorem mem_readings_of_verdict {run index : Nat} {reachable : Bool}
    (h : (index, reachable) ∈ w.verdicts run) : (run, index) ∈ w.readings Letter.tag? := by
  obtain ⟨posted, hm, hr⟩ := List.mem_filterMap.mp (List.mem_reverse.mp h)
  obtain ⟨letter, hl, hv⟩ := Option.bind_eq_some_iff.mp hr
  refine List.mem_filterMap.mpr ⟨posted, hm, ?_⟩
  rw [reading, hl, Option.bind_some, (Letter.verdict?_eq_some.mp hv).1]

/-- What is to be handled next has not been handled. -/
theorem Tagged.not_mem_readings (h : w.Tagged) (hf : w.Filed (posted :: batch)) {tag : Nat × Nat}
    (ht : w.reading Letter.tag? posted = some tag) : tag ∉ w.readings Letter.tag? := by
  intro hm
  have hn := h.once
  rw [← hf.readings_append Letter.tag?] at hn
  have hp : tag ∈ (posted :: batch ++ w.mailbox.waiting).filterMap (w.reading Letter.tag?) :=
    List.mem_filterMap.mpr ⟨posted, List.mem_cons_self, ht⟩
  exact (List.nodup_append.mp hn).2.2 tag (List.mem_reverse.mpr hm) tag hp rfl

theorem asked_deliver (w : World σ) (report : Report) : (w.deliver report).asked = w.asked := by
  rw [asked, calls_deliver]
  rfl

variable [Surroundings σ]

theorem asked_perform (w : World σ) (call : Call) :
    (w.perform call).asked = w.asked ++ call.asked?.toList := by
  rw [asked, calls_perform, List.filterMap_cons]
  cases call.asked? with
  | none => exact (List.append_nil _).symm
  | some server => exact List.reverse_cons

/-- What is no matter of probes asks for none. -/
theorem Unfolds.asked_eq {aspects : List Aspect} (hu : w.Unfolds aspects v)
    (ha : .probe ∉ aspects) : v.asked = w.asked :=
  congrArg List.reverse
    (hu.filterMap_calls fun _ hc => Call.asked?_of_aspect fun he => ha (he ▸ hc))

theorem asked_probing (w : World σ) (server : Server) (run index : Nat) :
    (w.probing server run index).asked = w.asked ++ [server] := by
  rw [probing, asked_perform, asked_perform]
  exact List.append_nil _

/-- The new probe is one of the server that it was asked for. -/
theorem serverOf_probing (w : World σ) (server : Server) (run index : Nat) :
    (w.probing server run index).ledger.serverOf w.ledger.probes.length = some server := by
  rw [probing, ledger_perform, ledger_perform, Ledger.serverOf_startProbe]
  exact w.ledger.serverOf_createProbe server

end World

/-- Servers with a reflector stay in their places when servers are added. -/
theorem Server.candidate?_of_prefix {servers more : List Server} {index : Nat} {server : Server}
    (hp : reflecting servers <+: reflecting more) (hc : candidate? servers index = some server) :
    candidate? more index = some server := by
  obtain ⟨rest, hr⟩ := hp
  have hlt := (List.getElem?_eq_some_iff.mp hc).1
  rw [candidate?, ← hr, List.getElem?_append_left hlt]
  exact hc

namespace Station

variable {σ : Type} {base s t u : Station σ} {run : Nat} {posted : Posted} {batch : List Posted}

/-- Giving a candidate up asks for no probe. -/
theorem asked_abandon [Surroundings σ] (s : Station σ) :
    s.abandon.world.asked = s.world.asked := by
  rcases s.abandon_cases with ⟨_, he⟩ | ⟨stopped, _, he⟩
  · rw [he]
  · rw [he, World.asked_perform]
    exact List.append_nil _

theorem serverOf_abandon [Surroundings σ] (s : Station σ) (probe : ProbeId) :
    s.abandon.world.ledger.serverOf probe = s.world.ledger.serverOf probe := by
  rcases s.abandon_cases with ⟨_, he⟩ | ⟨stopped, _, he⟩
  · rw [he]
  · rw [he, World.ledger_perform, Ledger.serverOf_stopProbe]

/-- Trying a candidate asks for a probe of it, and if there is one it is the current candidate's. -/
theorem asked_startProbe [Surroundings σ] (s : Station σ) {index : Nat} {server : Server}
    (hs : Server.candidate? s.tunnel.servers index = some server) :
    (s.startProbe index).2.world.asked = s.world.asked ++ [server] ∧
      ∀ c probe, (s.startProbe index).2.tunnel.detection.current = some c →
        c.probe = some probe →
          (s.startProbe index).2.world.ledger.serverOf probe = some server := by
  rcases s.startProbe_cases index with ⟨hn, _⟩ | ⟨other, ho, he⟩ | ⟨other, ho, he⟩
  · rw [hs] at hn
    cases hn
  · obtain rfl : other = server := Option.some.inj (ho.symm.trans hs)
    let t := s.within (s.world.probing other s.tunnel.detection.run index)
    rw [he]
    constructor
    · exact t.asked_abandon.trans (s.world.asked_probing other _ index)
    · intro c probe hc hp
      rw [tunnel_advance] at hc
      cases hc
      cases hp
      exact (t.serverOf_abandon _).trans (s.world.serverOf_probing other _ index)
  · obtain rfl : other = server := Option.some.inj (ho.symm.trans hs)
    let t := s.call (.missProbe other)
    rw [he]
    constructor
    · exact t.asked_abandon.trans (s.world.asked_perform (.missProbe other))
    · intro c probe hc hp
      rw [tunnel_post, tunnel_advance] at hc
      cases hc
      cases hp

/-- Nothing that a detection run goes by has changed, unless servers were added. -/
structure Keeps (run : Nat) (s t : Station σ) : Prop where
  /-- Run and candidate stay. -/
  detection : t.tunnel.detection = s.tunnel.detection
  /-- No candidate was started. -/
  started : t.world.started = s.world.started
  /-- No probe was asked for. -/
  asked : t.world.asked = s.world.asked
  /-- No verdict was handled. -/
  verdicts : t.world.verdicts run = s.world.verdicts run
  /-- The probes are the same. -/
  probes : t.world.ledger.probes = s.world.ledger.probes
  /-- Candidates stay in their places. -/
  servers : Server.reflecting s.tunnel.servers <+: Server.reflecting t.tunnel.servers

theorem Keeps.refl (s : Station σ) : Keeps run s s :=
  ⟨rfl, rfl, rfl, rfl, rfl, List.prefix_rfl⟩

theorem Keeps.trans (h : Keeps run s t) (k : Keeps run t u) : Keeps run s u :=
  ⟨k.detection.trans h.detection, k.started.trans h.started, k.asked.trans h.asked,
    k.verdicts.trans h.verdicts, k.probes.trans h.probes, h.servers.trans k.servers⟩

/-- The number that the next run will have. -/
def nextRun (s : Station σ) : Nat := s.tunnel.detection.run + 1

/-- How far the run that was begun at `base` has come: the verdicts so far, the number of candidates
that were tried, the place of the current one, and whether the tunnel is on. -/
structure Standing (s base : Station σ) (verdicts : List (Nat × Bool)) (tried : Nat)
    (current : Option Nat) (on : Bool) : Prop where
  /-- It is the run after those that `base` had seen. -/
  run : s.tunnel.detection.run = base.nextRun
  /-- The place of the current candidate. -/
  current : s.tunnel.detection.current.map Candidate.index = current
  /-- The verdicts so far. -/
  verdicts : s.world.verdicts base.nextRun = verdicts
  /-- The candidates that were tried are the first ones in the list, in order. -/
  asked : s.world.asked = base.world.asked ++ (Server.reflecting s.tunnel.servers).take tried
  /-- There are so many candidates at least. -/
  tried_le : tried ≤ (Server.reflecting s.tunnel.servers).length
  /-- Whether the tunnel is on. -/
  link : s.tunnel.link.isOn = on
  /-- The current candidate's probe is one of the server in its place. -/
  served : ∀ c probe, s.tunnel.detection.current = some c → c.probe = some probe →
    ∃ server, s.world.ledger.serverOf probe = some server ∧
      Server.candidate? s.tunnel.servers c.index = some server

/-- The run tries the candidate after those that were not reachable; the tunnel is on since the
first of these, and before that it is as it was. -/
def Searching (s base : Station σ) (count : Nat) : Prop :=
  s.Standing base (unreached count) (count + 1) (some count)
    (if count = 0 then base.tunnel.link.isOn else true)

/-- The run is over: no candidate was reachable, and the tunnel is on. -/
def Exhausted (s base : Station σ) (count : Nat) : Prop :=
  0 < count ∧ s.Standing base (unreached count) count none true

/-- The run is over: the candidate after those that were not reachable was reached, and the tunnel
is off. -/
def Succeeded (s base : Station σ) (count : Nat) : Prop :=
  s.Standing base (unreached count ++ [(count, true)]) (count + 1) none false

namespace Standing

variable {verdicts : List (Nat × Bool)} {tried : Nat} {current : Option Nat} {on : Bool}

theorem keeps (h : s.Standing base verdicts tried current on)
    (k : Keeps base.nextRun s t) :
    t.Standing base verdicts tried current t.tunnel.link.isOn := by
  obtain ⟨rest, hr⟩ := k.servers
  have htake : (Server.reflecting t.tunnel.servers).take tried =
      (Server.reflecting s.tunnel.servers).take tried := by
    rw [← hr, List.take_append_of_le_length h.tried_le]
  refine ⟨?_, ?_, ?_, ?_, ?_, rfl, ?_⟩
  · rw [k.detection]
    exact h.run
  · rw [k.detection]
    exact h.current
  · rw [k.verdicts]
    exact h.verdicts
  · rw [k.asked, htake]
    exact h.asked
  · have hle := h.tried_le
    rw [← hr, List.length_append]
    omega
  · intro c probe hc hp
    rw [k.detection] at hc
    obtain ⟨server, hs, hplace⟩ := h.served c probe hc hp
    refine ⟨server, ?_, Server.candidate?_of_prefix k.servers hplace⟩
    rw [Ledger.serverOf, k.probes]
    exact hs

/-- When no candidate is left, all servers with a reflector have been asked for. -/
theorem asked_all (h : s.Standing base verdicts tried current on)
    (hn : Server.candidate? s.tunnel.servers tried = none) :
    s.world.asked = base.world.asked ++ Server.reflecting s.tunnel.servers := by
  have hall : (Server.reflecting s.tunnel.servers).length ≤ tried :=
    List.getElem?_eq_none_iff.mp hn
  rw [h.asked, List.take_of_length_le hall]

/-- A verdict that is being handled counts. -/
theorem note_handling (h : s.Standing base verdicts tried current on) (posted : Posted) :
    (s.note (.handling posted)).Standing base
      (verdicts ++ (s.world.reading (Letter.verdict? base.nextRun) posted).toList) tried current
      on := by
  refine ⟨h.run, h.current, ?_, h.asked, h.tried_le, h.link, h.served⟩
  rw [world_note, World.verdicts_note_handling, h.verdicts]

theorem note (h : s.Standing base verdicts tried current on) (notice : Notice)
    (hn : notice.handled? = none) :
    (s.note notice).Standing base verdicts tried current on := by
  refine ⟨h.run, h.current, ?_, h.asked, h.tried_le, h.link, h.served⟩
  rw [world_note, World.verdicts, World.readings_note _ hn]
  exact h.verdicts

variable [Surroundings σ]

/-- After giving the candidate up the run is over. -/
theorem abandon (h : s.Standing base verdicts tried current on) (hf : s.world.Filed batch) :
    s.abandon.Standing base verdicts tried none on := by
  have hu := s.unfolds_abandon
  refine ⟨?_, ?_, ?_, ?_, ?_, ?_, ?_⟩
  · rw [tunnel_abandon]
    exact h.run
  · rw [tunnel_abandon]
    rfl
  · rw [World.verdicts, hf.readings_of_prefix hu.handled_eq hu.letters_prefix]
    exact h.verdicts
  · rw [asked_abandon, tunnel_abandon]
    exact h.asked
  · rw [tunnel_abandon]
    exact h.tried_le
  · rw [tunnel_abandon]
    exact h.link
  · intro c probe hc
    rw [tunnel_abandon] at hc
    cases hc

/-- The next candidate in the list may be tried. -/
theorem startProbe (h : s.Standing base verdicts tried current on) (hf : s.world.Filed batch)
    {server : Server} (hs : Server.candidate? s.tunnel.servers tried = some server) :
    (s.startProbe tried).2.Standing base verdicts (tried + 1) (some tried) on := by
  have hu := s.unfolds_startProbe tried
  obtain ⟨hasked, hserved⟩ := s.asked_startProbe hs
  obtain ⟨probe, ht⟩ := s.tunnel_startProbe_of_isSome (by rw [hs]; rfl)
  have hplace : (Server.reflecting s.tunnel.servers)[tried]? = some server := hs
  have hlt := (List.getElem?_eq_some_iff.mp hplace).1
  refine ⟨?_, ?_, ?_, ?_, ?_, ?_, ?_⟩
  · rw [ht]
    exact h.run
  · rw [ht]
    rfl
  · rw [World.verdicts, hf.readings_of_prefix hu.handled_eq hu.letters_prefix]
    exact h.verdicts
  · rw [hasked, h.asked, ht, List.append_assoc, List.take_add_one, hplace]
    rfl
  · rw [ht]
    exact hlt
  · rw [ht]
    exact h.link
  · intro c other hc hp
    refine ⟨server, hserved c other hc hp, ?_⟩
    rw [ht] at hc ⊢
    cases hc
    exact hs

end Standing

variable [Surroundings σ]

/-- What spares detection and at most adds servers changes nothing that a run goes by. -/
theorem Keeps.of_spares (hf : s.world.Filed batch) (hs : s.Spares t)
    (hp : Server.reflecting s.tunnel.servers <+: Server.reflecting t.tunnel.servers) :
    Keeps run s t where
  detection := hs.detection
  started := (hs.unfolds.tags_eq (by decide)).1
  asked := hs.unfolds.asked_eq (by decide)
  verdicts := congrArg List.reverse
    (hf.readings_of_prefix hs.unfolds.handled_eq hs.unfolds.letters_prefix _)
  probes := hs.unfolds.probes_eq (by decide)
  servers := hp

/-- What spares detection and adds no server changes nothing that a run goes by. -/
theorem Keeps.of_servers (hf : s.world.Filed batch) (hs : s.Spares t)
    (he : t.tunnel.servers = s.tunnel.servers) : Keeps run s t := by
  refine .of_spares hf hs ?_
  rw [he]

namespace Standing

variable {verdicts : List (Nat × Bool)} {tried : Nat} {current : Option Nat} {before : Bool}

/-- Turning the tunnel on or off does not get a run further. -/
theorem enable (h : s.Standing base verdicts tried current before) (hf : s.world.Filed batch)
    (on : Bool) : (s.enable on).Standing base verdicts tried current on := by
  have hs := h.keeps (.of_servers hf (s.spares_enable on) (s.rest_enable on).1)
  rwa [isOn_enable] at hs

/-- When the run is given up and the tunnel turned on or off, no candidate is started. -/
theorem giveUp (h : s.Standing base verdicts tried current before) (hf : s.world.Filed batch)
    (on : Bool) (notice : Notice) (hn : notice.handled? = none) :
    ((s.note notice).abandon.enable on).Standing base verdicts tried none on ∧
      ((s.note notice).abandon.enable on).world.started = s.world.started := by
  have hfn := hf.note hn
  constructor
  · have ha := (h.note notice hn).abandon hfn
    exact ha.enable (hfn.unfolds (unfolds_abandon (s.note notice))) on
  · have ht := (spares_enable (s.note notice).abandon on).unfolds.tags_eq (by decide)
    exact ht.1.trans (started_abandon (s.note notice))

/-- When the next candidate takes over, the tunnel is turned on. -/
theorem goOn (h : s.Standing base verdicts tried current before) (hf : s.world.Filed batch)
    {server : Server} (hs : Server.candidate? s.tunnel.servers tried = some server)
    (notice : Notice) (hn : notice.handled? = none) :
    (((s.startProbe tried).2.note notice).enable true).Standing base verdicts (tried + 1)
      (some tried) true := by
  have hp := (h.startProbe hf hs).note notice hn
  have hfp := hf.unfolds (s.unfolds_startProbe tried)
  exact hp.enable (hfp.note hn) true

end Standing

end Station

end SipOverRelay
