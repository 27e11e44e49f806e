import SipOverRelay.Tunnel.Run

/-!
# What the tunnel does to its world

Between two states of the world lie the calls that the tunnel makes, the notices that it writes and
the results that it posts for candidates without a probe. Every call has one aspect of the ledger
that it may change, so whatever a function of the tunnel leaves alone follows from the aspects of
its calls.
-/

namespace SipOverRelay

/-- The part of the ledger that a call may change. -/
inductive Aspect where
  /-- The settings of the signaling engine. -/
  | settings
  /-- The hook of the signaling engine and the source of streams of the media engine. -/
  | routing
  /-- Which relays there are, and under which numbers they report. -/
  | roster
  /-- What else a relay is told. -/
  | relay
  /-- Which probes there are, and what they are told. -/
  | probe
  /-- Nothing: a datagram passes over a stream. -/
  | traffic
  /-- Nothing: whatever else is asked or waited for. -/
  | passing
  deriving DecidableEq

/-- The part of the ledger that a call may change. -/
@[simp] def Call.aspect : Call → Aspect
  | .setPolicy _ | .setPorts _ => .settings
  | .installHook _ | .installMedia _ => .routing
  | .createRelay | .listen _ _ => .roster
  | .addServer _ _ | .removeServers _ | .setProxy _ _ | .setProxyAuth _ _ _ | .startRelay _
  | .reconnectRelay _ | .destroyRelay _ | .openStream _ _ | .missStream _ _
  | .closeStream _ _ => .relay
  | .createProbe _ | .missProbe _ | .startProbe _ _ _ | .stopProbe _ => .probe
  | .send _ _ _ | .receive _ _ => .traffic
  | .pauseRegistration | .resumeRegistration | .driveEngine | .missRelay | .await _ _ | .sleep _
  | .readClock => .passing

namespace Ledger

/-- Only calls about the settings change them. -/
theorem engine_apply (l : Ledger) {call : Call} (h : call.aspect ≠ .settings) :
    (l.apply call).engine = l.engine := by
  cases call <;> first | rfl | exact absurd rfl h

/-- Only calls about the routing change it. -/
theorem routing_apply (l : Ledger) {call : Call} (h : call.aspect ≠ .routing) :
    (l.apply call).hook = l.hook ∧ (l.apply call).media = l.media := by
  cases call <;> first | exact ⟨rfl, rfl⟩ | exact absurd rfl h

/-- Only calls about probes change what the ledger holds about them. -/
theorem probes_apply (l : Ledger) {call : Call} (h : call.aspect ≠ .probe) :
    (l.apply call).probes = l.probes := by
  cases call <;> first | rfl | exact absurd rfl h

/-- The generation numbers that the relays report under. -/
def listeners (l : Ledger) : List (Option Nat) := l.relays.map RelayRecord.listener

@[simp] theorem length_listeners (l : Ledger) : l.listeners.length = l.relays.length :=
  List.length_map _

/-- A change of a relay's record that keeps its generation number keeps all of them. -/
theorem listeners_onRelay (l : Ledger) (relay : RelayId) {f : RelayRecord → RelayRecord}
    (hf : ∀ r, (f r).listener = r.listener) : (l.onRelay relay f).listeners = l.listeners := by
  apply List.ext_getElem?
  intro i
  simp only [listeners, onRelay, List.getElem?_map, List.getElem?_modify]
  cases l.relays[i]? with
  | none => rfl
  | some r => by_cases h : relay = i <;> simp [h, hf]

/-- Only calls about the roster change which relays there are and how they report. -/
theorem listeners_apply (l : Ledger) {call : Call} (h : call.aspect ≠ .roster) :
    (l.apply call).listeners = l.listeners := by
  cases call <;>
    first
    | rfl
    | exact absurd rfl h
    | exact l.listeners_onRelay _ fun _ => rfl

/-- A new relay has no number yet. -/
theorem listeners_createRelay (l : Ledger) :
    (l.apply .createRelay).listeners = l.listeners ++ [none] :=
  List.map_append

/-- A relay reports under the number that it was given last. -/
theorem listeners_listen (l : Ledger) (relay : RelayId) (generation : Nat) :
    (l.apply (.listen relay generation)).listeners = l.listeners.set relay (some generation) := by
  apply List.ext_getElem?
  intro i
  simp only [listeners, apply, onRelay, List.getElem?_map, List.getElem?_modify,
    List.getElem?_set, List.length_map]
  by_cases h : relay = i
  · subst h
    rcases Nat.lt_or_ge relay l.relays.length with hl | hl
    · simp [hl]
    · simp [Nat.not_lt.mpr hl]
  · simp [h]

end Ledger

/-- What was not called since was called before. -/
theorem suffix_of_not_mem {call : Call} {older calls more : List Call}
    (h : call :: older <:+ more ++ calls) (hm : call ∉ more) : call :: older <:+ calls := by
  induction more with
  | nil => exact h
  | cons first more ih =>
    rcases List.suffix_cons_iff.mp h with he | h
    · exact absurd (List.cons.inj he).1 fun hc => hm (hc ▸ List.mem_cons_self)
    · exact ih h fun hc => hm (List.mem_cons_of_mem _ hc)

/-- The event that a notice says is being handled. -/
def Notice.handled? : Notice → Option Posted
  | .handling posted => some posted
  | _ => none

namespace World

variable {σ : Type}

/-- Taking reports in keeps whatever taking one in keeps. -/
theorem foldl_deliver_induction {I : World σ → Prop} (hI : ∀ w report, I w → I (w.deliver report))
    (reports : List Report) {w : World σ} (h : I w) : I (reports.foldl deliver w) := by
  induction reports generalizing w with
  | nil => exact h
  | cons report reports ih => exact ih (hI w report h)

theorem calls_deliver (w : World σ) (report : Report) : (w.deliver report).calls = w.calls :=
  congrArg (·.map Moment.call) (w.deliver_frame report).2.2.1

variable [Surroundings σ]

@[simp] theorem calls_perform (w : World σ) (call : Call) :
    (w.perform call).calls = call :: w.calls := by
  rw [calls, history_perform]
  rfl

/-- The world right after a call, before the reports that the call provokes are taken in. -/
def entered (w : World σ) (call : Call) : World σ :=
  { w with
    scene := (Surroundings.react call w.scene).1
    ledger := w.ledger.apply call
    history := ⟨w.scene, w.reported, call⟩ :: w.history }

/-- A call is its entry into the books, followed by the reports that it provokes. -/
theorem perform_induction {I : World σ → Prop} (hI : ∀ w report, I w → I (w.deliver report))
    {w : World σ} {call : Call} (h : I (w.entered call)) : I (w.perform call) :=
  foldl_deliver_induction hI _ h

/-- What the tunnel may make of a world with calls of some aspects. -/
inductive Unfolds (aspects : List Aspect) (w : World σ) : World σ → Prop where
  /-- Nothing is done. -/
  | refl : Unfolds aspects w w
  /-- One more call is made. -/
  | perform {v : World σ} (h : Unfolds aspects w v) (call : Call)
      (hc : call.aspect ∈ aspects) : Unfolds aspects w (v.perform call)
  /-- One more notice is written. -/
  | note {v : World σ} (h : Unfolds aspects w v) (notice : Notice)
      (hn : notice.handled? = none) : Unfolds aspects w (v.note notice)
  /-- A result is posted for a candidate without a probe. -/
  | answer {v : World σ} (h : Unfolds aspects w v) (run index : Nat)
      (hp : .probe ∈ aspects) :
      Unfolds aspects w (v.post .tunnel (.probed false run index))

namespace Unfolds

variable {aspects others : List Aspect} {u v w : World σ}

/-- More aspects allow more. -/
theorem mono (h : w.Unfolds aspects v) (hs : aspects ⊆ others) : w.Unfolds others v := by
  induction h with
  | refl => exact .refl
  | perform _ call hc ih => exact ih.perform call (hs hc)
  | note _ notice hn ih => exact ih.note notice hn
  | answer _ run index hp ih => exact ih.answer run index (hs hp)

/-- One thing is done after the other. -/
theorem trans (h : w.Unfolds aspects v) (k : v.Unfolds aspects u) : w.Unfolds aspects u := by
  induction k with
  | refl => exact h
  | perform _ call hc ih => exact ih.perform call hc
  | note _ notice hn ih => exact ih.note notice hn
  | answer _ run index hp ih => exact ih.answer run index hp

/-- Something of fewer aspects is done after something else. -/
theorem andThen (h : w.Unfolds aspects v) (k : v.Unfolds others u)
    (hs : others ⊆ aspects) : w.Unfolds aspects u :=
  h.trans (k.mono hs)

/-- Several calls are made. -/
theorem performAll (h : w.Unfolds aspects v) (calls : List Call)
    (hc : ∀ call ∈ calls, call.aspect ∈ aspects) : w.Unfolds aspects (v.performAll calls) := by
  induction calls generalizing v with
  | nil => exact h
  | cons call calls ih =>
    refine ih (h.perform call (hc call List.mem_cons_self)) fun other hm => ?_
    exact hc other (List.mem_cons_of_mem _ hm)

/-- The calls that are made are added to those before, and are of these aspects. -/
theorem calls_append (h : w.Unfolds aspects v) :
    ∃ more : List Call, v.calls = more ++ w.calls ∧ ∀ call ∈ more, call.aspect ∈ aspects := by
  induction h with
  | refl => exact ⟨[], rfl, fun _ hm => absurd hm List.not_mem_nil⟩
  | perform _ call hc ih =>
    obtain ⟨more, he, hm⟩ := ih
    refine ⟨call :: more, by rw [calls_perform, he, List.cons_append], fun other ho => ?_⟩
    rcases List.mem_cons.mp ho with rfl | ho
    · exact hc
    · exact hm other ho
  | note _ _ _ ih => exact ih
  | answer _ _ _ _ ih => exact ih

/-- Whatever the calls of these aspects leave alone in the ledger is left alone. -/
theorem ledger_frame {α : Type} (view : Ledger → α)
    (hv : ∀ (l : Ledger) (call : Call), call.aspect ∈ aspects → view (l.apply call) = view l)
    (h : w.Unfolds aspects v) : view v.ledger = view w.ledger := by
  induction h with
  | refl => rfl
  | perform _ call hc ih => rw [ledger_perform, hv _ _ hc, ih]
  | note _ _ _ ih => exact ih
  | answer _ _ _ _ ih => exact ih

/-- What is read off calls of other aspects is not added to. -/
theorem filterMap_calls {α : Type} {f : Call → Option α}
    (hf : ∀ call, call.aspect ∈ aspects → f call = none) (h : w.Unfolds aspects v) :
    v.calls.filterMap f = w.calls.filterMap f := by
  induction h with
  | refl => rfl
  | perform _ call hc ih => rw [calls_perform, List.filterMap_cons_none (hf call hc), ih]
  | note _ _ _ ih => exact ih
  | answer _ _ _ _ ih => exact ih

theorem engine_eq (h : w.Unfolds aspects v) (ha : .settings ∉ aspects) :
    v.ledger.engine = w.ledger.engine :=
  h.ledger_frame Ledger.engine fun l _ hc => l.engine_apply fun he => ha (he ▸ hc)

theorem routing_eq (h : w.Unfolds aspects v) (ha : .routing ∉ aspects) :
    v.ledger.hook = w.ledger.hook ∧ v.ledger.media = w.ledger.media := by
  have hr := h.ledger_frame (fun l => (l.hook, l.media)) fun l _ hc =>
    Prod.ext_iff.mpr (l.routing_apply fun he => ha (he ▸ hc))
  exact Prod.ext_iff.mp hr

theorem probes_eq (h : w.Unfolds aspects v) (ha : .probe ∉ aspects) :
    v.ledger.probes = w.ledger.probes :=
  h.ledger_frame Ledger.probes fun l _ hc => l.probes_apply fun he => ha (he ▸ hc)

theorem listeners_eq (h : w.Unfolds aspects v) (ha : .roster ∉ aspects) :
    v.ledger.listeners = w.ledger.listeners :=
  h.ledger_frame Ledger.listeners fun l _ hc => l.listeners_apply fun he => ha (he ▸ hc)

theorem length_relays_eq (h : w.Unfolds aspects v) (ha : .roster ∉ aspects) :
    v.ledger.relays.length = w.ledger.relays.length := by
  rw [← Ledger.length_listeners, h.listeners_eq ha, Ledger.length_listeners]

end Unfolds

end World

end SipOverRelay
