import Mathlib.Data.List.Basic
import SipOverRelay.Probe.Course

/-!
# The runs of a probe client

What a client says and reports is compared with what has happened to it, oldest happening first. A
run is under way from its start until it completes or the owner does anything at all: stopping and
giving up cancel it, and so does the start of the next run. Each run meets one of these ends at
most. It reports if it completes first, and if it is cut off first it never does anything again,
since a run that was cancelled cannot complete. The state of the client is the fate of the latest
run.
-/

namespace SipOverRelay

namespace ProbeHappening

/-- Whether the owner does something. -/
def isRequest : ProbeHappening → Bool
  | .complete _ _ => false
  | _ => true

/-- Whether the owner ends what is under way and begins nothing new. -/
def isStop : ProbeHappening → Bool
  | .stop | .drop => true
  | _ => false

end ProbeHappening

namespace ProbeClient

/-! ### What has happened to a run -/

/-- How many runs were started. -/
def begun (past : List ProbeHappening) : Nat := past.count .start

/-- A run is under way: it was started, and neither has the owner done anything since nor has the
run completed. -/
def UnderWay (past : List ProbeHappening) (run : Nat) : Prop :=
  ∃ before since, past = before ++ .start :: since ∧ begun before = run ∧
    ∀ happening ∈ since, happening.isRequest = false ∧
      ∀ reachable, happening ≠ .complete run reachable

/-- A run met such a happening while it was under way. -/
def Met (p : ProbeHappening → Prop) (past : List ProbeHappening) (run : Nat) : Prop :=
  ∃ before happening after, past = before ++ happening :: after ∧ UnderWay before run ∧ p happening

/-- A run completed while it was under way. -/
def Completed (past : List ProbeHappening) (run : Nat) (reachable : Bool) : Prop :=
  Met (· = .complete run reachable) past run

/-- A run was stopped while it was under way, or the client given up. -/
def Stopped (past : List ProbeHappening) (run : Nat) : Prop := Met (·.isStop = true) past run

/-- A run was cut off while it was under way: stopped, given up or overtaken by the next run. -/
def CutOff (past : List ProbeHappening) (run : Nat) : Prop := Met (·.isRequest = true) past run

theorem begun_append (past more : List ProbeHappening) :
    begun (past ++ more) = begun past + begun more := List.count_append

theorem begun_append_start (past : List ProbeHappening) :
    begun (past ++ [.start]) = begun past + 1 := begun_append _ _

theorem begun_append_of_ne {happening : ProbeHappening} (h : happening ≠ .start)
    (past : List ProbeHappening) : begun (past ++ [happening]) = begun past := by
  rw [begun_append, begun, begun, List.count_singleton, if_neg (by simpa using h), Nat.add_zero]

variable {past : List ProbeHappening} {happening : ProbeHappening} {run : Nat}
  {p : ProbeHappening → Prop}

/-- The moments of a past that has grown are its last one and those of the past before. -/
theorem append_singleton_eq_iff {before after : List ProbeHappening} {other : ProbeHappening} :
    past ++ [happening] = before ++ other :: after ↔
      before = past ∧ other = happening ∧ after = [] ∨
        ∃ middle, after = middle ++ [happening] ∧ past = before ++ other :: middle := by
  constructor
  · intro h
    rcases List.eq_nil_or_concat after with rfl | ⟨middle, last, rfl⟩
    · obtain ⟨rfl, hlast⟩ := List.append_inj' h rfl
      exact .inl ⟨rfl, (List.singleton_inj.mp hlast).symm, rfl⟩
    · rw [List.concat_eq_append, ← List.cons_append, ← List.append_assoc] at h
      obtain ⟨rfl, hlast⟩ := List.append_inj' h rfl
      rw [List.concat_eq_append, List.singleton_inj.mp hlast]
      exact .inr ⟨middle, rfl, rfl⟩
  · rintro (⟨rfl, rfl, rfl⟩ | ⟨middle, rfl, rfl⟩)
    · rfl
    · simp

/-- Nothing is under way at first. -/
theorem not_underWay_nil (run : Nat) : ¬UnderWay [] run := by
  rintro ⟨before, since, h, -⟩
  simp at h

/-- A run is under way after one more happening if this starts it, or if it was under way and this
does not end it. -/
theorem underWay_append_singleton : UnderWay (past ++ [happening]) run ↔
    happening = .start ∧ begun past = run ∨
      UnderWay past run ∧ happening.isRequest = false ∧
        ∀ reachable, happening ≠ .complete run reachable := by
  constructor
  · rintro ⟨before, since, h, hrun, hsince⟩
    rcases append_singleton_eq_iff.mp h with ⟨rfl, hlast, rfl⟩ | ⟨middle, rfl, rfl⟩
    · exact .inl ⟨hlast.symm, hrun⟩
    · rw [List.forall_mem_append, List.forall_mem_singleton] at hsince
      exact .inr ⟨⟨before, middle, rfl, hrun, hsince.1⟩, hsince.2⟩
  · rintro (⟨rfl, hrun⟩ | ⟨⟨before, since, rfl, hrun, hsince⟩, hlast⟩)
    · exact ⟨past, [], rfl, hrun, List.forall_mem_nil _⟩
    · refine ⟨before, since ++ [happening], by simp, hrun, ?_⟩
      rw [List.forall_mem_append, List.forall_mem_singleton]
      exact ⟨hsince, hlast⟩

/-- No run has met anything at first. -/
theorem not_met_nil (p : ProbeHappening → Prop) (run : Nat) : ¬Met p [] run := by
  rintro ⟨before, happening, after, h, -⟩
  simp at h

/-- A run met something if it had done so before or was under way when it happened. -/
theorem met_append_singleton :
    Met p (past ++ [happening]) run ↔ Met p past run ∨ UnderWay past run ∧ p happening := by
  constructor
  · rintro ⟨before, other, after, h, hunder, hp⟩
    rcases append_singleton_eq_iff.mp h with ⟨rfl, rfl, rfl⟩ | ⟨middle, rfl, rfl⟩
    · exact .inr ⟨hunder, hp⟩
    · exact .inl ⟨before, other, middle, rfl, hunder, hp⟩
  · rintro (⟨before, other, after, rfl, hunder, hp⟩ | ⟨hunder, hp⟩)
    · exact ⟨before, other, after ++ [happening], by simp, hunder, hp⟩
    · exact ⟨past, happening, [], rfl, hunder, hp⟩

/-- What does not count changes nothing. -/
theorem met_append_of_not (hp : ¬p happening) :
    Met p (past ++ [happening]) run ↔ Met p past run := by
  rw [met_append_singleton, or_iff_left fun h => hp h.2]

/-- What a run has met it has met for ever. -/
theorem Met.append (h : Met p past run) (later : List ProbeHappening) :
    Met p (past ++ later) run := by
  obtain ⟨before, happening, after, rfl, hunder, hp⟩ := h
  exact ⟨before, happening, after ++ later, by simp, hunder, hp⟩

/-- The run that is under way is the latest one. -/
theorem UnderWay.latest (h : UnderWay past run) : run + 1 = begun past := by
  obtain ⟨before, since, rfl, rfl, hsince⟩ := h
  have hnone : since.count .start = 0 :=
    List.count_eq_zero.mpr fun hstart => Bool.noConfusion (hsince _ hstart).1
  rw [begun, begun, List.count_append, List.count_cons_self, hnone]

/-- Only runs that were started meet anything. -/
theorem Met.lt (h : Met p past run) : run < begun past := by
  obtain ⟨before, happening, after, rfl, hunder, -⟩ := h
  have hlatest := hunder.latest
  rw [begun_append]
  omega

/-- A run that was just started has met nothing yet. -/
theorem not_met_append_start (hrun : run + 1 = begun (past ++ [.start])) :
    ¬Met p (past ++ [.start]) run := by
  rw [begun_append_start, Nat.add_right_cancel_iff] at hrun
  intro hmet
  rcases met_append_singleton.mp hmet with hmet | ⟨hunder, -⟩
  · have hlt := hmet.lt
    omega
  · have hlatest := hunder.latest
    omega

/-- When the owner stops or gives the client up nothing is under way any more. -/
theorem not_underWay_of_isStop (h : happening.isStop = true) (run : Nat) :
    ¬UnderWay (past ++ [happening]) run := by
  rw [underWay_append_singleton]
  cases happening <;> simp_all [ProbeHappening.isStop, ProbeHappening.isRequest]

theorem underWay_append_start : UnderWay (past ++ [.start]) run ↔ begun past = run := by
  simp [underWay_append_singleton, ProbeHappening.isRequest]

section Completing

variable {other : Nat} {reachable found : Bool}

theorem begun_append_complete : begun (past ++ [.complete run reachable]) = begun past :=
  begun_append_of_ne (by simp) past

theorem underWay_append_complete :
    UnderWay (past ++ [.complete run reachable]) other ↔ UnderWay past other ∧ run ≠ other := by
  simp only [underWay_append_singleton, reduceCtorEq, false_and, false_or,
    ProbeHappening.isRequest, true_and, ne_eq, ProbeHappening.complete.injEq, not_and]
  refine and_congr_right fun _ => ⟨fun h he => ?_, fun h _ he => absurd he h⟩
  exact h reachable he rfl

theorem completed_append_complete :
    Completed (past ++ [.complete run reachable]) other found ↔
      Completed past other found ∨ UnderWay past run ∧ other = run ∧ found = reachable := by
  rw [Completed, met_append_singleton, ProbeHappening.complete.injEq]
  refine or_congr_right ⟨?_, ?_⟩ <;>
    exact fun ⟨hunder, hrun, hfound⟩ => ⟨hrun ▸ hunder, hrun.symm, hfound.symm⟩

theorem stopped_append_complete :
    Stopped (past ++ [.complete run reachable]) other ↔ Stopped past other :=
  met_append_of_not (by simp [ProbeHappening.isStop])

theorem cutOff_append_complete :
    CutOff (past ++ [.complete run reachable]) other ↔ CutOff past other :=
  met_append_of_not (by simp [ProbeHappening.isRequest])

end Completing

/-! ### What the client does with its runs -/

variable {c : ProbeClient}

theorem isCompleted_iff :
    c.isCompleted run = true ↔ run ∈ c.reports.map Prod.fst := by
  simp only [isCompleted, List.any_eq_true, decide_eq_true_eq, List.mem_map]

/-- A run can complete if it was started, was not cancelled and has not reported. -/
theorem isLive_iff : c.isLive run = true ↔
    run < c.started ∧ run ∉ c.cancelled ∧ run ∉ c.reports.map Prod.fst := by
  rw [← isCompleted_iff]
  simp [isLive, and_assoc]

theorem mem_cancelled_stop :
    run ∈ c.stop.cancelled ↔ c.handle = some run ∨ run ∈ c.cancelled := by
  simp [stop, eq_comm]

theorem state_stop_ne_probing : c.stop.state ≠ .probing := by
  cases h : c.state <;> simp [stop, h]

theorem state_stop_eq_done_iff : c.stop.state = .done ↔ c.state = .done := by
  cases h : c.state <;> simp [stop, h]

theorem state_stop_eq_idle_iff : c.stop.state = .idle ↔ c.state = .probing ∨ c.state = .idle := by
  cases h : c.state <;> simp [stop, h]

@[simp] theorem state_start : c.start.state = .probing := rfl

@[simp] theorem handle_start : c.start.handle = some c.started := by
  unfold start
  split <;> rfl

@[simp] theorem started_start : c.start.started = c.started + 1 := by
  unfold start
  split <;> rfl

@[simp] theorem reports_start : c.start.reports = c.reports := by
  unfold start
  split <;> rfl

theorem mem_cancelled_start : run ∈ c.start.cancelled ↔
    c.state = .probing ∧ c.handle = some run ∨ run ∈ c.cancelled := by
  unfold start
  split
  · next h =>
    simp only [h, true_and]
    exact mem_cancelled_stop
  · next h => simp [h]

theorem complete_of_isLive (h : c.isLive run = true) (reachable : Bool) :
    c.complete run reachable =
      { c with state := .done, reports := (run, reachable) :: c.reports } := if_pos h

theorem complete_of_not_isLive (h : ¬c.isLive run = true) (reachable : Bool) :
    c.complete run reachable = c := if_neg h

/-! ### The client and its past -/

/-- A client is as its past says. -/
structure Follows (past : List ProbeHappening) (c : ProbeClient) : Prop where
  /-- It counts its runs. -/
  started : c.started = begun past
  /-- The run that is under way can complete, and no other can. -/
  live_iff (run : Nat) : c.isLive run = true ↔ UnderWay past run
  /-- It can be cancelled. -/
  handle_of_underWay {run : Nat} (h : UnderWay past run) : c.handle = some run
  /-- Only runs that were started can be cancelled. -/
  handle_lt {run : Nat} (h : c.handle = some run) : run < begun past
  /-- Only runs that were started were cancelled. -/
  cancelled_lt {run : Nat} (h : run ∈ c.cancelled) : run < begun past
  /-- A run that was cut off was cancelled before it could complete. -/
  cutOff {run : Nat} (h : CutOff past run) : run ∈ c.cancelled ∧ run ∉ c.reports.map Prod.fst
  /-- The runs that completed have reported, and no others have. -/
  mem_reports_iff (run : Nat) (reachable : Bool) :
    (run, reachable) ∈ c.reports ↔ Completed past run reachable
  /-- No run has reported twice. -/
  nodup : (c.reports.map Prod.fst).Nodup
  /-- The client probes while a run is under way. -/
  probing_iff : c.state = .probing ↔ ∃ run, UnderWay past run
  /-- It is done when the latest run has completed. -/
  done_iff : c.state = .done ↔
    ∃ run reachable, run + 1 = begun past ∧ Completed past run reachable
  /-- It is idle when there is no run or the latest was stopped. -/
  idle_iff : c.state = .idle ↔ begun past = 0 ∨ ∃ run, run + 1 = begun past ∧ Stopped past run

namespace Follows

/-- A new client has no past. -/
theorem new {server : Server} (h : ProbeClient.new server = .ok c) : Follows [] c := by
  unfold ProbeClient.new at h
  split at h
  · cases h
    exact
      { started := rfl
        live_iff := fun run => by simp [isLive, not_underWay_nil]
        handle_of_underWay := fun h => absurd h (not_underWay_nil _)
        handle_lt := fun h => nomatch h
        cancelled_lt := fun h => nomatch h
        cutOff := fun h => absurd h (not_met_nil _ _)
        mem_reports_iff := fun run reachable => by simp [Completed, not_met_nil]
        nodup := List.nodup_nil
        probing_iff := by simp [not_underWay_nil]
        done_iff := by simp [Completed, not_met_nil]
        idle_iff := by simp [begun] }
  · cases h

/-- Only runs that were started have reported. -/
theorem reports_lt (h : Follows past c) (hr : run ∈ c.reports.map Prod.fst) :
    run < begun past := by
  obtain ⟨report, hreport, rfl⟩ := List.mem_map.mp hr
  exact ((h.mem_reports_iff report.1 report.2).mp hreport).lt

theorem start (h : Follows past c) : Follows (past ++ [.start]) c.start where
  started := by rw [started_start, h.started, begun_append]; rfl
  live_iff run := by
    rw [underWay_append_start, isLive_iff, started_start, reports_start, mem_cancelled_start,
      h.started]
    constructor
    · rintro ⟨hlt, hcancelled, hreports⟩
      -- An earlier run would have been under way, and would be cancelled now.
      by_contra hne
      have hlive : c.isLive run = true :=
        isLive_iff.mpr ⟨by rw [h.started]; omega, fun hc => hcancelled (.inr hc), hreports⟩
      have hunder := (h.live_iff run).mp hlive
      exact hcancelled (.inl ⟨h.probing_iff.mpr ⟨run, hunder⟩, h.handle_of_underWay hunder⟩)
    · rintro rfl
      refine ⟨Nat.lt_succ_self _, ?_, fun hr => absurd (h.reports_lt hr) (Nat.lt_irrefl _)⟩
      rintro (⟨-, hh⟩ | hc)
      · exact absurd (h.handle_lt hh) (Nat.lt_irrefl _)
      · exact absurd (h.cancelled_lt hc) (Nat.lt_irrefl _)
  handle_of_underWay hunder := by
    rw [handle_start, h.started, underWay_append_start.mp hunder]
  handle_lt hh := by
    rw [handle_start, Option.some.injEq, h.started] at hh
    rw [← hh, begun_append]
    exact Nat.lt_succ_self _
  cancelled_lt hc := by
    rw [begun_append]
    refine Nat.lt_succ_of_lt ?_
    rcases mem_cancelled_start.mp hc with ⟨-, hh⟩ | hc
    · exact h.handle_lt hh
    · exact h.cancelled_lt hc
  cutOff hcut := by
    rw [mem_cancelled_start, reports_start]
    rcases met_append_singleton.mp hcut with hcut | ⟨hunder, -⟩
    · exact ⟨.inr (h.cutOff hcut).1, (h.cutOff hcut).2⟩
    · exact ⟨.inl ⟨h.probing_iff.mpr ⟨_, hunder⟩, h.handle_of_underWay hunder⟩,
        (isLive_iff.mp ((h.live_iff _).mpr hunder)).2.2⟩
  mem_reports_iff run reachable := by
    rw [reports_start, h.mem_reports_iff, Completed, Completed, met_append_singleton]
    simp
  nodup := by rw [reports_start]; exact h.nodup
  probing_iff := by
    simp only [state_start, true_iff]
    exact ⟨_, underWay_append_start.mpr rfl⟩
  done_iff := by
    simp only [state_start, reduceCtorEq, false_iff]
    rintro ⟨run, reachable, hrun, hcompleted⟩
    exact not_met_append_start hrun hcompleted
  idle_iff := by
    simp only [state_start, reduceCtorEq, false_iff]
    rintro (hnone | ⟨run, hrun, hstopped⟩)
    · rw [begun_append_start] at hnone
      exact absurd hnone (Nat.succ_ne_zero _)
    · exact not_met_append_start hrun hstopped

theorem stop (h : Follows past c) (hs : happening.isStop = true) :
    Follows (past ++ [happening]) c.stop := by
  have hnot (run : Nat) : ¬UnderWay (past ++ [happening]) run := not_underWay_of_isStop hs run
  have hbegun : begun (past ++ [happening]) = begun past :=
    begun_append_of_ne (fun he => by rw [he] at hs; cases hs) past
  have hcompleted (run : Nat) (reachable : Bool) :
      Completed (past ++ [happening]) run reachable ↔ Completed past run reachable :=
    met_append_of_not fun he => by rw [he] at hs; cases hs
  exact
    { started := h.started.trans hbegun.symm
      live_iff := fun run => by
        refine iff_of_false (fun hlive => ?_) (hnot run)
        -- What was under way is cancelled now.
        obtain ⟨hlt, hcancelled, hreports⟩ := isLive_iff.mp hlive
        rw [mem_cancelled_stop, not_or] at hcancelled
        have hunder := (h.live_iff run).mp (isLive_iff.mpr ⟨hlt, hcancelled.2, hreports⟩)
        exact hcancelled.1 (h.handle_of_underWay hunder)
      handle_of_underWay := fun hunder => absurd hunder (hnot _)
      handle_lt := fun hh => nomatch hh
      cancelled_lt := fun hc => by
        rw [hbegun]
        rcases mem_cancelled_stop.mp hc with hh | hc
        · exact h.handle_lt hh
        · exact h.cancelled_lt hc
      cutOff := fun hcut => by
        rw [mem_cancelled_stop]
        rcases met_append_singleton.mp hcut with hcut | ⟨hunder, -⟩
        · exact ⟨.inr (h.cutOff hcut).1, (h.cutOff hcut).2⟩
        · exact ⟨.inl (h.handle_of_underWay hunder),
            (isLive_iff.mp ((h.live_iff _).mpr hunder)).2.2⟩
      mem_reports_iff := fun run reachable => by
        rw [hcompleted]
        exact h.mem_reports_iff run reachable
      nodup := h.nodup
      probing_iff :=
        iff_of_false state_stop_ne_probing fun ⟨run, hunder⟩ => hnot run hunder
      done_iff := by
        simp only [hcompleted, hbegun]
        exact state_stop_eq_done_iff.trans h.done_iff
      idle_iff := by
        rw [state_stop_eq_idle_iff, h.probing_iff, h.idle_iff, hbegun]
        simp only [Stopped, met_append_singleton, hs, and_true]
        constructor
        · rintro (⟨run, hunder⟩ | hnone | ⟨run, hrun, hstopped⟩)
          · exact .inr ⟨run, hunder.latest, .inr hunder⟩
          · exact .inl hnone
          · exact .inr ⟨run, hrun, .inl hstopped⟩
        · rintro (hnone | ⟨run, hrun, hstopped | hunder⟩)
          · exact .inr (.inl hnone)
          · exact .inr (.inr ⟨run, hrun, hstopped⟩)
          · exact .inl ⟨run, hunder⟩ }

/-- A run that is under way completes. -/
theorem complete_of_underWay (h : Follows past c) (hunder : UnderWay past run)
    (reachable : Bool) :
    Follows (past ++ [.complete run reachable]) (c.complete run reachable) := by
  have hlive := (h.live_iff run).mpr hunder
  obtain ⟨-, hcancelled, hreports⟩ := isLive_iff.mp hlive
  rw [complete_of_isLive hlive]
  exact
    { started := h.started.trans begun_append_complete.symm
      live_iff := fun other => by
        rw [underWay_append_complete, ← h.live_iff, isLive_iff, isLive_iff]
        simp only [List.map_cons, List.mem_cons, not_or, and_assoc, ne_comm]
        tauto
      handle_of_underWay := fun hother =>
        h.handle_of_underWay (underWay_append_complete.mp hother).1
      handle_lt := fun hh => Nat.lt_of_lt_of_eq (h.handle_lt hh) begun_append_complete.symm
      cancelled_lt := fun hc => Nat.lt_of_lt_of_eq (h.cancelled_lt hc) begun_append_complete.symm
      cutOff := fun hcut => by
        obtain ⟨hother, hnot⟩ := h.cutOff (cutOff_append_complete.mp hcut)
        refine ⟨hother, ?_⟩
        rw [List.map_cons, List.mem_cons, not_or]
        refine ⟨?_, hnot⟩
        rintro rfl
        exact hcancelled hother
      mem_reports_iff := fun other found => by
        rw [completed_append_complete, List.mem_cons, h.mem_reports_iff, or_comm, Prod.mk.injEq,
          and_iff_right hunder]
      nodup := by
        rw [List.map_cons, List.nodup_cons]
        exact ⟨hreports, h.nodup⟩
      probing_iff := by
        refine iff_of_false (by simp) fun ⟨other, hother⟩ => ?_
        obtain ⟨hother, hne⟩ := underWay_append_complete.mp hother
        have hlatest := hunder.latest
        have hlatest' := hother.latest
        omega
      done_iff := by
        simp only [true_iff, begun_append_complete]
        exact ⟨run, reachable, hunder.latest,
          completed_append_complete.mpr (.inr ⟨hunder, rfl, rfl⟩)⟩
      idle_iff := by
        have hprobing := h.probing_iff.mpr ⟨run, hunder⟩
        simp only [begun_append_complete, stopped_append_complete]
        rw [← h.idle_iff, hprobing]
        simp }

/-- A run that is not under way does not do anything any more. -/
theorem complete_of_not_underWay (h : Follows past c) (hunder : ¬UnderWay past run)
    (reachable : Bool) :
    Follows (past ++ [.complete run reachable]) (c.complete run reachable) := by
  have hway (other : Nat) :
      UnderWay (past ++ [.complete run reachable]) other ↔ UnderWay past other := by
    rw [underWay_append_complete, and_iff_left_iff_imp]
    rintro hother rfl
    exact hunder hother
  have hcompleted (other : Nat) (found : Bool) :
      Completed (past ++ [.complete run reachable]) other found ↔ Completed past other found := by
    rw [completed_append_complete, or_iff_left fun hnow => hunder hnow.1]
  rw [complete_of_not_isLive fun hlive => hunder ((h.live_iff run).mp hlive)]
  exact
    { started := h.started.trans begun_append_complete.symm
      live_iff := fun other => (h.live_iff other).trans (hway other).symm
      handle_of_underWay := fun hother => h.handle_of_underWay ((hway _).mp hother)
      handle_lt := fun hh => Nat.lt_of_lt_of_eq (h.handle_lt hh) begun_append_complete.symm
      cancelled_lt := fun hc => Nat.lt_of_lt_of_eq (h.cancelled_lt hc) begun_append_complete.symm
      cutOff := fun hcut => h.cutOff (cutOff_append_complete.mp hcut)
      mem_reports_iff := fun other found =>
        (h.mem_reports_iff other found).trans (hcompleted other found).symm
      nodup := h.nodup
      probing_iff := by
        simp only [hway]
        exact h.probing_iff
      done_iff := by
        simp only [begun_append_complete, hcompleted]
        exact h.done_iff
      idle_iff := by
        simp only [begun_append_complete, stopped_append_complete]
        exact h.idle_iff }

theorem meet (h : Follows past c) (happening : ProbeHappening) :
    Follows (past ++ [happening]) (c.meet happening) := by
  cases happening with
  | start => exact h.start
  | stop => exact h.stop rfl
  | drop => exact h.stop rfl
  | complete run reachable =>
    by_cases hunder : UnderWay past run
    · exact h.complete_of_underWay hunder reachable
    · exact h.complete_of_not_underWay hunder reachable

theorem after (h : Follows past c) (later : List ProbeHappening) :
    Follows (past ++ later) (c.after later) := by
  induction later generalizing past c with
  | nil => rwa [List.append_nil]
  | cons happening later ih =>
    rw [List.append_cons]
    exact ih (h.meet happening)

/-- A run that was cut off can complete no more. -/
theorem complete_of_cutOff (h : Follows past c) (hcut : CutOff past run)
    (reachable : Bool) : c.complete run reachable = c :=
  complete_of_not_isLive (fun hlive => (isLive_iff.mp hlive).2.1 (h.cutOff hcut).1) reachable

/-- The client probes while the latest run has met neither of its ends. -/
theorem probing_iff_latest (h : Follows past c) :
    c.state = .probing ↔ ∃ run, run + 1 = begun past ∧
      (∀ reachable, ¬Completed past run reachable) ∧ ¬Stopped past run := by
  constructor
  · intro hstate
    obtain ⟨run, hunder⟩ := h.probing_iff.mp hstate
    refine ⟨run, hunder.latest, fun reachable hcompleted => ?_, fun hstopped => ?_⟩
    · have hdone := h.done_iff.mpr ⟨run, reachable, hunder.latest, hcompleted⟩
      rw [hstate] at hdone
      cases hdone
    · have hidle := h.idle_iff.mpr (.inr ⟨run, hunder.latest, hstopped⟩)
      rw [hstate] at hidle
      cases hidle
  · rintro ⟨run, hrun, hcompleted, hstopped⟩
    cases hstate : c.state with
    | probing => rfl
    | done =>
      obtain ⟨other, reachable, hother, hdone⟩ := h.done_iff.mp hstate
      obtain rfl : other = run := by omega
      exact absurd hdone (hcompleted reachable)
    | idle =>
      rcases h.idle_iff.mp hstate with hnone | ⟨other, hother, hidle⟩
      · omega
      · obtain rfl : other = run := by omega
        exact absurd hidle hstopped

end Follows

/-- Each run of a client reports at most once, and exactly if it completes before the owner does
anything else. A run that is cut off before that does nothing ever after. The client probes while
its latest run is neither completed nor stopped, is done once the latest run has completed, and is
idle before the first run and after the latest was stopped. -/
theorem runs_report_once_or_never {server : Server} {client : ProbeClient}
    (h : ProbeClient.new server = .ok client) (past : List ProbeHappening) :
    let c := client.after past
    (c.reports.map Prod.fst).Nodup ∧
      (∀ run reachable, (run, reachable) ∈ c.reports ↔ Completed past run reachable) ∧
      (∀ run, CutOff past run → ∀ later reachable,
        run ∉ (client.after (past ++ later)).reports.map Prod.fst ∧
          (client.after (past ++ later)).complete run reachable = client.after (past ++ later)) ∧
      (c.state = .probing ↔ ∃ run, run + 1 = begun past ∧
        (∀ reachable, ¬Completed past run reachable) ∧ ¬Stopped past run) ∧
      (c.state = .done ↔ ∃ run reachable, run + 1 = begun past ∧ Completed past run reachable) ∧
      (c.state = .idle ↔ begun past = 0 ∨ ∃ run, run + 1 = begun past ∧ Stopped past run) := by
  intro c
  have hfollows (past : List ProbeHappening) : Follows past (client.after past) :=
    (Follows.new h).after past
  have hnow : Follows past c := hfollows past
  refine ⟨hnow.nodup, hnow.mem_reports_iff, fun run hcut later reachable => ?_,
    hnow.probing_iff_latest, hnow.done_iff, hnow.idle_iff⟩
  have hcut := hcut.append later
  exact ⟨((hfollows _).cutOff hcut).2, (hfollows _).complete_of_cutOff hcut reachable⟩

/-- A client for a reflector. -/
def patient : ProbeClient where
  target := "a:2"
  delay := 250

/-- The first run is overtaken, the second completes and the third is given up; all of them come to
their end once more when it is too late. -/
def crowded : List ProbeHappening :=
  [.start, .start, .complete 0 true, .complete 1 false, .complete 1 true, .stop, .start,
    .complete 0 true, .drop, .complete 2 true]

/-- Only the second run reports, and only once. -/
theorem overtaken_run_never_reports :
    ProbeClient.new ⟨"a", 1, some ⟨2, 250⟩⟩ = .ok patient ∧
      (patient.after crowded).reports = [(1, false)] ∧ Completed crowded 1 false ∧
      (∀ later, 0 ∉ (patient.after (crowded ++ later)).reports.map Prod.fst) ∧
      (patient.after crowded).state = .idle ∧
      ∃ run, run + 1 = begun crowded ∧ Stopped crowded run := by
  have hnew : ProbeClient.new ⟨"a", 1, some ⟨2, 250⟩⟩ = .ok patient := rfl
  obtain ⟨-, hreports, hcut, -, -, hidle⟩ := runs_report_once_or_never hnew crowded
  have hovertaken : CutOff crowded 0 :=
    ⟨[.start], .start, _, rfl, ⟨[], [], rfl, rfl, by simp⟩, rfl⟩
  exact ⟨hnew, by decide, (hreports 1 false).mp (by decide),
    fun later => (hcut 0 hovertaken later true).1, by decide,
    (hidle.mp (by decide)).resolve_left (by decide)⟩

end ProbeClient

end SipOverRelay
