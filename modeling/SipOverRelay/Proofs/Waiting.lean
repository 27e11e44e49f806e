import Mathlib.Data.Nat.Find
import Mathlib.Logic.Function.Iterate
import SipOverRelay.Proofs.Unfolding

/-!
# Waiting for input

The emulated wait for input goes in rounds. A round looks at the stream, then at the clock, and then
asks the native wait about the control descriptor; each of the three may end the wait, in this
order. What the surroundings do meanwhile is unknown, so the rounds of a wait are any sequence of
what can be met. The outcome is that of the first round that ends the wait, and no round before it
leaves a trace in it.
-/

namespace SipOverRelay

/-- How long and for what a call waits for descriptors, if it is a native wait. -/
def Call.awaited? : Call → Option (Option Micros × Interest)
  | .await timeout sets => some (timeout, sets)
  | _ => none

/-- All native waits, newest first. -/
def World.awaits {σ : Type} (w : World σ) : List (Option Micros × Interest) :=
  w.calls.filterMap Call.awaited?

/-- What a round of a wait meets. Times are counted from the beginning of the wait; what comes after
a round that ends the wait is what would be met if it went on. -/
structure Round where
  /-- Whether the stream has data. -/
  pending : Bool
  /-- The time when the round begins. -/
  begun : Micros
  /-- The time that the clock shows. -/
  elapsed : Micros
  /-- What the native wait answers. -/
  answer : Except Failure Nat
  /-- The sets that the native wait leaves. -/
  left : Interest
  /-- The time when the native wait has answered. -/
  answered : Micros
  /-- The time when the next round begins. -/
  ended : Micros

namespace Round

variable (hook : Hook) (limit : Micros) (r : Round)

/-- How long the native wait may take: a slice, or what is left of the time if that is less. -/
def slice : Micros := min hook.slice (limit - r.elapsed)

/-- How many descriptors the native wait finds ready; none if it fails. -/
def ready : Nat :=
  match r.answer with
  | .ok count => count
  | .error _ => 0

/-- The native wait is cut short by a signal. -/
def isInterrupted : Bool :=
  match r.answer with
  | .ok _ => false
  | .error why => why.kind = .interrupted

/-- The native wait fails, and not because of a signal. -/
def fails : Bool :=
  match r.answer with
  | .ok _ => false
  | .error why => why.kind ≠ .interrupted

/-- The round comes to the native wait: the stream has no data and there is time left. -/
def Asks : Prop := r.pending = false ∧ r.elapsed < limit

/-- The round does not end the wait. -/
def IsQuiet : Prop := r.Asks limit ∧ r.ready = 0

instance : Decidable (r.Asks limit) := inferInstanceAs (Decidable (_ ∧ _))

instance : Decidable (r.IsQuiet limit) := inferInstanceAs (Decidable (_ ∧ _))

/-- The round ends the wait, with so many descriptors and with this set of those to read from. -/
inductive Ends : Nat → Option Descriptors → Prop where
  /-- The stream has data: the descriptor that the engine reads from counts as ready. -/
  | data (h : r.pending = true) : Ends 1 (some ⟨[hook.nativeSocket]⟩)
  /-- The time is up: no descriptor counts as ready, and yet both are given, the one that the engine
  reads from in front. -/
  | late (h : r.pending = false) (hl : limit ≤ r.elapsed) :
    Ends 0 (some ⟨if hook.controlSocket = hook.nativeSocket then [hook.nativeSocket]
      else [hook.nativeSocket, hook.controlSocket]⟩)
  /-- The native wait finds descriptors ready: they are given as they come. -/
  | native (h : r.Asks limit) (count : Nat) (hc : 0 < count) (ha : r.answer = .ok count) :
    Ends count r.left.read

variable {hook limit r}

/-- A round that is not quiet ends the wait. -/
theorem isQuiet_or_ends : r.IsQuiet limit ∨ ∃ count read, r.Ends hook limit count read := by
  cases hp : r.pending with
  | true => exact .inr ⟨_, _, .data hp⟩
  | false =>
    rcases Nat.lt_or_ge r.elapsed limit with hl | hl
    · cases ha : r.answer with
      | error why => exact .inl ⟨⟨hp, hl⟩, by rw [ready, ha]⟩
      | ok count =>
        rcases Nat.eq_zero_or_pos count with hc | hc
        · exact .inl ⟨⟨hp, hl⟩, by rw [ready, ha, hc]⟩
        · exact .inr ⟨_, _, .native ⟨hp, hl⟩ count hc ha⟩
    · exact .inr ⟨_, _, .late hp hl⟩

/-- Unless all rounds are quiet, the first one that is not ends the wait. -/
theorem exists_first {script : Nat → Round} {rounds : Nat}
    (h : ¬ ∀ m < rounds, (script m).IsQuiet limit) :
    ∃ n < rounds, (∀ m < n, (script m).IsQuiet limit) ∧
      ∃ count read, (script n).Ends hook limit count read := by
  have hex : ∃ n < rounds, ¬ (script n).IsQuiet limit := by simpa using h
  obtain ⟨hn, hnot⟩ := Nat.find_spec hex
  refine ⟨Nat.find hex, hn, fun m hm => ?_, isQuiet_or_ends.resolve_left hnot⟩
  exact Decidable.byContradiction fun hm' => Nat.find_min hex hm ⟨Nat.lt_trans hm hn, hm'⟩

/-- Rounds follow one another as those of a wait do. -/
structure Fits (script : Nat → Round) : Prop where
  /-- The first round begins with the wait. -/
  begun_zero : (script 0).begun = 0
  /-- Every other one begins when the one before has ended. -/
  begun_succ : ∀ n, (script (n + 1)).begun = (script n).ended
  /-- Unless the native wait fails the round ends with it. -/
  ended_eq : ∀ n, ¬ (script n).fails → (script n).ended = (script n).answered

end Round

namespace Hook

variable {σ : Type} [Surroundings σ] (hook : Hook) (signaling : Option StreamId)
  (start limit : Micros)

/-- The time since the beginning of a wait. -/
def since (w : World σ) : Micros := Surroundings.clock w.scene - start

/-- The world after a look at the clock. -/
def looked (w : World σ) : World σ := w.perform .readClock

/-- How long the native wait may take in a round that begins in this world. -/
def sliceIn (w : World σ) : Micros := min hook.slice (limit - since start (looked w))

/-- What the native wait answers in a round that begins in this world. -/
def answerIn (w : World σ) : Except Failure Nat × Interest :=
  Surroundings.awaitAnswer (looked w).scene (some (hook.sliceIn start limit w))
    (.reading [hook.controlSocket])

/-- The world after the native wait of a round that begins in this world. -/
def asked (w : World σ) : World σ :=
  (looked w).perform (.await (some (hook.sliceIn start limit w)) (.reading [hook.controlSocket]))

/-- The world after a round that begins in this world and does not end the wait. -/
def goOn (w : World σ) : World σ :=
  match (hook.answerIn start limit w).1 with
  | .ok _ => hook.asked start limit w
  | .error why =>
    if why.kind = .interrupted then hook.asked start limit w
    else ((hook.asked start limit w).note (.controlWaitFailed why)).perform
      (.sleep (hook.sliceIn start limit w))

/-- What a round meets that begins in this world. -/
def roundIn (w : World σ) : Round where
  pending := signaling.any (Surroundings.hasPending w.scene)
  begun := since start w
  elapsed := since start (looked w)
  answer := (hook.answerIn start limit w).1
  left := (hook.answerIn start limit w).2
  answered := since start (hook.asked start limit w)
  ended := since start (hook.goOn start limit w)

/-- The world in which the round with this number begins, if the first one begins in this world. -/
def worldAt (w : World σ) (n : Nat) : World σ := (hook.goOn start limit)^[n] w

/-- What the round with this number meets. -/
def roundAt (w : World σ) (n : Nat) : Round :=
  hook.roundIn signaling start limit (hook.worldAt start limit w n)

/-- The world after a round that begins in this world and ends the wait. -/
def leave (w : World σ) : World σ :=
  if (hook.roundIn signaling start limit w).pending then w
  else if (hook.roundIn signaling start limit w).elapsed < limit then hook.asked start limit w
  else looked w

variable {hook signaling start limit} {w : World σ} {sets : Interest}

/-- A round that comes to the native wait goes by its answer. -/
theorem waitInbound_of_asks (h : (hook.roundIn signaling start limit w).Asks limit)
    (rounds : Nat) : hook.waitInbound signaling start limit sets (rounds + 1) w =
      match (hook.answerIn start limit w).1 with
      | .ok 0 => hook.waitInbound signaling start limit sets rounds (hook.asked start limit w)
      | .ok (n + 1) =>
        some ⟨.ok (n + 1), sets.onlyRead (hook.answerIn start limit w).2.read,
          hook.asked start limit w⟩
      | .error why =>
        if why.kind = .interrupted then
          hook.waitInbound signaling start limit sets rounds (hook.asked start limit w)
        else
          hook.waitInbound signaling start limit sets rounds
            (((hook.asked start limit w).note (.controlWaitFailed why)).perform
              (.sleep (hook.sliceIn start limit w))) := by
  obtain ⟨hp, hl⟩ := h
  have hpending : ¬ signaling.any (Surroundings.hasPending w.scene) = true :=
    Bool.not_eq_true _ ▸ hp
  rw [waitInbound, if_neg hpending]
  refine (if_neg (Nat.not_le.mpr hl)).trans ?_
  simp only [answerIn, asked, sliceIn, World.awaitNative, looked, since]
  rcases Surroundings.awaitAnswer _ _ _ with ⟨_ | _ | _, _⟩ <;> rfl

/-- A quiet round is followed by the next one. -/
theorem waitInbound_of_isQuiet (h : (hook.roundIn signaling start limit w).IsQuiet limit)
    (rounds : Nat) : hook.waitInbound signaling start limit sets (rounds + 1) w =
      hook.waitInbound signaling start limit sets rounds (hook.goOn start limit w) := by
  obtain ⟨hasks, hready⟩ := h
  rw [waitInbound_of_asks hasks, goOn]
  rw [Round.ready, roundIn] at hready
  cases ha : (hook.answerIn start limit w).1 with
  | ok count =>
    rw [ha] at hready
    obtain rfl : count = 0 := hready
    rfl
  | error why => exact (apply_ite _ _ _ _).symm

/-- A round that ends the wait decides its outcome. -/
theorem waitInbound_of_ends {count : Nat} {read : Option Descriptors}
    (h : (hook.roundIn signaling start limit w).Ends hook limit count read) (rounds : Nat) :
    hook.waitInbound signaling start limit sets (rounds + 1) w =
      some ⟨.ok count, sets.onlyRead read, hook.leave signaling start limit w⟩ := by
  cases h with
  | data h =>
    have hpending : signaling.any (Surroundings.hasPending w.scene) = true := h
    rw [waitInbound, if_pos hpending, Descriptors.ofList_singleton, leave, if_pos h]
  | late h hl =>
    have hpending : ¬ signaling.any (Surroundings.hasPending w.scene) = true :=
      Bool.not_eq_true _ ▸ h
    rw [← Descriptors.ofList_pair, waitInbound, if_neg hpending, leave,
      if_neg (Bool.not_eq_true _ ▸ h), if_neg (Nat.not_lt.mpr hl)]
    exact if_pos hl
  | native h count hc ha =>
    have hanswer : (hook.answerIn start limit w).1 = .ok count := ha
    have hpending : ¬ (hook.roundIn signaling start limit w).pending = true :=
      Bool.not_eq_true _ ▸ h.1
    obtain ⟨n, rfl⟩ := Nat.exists_eq_succ_of_ne_zero (Nat.ne_of_gt hc)
    rw [waitInbound_of_asks h, hanswer, leave, if_neg hpending, if_pos h.2]
    rfl

/-- The first round that ends the wait decides its outcome. -/
theorem waitInbound_of_first {n rounds : Nat} {count : Nat} {read : Option Descriptors}
    (hquiet : ∀ m < n, (hook.roundAt signaling start limit w m).IsQuiet limit)
    (hend : (hook.roundAt signaling start limit w n).Ends hook limit count read)
    (hn : n < rounds) : hook.waitInbound signaling start limit sets rounds w =
      some ⟨.ok count, sets.onlyRead read,
        hook.leave signaling start limit (hook.worldAt start limit w n)⟩ := by
  obtain ⟨rounds, rfl⟩ := Nat.exists_eq_succ_of_ne_zero (Nat.ne_of_gt (Nat.zero_lt_of_lt hn))
  induction n generalizing rounds w with
  | zero => exact waitInbound_of_ends hend rounds
  | succ n ih =>
    have hfirst : (hook.roundIn signaling start limit w).IsQuiet limit := hquiet 0 (Nat.succ_pos n)
    obtain ⟨rounds, rfl⟩ := Nat.exists_eq_succ_of_ne_zero
      (Nat.ne_of_gt (Nat.zero_lt_of_lt (Nat.lt_of_succ_lt_succ hn)))
    rw [Nat.succ_eq_add_one, waitInbound_of_isQuiet hfirst]
    exact ih (fun m hm => hquiet (m + 1) (Nat.succ_lt_succ hm)) hend rounds
      (Nat.lt_of_succ_lt_succ hn)

/-- As long as every round is quiet the wait goes on. -/
theorem waitInbound_of_quiet {rounds : Nat}
    (hquiet : ∀ m < rounds, (hook.roundAt signaling start limit w m).IsQuiet limit) :
    hook.waitInbound signaling start limit sets rounds w = none := by
  induction rounds generalizing w with
  | zero => rfl
  | succ rounds ih =>
    have hfirst : (hook.roundIn signaling start limit w).IsQuiet limit :=
      hquiet 0 (Nat.succ_pos rounds)
    rw [waitInbound_of_isQuiet hfirst]
    exact ih fun m hm => hquiet (m + 1) (Nat.succ_lt_succ hm)

/-- A wait has an outcome exactly if one of its rounds is not quiet, and then the first of these
decides it. -/
theorem waitInbound_eq_some_iff {rounds : Nat} {out : Waited σ} :
    hook.waitInbound signaling start limit sets rounds w = some out ↔
      ∃ n < rounds, (∀ m < n, (hook.roundAt signaling start limit w m).IsQuiet limit) ∧
        ∃ count read, (hook.roundAt signaling start limit w n).Ends hook limit count read ∧
          out = ⟨.ok count, sets.onlyRead read,
            hook.leave signaling start limit (hook.worldAt start limit w n)⟩ := by
  constructor
  · intro h
    have hnot : ¬ ∀ m < rounds, (hook.roundAt signaling start limit w m).IsQuiet limit := by
      intro hquiet
      rw [waitInbound_of_quiet hquiet] at h
      cases h
    obtain ⟨n, hn, hquiet, count, read, hend⟩ := Round.exists_first hnot
    rw [waitInbound_of_first hquiet hend hn] at h
    exact ⟨n, hn, hquiet, count, read, hend, (Option.some.inj h).symm⟩
  · rintro ⟨n, hn, hquiet, count, read, hend, rfl⟩
    exact waitInbound_of_first hquiet hend hn

/-- A round sleeps after the native wait only if that has failed. -/
theorem goOn_of_not_fails (h : ¬ (hook.roundIn signaling start limit w).fails) :
    hook.goOn start limit w = hook.asked start limit w := by
  rw [Round.fails, roundIn] at h
  rw [goOn]
  cases ha : (hook.answerIn start limit w).1 with
  | ok count => rfl
  | error why =>
    rw [ha] at h
    exact if_pos (by simpa using h)

/-- After a failure of the native wait a round sleeps for a slice. -/
theorem goOn_of_fails (h : (hook.roundIn signaling start limit w).fails) :
    ∃ why, hook.goOn start limit w =
      ((hook.asked start limit w).note (.controlWaitFailed why)).perform
        (.sleep (hook.sliceIn start limit w)) := by
  rw [Round.fails, roundIn] at h
  rw [goOn]
  cases ha : (hook.answerIn start limit w).1 with
  | ok count => rw [ha] at h; cases h
  | error why =>
    rw [ha] at h
    exact ⟨why, if_neg (by simpa using h)⟩

theorem worldAt_succ (n : Nat) : hook.worldAt start limit w (n + 1) =
    hook.goOn start limit (hook.worldAt start limit w n) :=
  Function.iterate_succ_apply' _ _ _

theorem awaits_looked : (looked w).awaits = w.awaits := by
  rw [World.awaits, looked, World.calls_perform]
  rfl

theorem awaits_asked : (hook.asked start limit w).awaits =
    (some (hook.sliceIn start limit w), .reading [hook.controlSocket]) :: w.awaits := by
  rw [World.awaits, asked, World.calls_perform, ← awaits_looked (w := w)]
  rfl

/-- A round that goes on has made one native wait. -/
theorem awaits_goOn : (hook.goOn start limit w).awaits = (hook.asked start limit w).awaits := by
  rw [goOn]
  split
  · rfl
  · split
    · rfl
    · rw [World.awaits, World.calls_perform]
      rfl

/-- A round that ends the wait has made one native wait, if it came to it. -/
theorem awaits_leave : (hook.leave signaling start limit w).awaits =
    if (hook.roundIn signaling start limit w).Asks limit then
      (hook.asked start limit w).awaits else w.awaits := by
  by_cases ha : (hook.roundIn signaling start limit w).Asks limit
  · rw [if_pos ha, leave, if_neg (Bool.not_eq_true _ ▸ ha.1), if_pos ha.2]
  · rw [if_neg ha, leave]
    split
    · rfl
    · rename_i hp
      rw [if_neg fun hl => ha ⟨Bool.not_eq_true _ ▸ hp, hl⟩, awaits_looked]

/-- Every round before makes one native wait. -/
theorem awaits_worldAt (n : Nat) : (hook.worldAt start limit w n).awaits =
    ((List.range n).reverse.map fun m =>
      (some ((hook.roundAt signaling start limit w m).slice hook limit),
        Interest.reading [hook.controlSocket])) ++ w.awaits := by
  induction n with
  | zero => rfl
  | succ n ih =>
    rw [worldAt_succ, awaits_goOn, awaits_asked, List.range_succ, List.reverse_append,
      List.map_append, List.append_assoc, ← ih]
    rfl

/-- Every round up to this one makes one native wait, this one only if it comes to it. -/
theorem awaits_leave_worldAt (n : Nat) :
    (hook.leave signaling start limit (hook.worldAt start limit w n)).awaits =
      ((List.range
          (if (hook.roundAt signaling start limit w n).Asks limit then n + 1 else n)).reverse.map
        fun m => (some ((hook.roundAt signaling start limit w m).slice hook limit),
          Interest.reading [hook.controlSocket])) ++ w.awaits := by
  rw [awaits_leave, ← roundAt]
  split
  · rw [← awaits_goOn, ← worldAt_succ]
    exact awaits_worldAt (n + 1)
  · exact awaits_worldAt n

variable (hook signaling limit)

/-- What the round of a wait with this number meets, if the wait is asked for in this world. -/
def round (w : World σ) (n : Nat) : Round :=
  hook.roundAt signaling (Surroundings.clock (looked w).scene) limit (looked w) n

/-- The world after a wait that is asked for in this world and ends with the round of this
number. -/
def leftAt (w : World σ) (n : Nat) : World σ :=
  let start := Surroundings.clock (looked w).scene
  hook.leave signaling start limit (hook.worldAt start limit (looked w) n)

variable {hook signaling limit}

/-- The rounds of a wait follow one another. -/
theorem fits_round : Round.Fits (hook.round signaling limit w) where
  begun_zero := Nat.sub_self _
  begun_succ n := by
    rw [round, roundAt, worldAt_succ]
    rfl
  ended_eq _ h := congrArg (since _) (goOn_of_not_fails h)

/-- A wait for input with a time limit has an outcome exactly if one of its rounds is not quiet, and
then the first of these decides it. -/
theorem wait_eq_some_iff (hl : 0 < limit) (hr : sets.read.isSome) {rounds : Nat}
    {out : Waited σ} :
    hook.wait w signaling (some limit) sets rounds = some out ↔
      ∃ n < rounds, (∀ m < n, (hook.round signaling limit w m).IsQuiet limit) ∧
        ∃ count read, (hook.round signaling limit w n).Ends hook limit count read ∧
          out = ⟨.ok count, sets.onlyRead read, hook.leftAt signaling limit w n⟩ := by
  obtain ⟨time, rfl⟩ := Nat.exists_eq_succ_of_ne_zero (Nat.ne_of_gt hl)
  have hwait : hook.wait w signaling (some (time + 1)) sets rounds = hook.waitInbound signaling
      (Surroundings.clock (looked w).scene) (time + 1) sets rounds (looked w) := if_pos hr
  rw [hwait]
  exact waitInbound_eq_some_iff

/-- Every round up to the last one makes one native wait, the last one only if it comes to it. -/
theorem awaits_leftAt (n : Nat) : (hook.leftAt signaling limit w n).awaits =
    ((List.range
        (if (hook.round signaling limit w n).Asks limit then n + 1 else n)).reverse.map fun m =>
      (some ((hook.round signaling limit w m).slice hook limit),
        Interest.reading [hook.controlSocket])) ++ w.awaits :=
  (awaits_leave_worldAt n).trans (congrArg _ awaits_looked)

end Hook

/-- Surroundings that play a script of rounds to a wait. -/
structure Play where
  /-- What each round is to meet. -/
  script : Nat → Round
  /-- The round that is played; none before the wait has begun. -/
  turn : Option Nat := none
  /-- The time that the clock shows. -/
  time : Micros := 0

namespace Play

/-- How a call that takes time moves the play on: the first look at the clock begins it, and a round
is over with its native wait or, if that fails, with its sleep. -/
def move (p : Play) (call : Call) : Play :=
  match call, p.turn with
  | .readClock, none => { p with turn := some 0 }
  | .readClock, some n => { p with time := (p.script n).elapsed }
  | .await _ _, some n =>
    { p with
      turn := some (if (p.script n).fails then n else n + 1)
      time := (p.script n).answered }
  | .sleep _, some n => { p with turn := some (n + 1), time := (p.script n).ended }
  | _, _ => p

/-- Nothing but waiting is played. -/
instance : Surroundings Play where
  isRegistered _ := false
  isDeregistered _ := false
  isStarted _ _ := false
  isReady _ _ := false
  relayOffer _ := .ok ()
  offersStream _ _ _ := false
  offersProbe _ _ := false
  randomBits _ := 0
  sendAnswer _ _ data _ := .ok data.length
  receiveAnswer _ _ _ := .ok none
  hasPending p _ := p.turn.any fun n => (p.script n).pending
  awaitAnswer p _ sets :=
    p.turn.elim (.ok 0, sets) fun n => ((p.script n).answer, (p.script n).left)
  clock := Play.time
  nativeSocket _ := 0
  controlSocket _ := 0
  react call p := (p.move call, [])

/-- The world before a script is played. -/
def stage (script : Nat → Round) (found : EngineSettings) : World Play :=
  { scene := { script }, ledger := { engine := found } }

variable {script : Nat → Round} {hook : Hook} {start limit time : Micros} {w : World Play} {n : Nat}

theorem scene_looked (h : w.scene = ⟨script, some n, time⟩) :
    (Hook.looked w).scene = ⟨script, some n, (script n).elapsed⟩ := by
  rw [Hook.looked, World.scene_perform, h]
  rfl

theorem answerIn_eq (h : w.scene = ⟨script, some n, time⟩) :
    hook.answerIn start limit w = ((script n).answer, (script n).left) := by
  rw [Hook.answerIn, scene_looked h]
  rfl

theorem scene_asked (h : w.scene = ⟨script, some n, time⟩) :
    (hook.asked start limit w).scene =
      ⟨script, some (if (script n).fails then n else n + 1), (script n).answered⟩ := by
  rw [Hook.asked, World.scene_perform, scene_looked h]
  rfl

theorem scene_goOn (hs : Round.Fits script) (h : w.scene = ⟨script, some n, time⟩) :
    (hook.goOn start limit w).scene = ⟨script, some (n + 1), (script n).ended⟩ := by
  have hanswer : (hook.roundIn none start limit w).fails = (script n).fails := by
    rw [Round.fails, Hook.roundIn, answerIn_eq h]
    rfl
  by_cases hf : (script n).fails
  · obtain ⟨why, he⟩ := Hook.goOn_of_fails (hanswer.trans hf)
    rw [he, World.scene_perform]
    change (Surroundings.react _ (hook.asked start limit w).scene).1 = _
    rw [scene_asked h, if_pos hf]
    rfl
  · rw [Hook.goOn_of_not_fails (hanswer ▸ hf), scene_asked h, if_neg hf, hs.ended_eq n hf]

theorem scene_worldAt (hs : Round.Fits script) (found : EngineSettings) (n : Nat) :
    (hook.worldAt start limit (Hook.looked (stage script found)) n).scene =
      ⟨script, some n, (script n).begun⟩ := by
  induction n with
  | zero => rw [hs.begun_zero]; rfl
  | succ n ih =>
    rw [Hook.worldAt_succ, hs.begun_succ]
    exact scene_goOn hs ih

/-- Every script whose rounds follow one another is met by some wait. -/
theorem round_stage (hs : Round.Fits script) (hook : Hook) (stream : StreamId) (limit : Micros)
    (found : EngineSettings) (n : Nat) :
    hook.round (some stream) limit (stage script found) n = script n := by
  have hw : (hook.worldAt 0 limit _ n).scene = _ := scene_worldAt hs found n
  have hasked : (hook.asked 0 limit (hook.worldAt 0 limit _ n)).scene = _ := scene_asked hw
  have hgoOn : (hook.goOn 0 limit (hook.worldAt 0 limit _ n)).scene = _ := scene_goOn hs hw
  change hook.roundIn (some stream) 0 limit (hook.worldAt 0 limit _ n) = script n
  unfold Hook.roundIn Hook.since
  rw [hw, scene_looked hw, answerIn_eq hw, hasked, hgoOn]
  rfl

/-- A script that disturbs a wait in every way: a signal, then nothing, then a failure of the native
wait. What is left in the end is the time and perhaps data. -/
def restless (pending : Bool) : Nat → Round
  | 0 =>
    { pending := false, begun := 0, elapsed := 0, answer := .error ⟨.interrupted, "signal"⟩,
      left := {}, answered := 10, ended := 10 }
  | 1 =>
    { pending := false, begun := 10, elapsed := 10, answer := .ok 0, left := .reading [],
      answered := 30, ended := 30 }
  | 2 =>
    { pending := false, begun := 30, elapsed := 30, answer := .error ⟨.timedOut, "native wait"⟩,
      left := {}, answered := 50, ended := 70 }
  | _ + 3 =>
    { pending, begun := 70, elapsed := 70, answer := .ok 0, left := {}, answered := 70,
      ended := 70 }

theorem fits_restless (pending : Bool) : Round.Fits (restless pending) where
  begun_zero := rfl
  begun_succ
    | 0 | 1 | 2 | _ + 3 => rfl
  ended_eq
    | 0, _ | 1, _ | _ + 3, _ => rfl
    | 2, h => absurd rfl h

end Play

namespace Hook

variable {σ : Type} [Surroundings σ]

/-- A wait for input with a time limit never fails. It ends with the first round that meets a reason
to: the stream has data, the time is up, or the native wait finds descriptors ready, in this order.
What it gives is what that round has to give, with the other sets emptied; and on the way it makes
one native wait a round, of a slice and about reading from the control descriptor alone. -/
theorem wait_ends_at_first_reason (hook : Hook) (w : World σ) (signaling : Option StreamId)
    {limit : Micros} (hl : 0 < limit) {sets : Interest} (hr : sets.read.isSome) (rounds : Nat)
    (out : Waited σ) :
    (hook.wait w signaling (some limit) sets rounds = some out ↔
      ∃ n < rounds, (∀ m < n, (hook.round signaling limit w m).IsQuiet limit) ∧
        ∃ count read, (hook.round signaling limit w n).Ends hook limit count read ∧
          out = ⟨.ok count,
            ⟨read, sets.write.map fun _ => ⟨[]⟩, sets.except.map fun _ => ⟨[]⟩⟩,
            hook.leftAt signaling limit w n⟩) ∧
    ∀ n, (hook.leftAt signaling limit w n).awaits =
      ((List.range
          (if (hook.round signaling limit w n).Asks limit then n + 1 else n)).reverse.map fun m =>
        (some (min hook.slice (limit - (hook.round signaling limit w m).elapsed)),
          ⟨some ⟨[hook.controlSocket]⟩, none, none⟩)) ++ w.awaits :=
  ⟨wait_eq_some_iff hl hr, awaits_leftAt⟩

/-- Data that has come in the meantime is found even though the time is up, and neither the signal
nor the failure before shows. -/
theorem late_wait_finds_data :
    let hook : Hook := ⟨3, 4, 20⟩
    let w := Play.stage (Play.restless true) ⟨⟨5060, 0, 0, 0⟩, .noFirewall⟩
    let sets : Interest := ⟨some ⟨[3, 8]⟩, some ⟨[9]⟩, none⟩
    let round := hook.round (some ⟨0, 0⟩) 50 w
    let left := hook.leftAt (some ⟨0, 0⟩) 50 w 3
    0 < 50 ∧ sets.read.isSome ∧ 50 ≤ (round 3).elapsed ∧
      hook.wait w (some ⟨0, 0⟩) (some 50) sets 4 =
        some ⟨.ok 1, ⟨some ⟨[3]⟩, some ⟨[]⟩, none⟩, left⟩ ∧
      left.awaits = List.replicate 3 (some 20, ⟨some ⟨[4]⟩, none, none⟩) := by
  intro hook w sets round left
  have hround : round = Play.restless true :=
    funext (Play.round_stage (Play.fits_restless true) hook ⟨0, 0⟩ 50 _)
  have hquiet : ∀ m < 3, (round m).IsQuiet 50 := by rw [hround]; decide
  have hdata : (round 3).Ends hook 50 1 (some ⟨[3]⟩) := .data (by rw [hround]; rfl)
  obtain ⟨hwait, hawaits⟩ := wait_ends_at_first_reason hook w (some ⟨0, 0⟩)
    (show 0 < 50 by decide) (show sets.read.isSome from rfl) 4
    ⟨.ok 1, ⟨some ⟨[3]⟩, some ⟨[]⟩, none⟩, left⟩
  refine ⟨by decide, rfl, by rw [hround]; decide,
    hwait.mpr ⟨3, by decide, hquiet, 1, _, hdata, rfl⟩, ?_⟩
  have hlast := hawaits 3
  rw [show hook.round (some ⟨0, 0⟩) 50 w = _ from hround] at hlast
  exact hlast

end Hook

end SipOverRelay
