import Mathlib.Data.Finset.Card
import Mathlib.Data.List.Induction
import Mathlib.Order.Bounds.Defs
import SipOverRelay.Readiness.Descriptors

/-!
# Sets of descriptors in the order of joining

A set of descriptors goes through single strokes: a descriptor is put in, one is taken out, or all
are. Which descriptors it holds and since when is told by these strokes alone. The set lists just
these descriptors, each once, and in the order in which they joined: whoever is put in again while
being there keeps its place, and whoever comes back joins at the end.
-/

namespace SipOverRelay

/-- A single stroke in the life of a set of descriptors. -/
inductive Descriptors.Stroke where
  /-- A descriptor is put in. -/
  | puts (fd : Nat)
  /-- A descriptor is taken out. -/
  | takes (fd : Nat)
  /-- All descriptors are taken out. -/
  | wipes

namespace Descriptors.Stroke

/-- The stroke takes the descriptor out, alone or with all others. -/
def Removes (stroke : Stroke) (fd : Nat) : Prop := stroke = .takes fd ∨ stroke = .wipes

@[simp] theorem not_removes_puts (put fd : Nat) : ¬(puts put).Removes fd := by simp [Removes]

@[simp] theorem removes_takes_iff (taken fd : Nat) : (takes taken).Removes fd ↔ taken = fd := by
  simp [Removes]

@[simp] theorem removes_wipes (fd : Nat) : wipes.Removes fd := .inr rfl

end Descriptors.Stroke

/-- The strokes of a change. A replacement starts over from the set without descriptors and puts the
listed ones in, one by one. -/
def Descriptors.Change.strokes : Change → List Stroke
  | .insert fd => [.puts fd]
  | .erase fd => [.takes fd]
  | .clear => [.wipes]
  | .replace fds => .wipes :: fds.map .puts

/-- The strokes that a set of descriptors has gone through, oldest first. -/
abbrev DescriptorsPast := List Descriptors.Stroke

namespace DescriptorsPast

open Descriptors

/-! ### What the past tells -/

/-- The strokes of a sequence of changes. -/
def ofChanges (changes : List Change) : DescriptorsPast := changes.flatMap Change.strokes

/-- The stroke with that number put the descriptor in. -/
def IsPutAt (past : DescriptorsPast) (fd i : Nat) : Prop := past[i]? = some (Stroke.puts fd)

/-- The stroke with that number took the descriptor out, alone or with all others. -/
def IsTakenAt (past : DescriptorsPast) (fd i : Nat) : Prop :=
  ∃ stroke : Stroke, past[i]? = some stroke ∧ stroke.Removes fd

/-- The descriptor was put in after it was last taken out and after all were last taken out. -/
def Holds (past : DescriptorsPast) (fd : Nat) : Prop :=
  ∃ i, past.IsPutAt fd i ∧ ∀ j, past.IsTakenAt fd j → j < i

/-- The descriptor was not there when that many strokes had been made. -/
def IsAbsentAt (past : DescriptorsPast) (fd moment : Nat) : Prop :=
  moment ≤ past.length ∧ ¬Holds (past.take moment) fd

/-- The stroke with that number is the earliest to put the descriptor in since it was last
absent. -/
def Joins (past : DescriptorsPast) (fd i : Nat) : Prop :=
  IsLeast {i | past.IsPutAt fd i ∧ ∀ moment, past.IsAbsentAt fd moment → moment ≤ i} i

/-- One descriptor joined before another one did. -/
def JoinsBefore (past : DescriptorsPast) (fd other : Nat) : Prop :=
  ∃ i j, past.Joins fd i ∧ past.Joins other j ∧ i < j

/-! ### One more stroke -/

variable {past : DescriptorsPast} {stroke : Stroke} {fd other i : Nat}

theorem IsPutAt.lt (h : past.IsPutAt fd i) : i < past.length :=
  (List.getElem?_eq_some_iff.mp h).1

theorem IsTakenAt.lt (h : past.IsTakenAt fd i) : i < past.length := by
  obtain ⟨stroke, hstroke, -⟩ := h
  exact (List.getElem?_eq_some_iff.mp hstroke).1

/-- A new stroke comes last, and the others keep their numbers. -/
theorem getElem?_concat_eq_some_iff {made : Stroke} :
    (past ++ [stroke])[i]? = some made ↔
      past[i]? = some made ∨ i = past.length ∧ stroke = made := by
  rcases Nat.lt_trichotomy i past.length with hlt | rfl | hgt
  · have hne : i ≠ past.length := by omega
    rw [List.getElem?_append_left hlt]
    simp [hne]
  · simp
  · have hne : i ≠ past.length := by omega
    have hle : (past ++ [stroke]).length ≤ i := by
      rw [List.length_append, List.length_singleton]
      omega
    simp [hne, List.getElem?_eq_none hle, List.getElem?_eq_none hgt.le]

theorem isPutAt_concat : IsPutAt (past ++ [stroke]) fd i ↔
    past.IsPutAt fd i ∨ i = past.length ∧ stroke = .puts fd :=
  getElem?_concat_eq_some_iff

theorem isTakenAt_concat : IsTakenAt (past ++ [stroke]) fd i ↔
    past.IsTakenAt fd i ∨ i = past.length ∧ stroke.Removes fd := by
  constructor
  · rintro ⟨made, hmade, hremoves⟩
    rcases getElem?_concat_eq_some_iff.mp hmade with hmade | ⟨hlast, rfl⟩
    · exact .inl ⟨made, hmade, hremoves⟩
    · exact .inr ⟨hlast, hremoves⟩
  · rintro (⟨made, hmade, hremoves⟩ | ⟨hlast, hremoves⟩)
    · exact ⟨made, getElem?_concat_eq_some_iff.mpr (.inl hmade), hremoves⟩
    · exact ⟨stroke, getElem?_concat_eq_some_iff.mpr (.inr ⟨hlast, rfl⟩), hremoves⟩

theorem not_holds_nil : ¬Holds [] fd := by
  rintro ⟨i, hput, -⟩
  exact absurd hput.lt (Nat.not_lt_zero i)

/-- After a stroke, those descriptors are held that it put in, and those held before that it did not
take out. -/
theorem holds_concat : Holds (past ++ [stroke]) fd ↔
    stroke = .puts fd ∨ past.Holds fd ∧ ¬stroke.Removes fd := by
  constructor
  · rintro ⟨i, hput, hlast⟩
    rcases isPutAt_concat.mp hput with hput | ⟨-, hstroke⟩
    · have hheld : past.Holds fd :=
        ⟨i, hput, fun j hj => hlast j (isTakenAt_concat.mpr (.inl hj))⟩
      have hlt := hput.lt
      refine .inr ⟨hheld, fun hremoves => ?_⟩
      have hbefore := hlast past.length (isTakenAt_concat.mpr (.inr ⟨rfl, hremoves⟩))
      omega
    · exact .inl hstroke
  · rintro (rfl | ⟨⟨i, hput, hlast⟩, hkept⟩)
    · refine ⟨past.length, isPutAt_concat.mpr (.inr ⟨rfl, rfl⟩), fun j hj => ?_⟩
      rcases isTakenAt_concat.mp hj with hj | ⟨-, hremoves⟩
      · exact hj.lt
      · exact absurd hremoves (Stroke.not_removes_puts fd fd)
    · refine ⟨i, isPutAt_concat.mpr (.inl hput), fun j hj => ?_⟩
      rcases isTakenAt_concat.mp hj with hj | ⟨-, hremoves⟩
      · exact hlast j hj
      · exact absurd hremoves hkept

/-- A stroke changes nothing about the moments before it. -/
theorem isAbsentAt_concat {moment : Nat} : IsAbsentAt (past ++ [stroke]) fd moment ↔
    past.IsAbsentAt fd moment ∨ moment = past.length + 1 ∧ ¬Holds (past ++ [stroke]) fd := by
  rw [IsAbsentAt, IsAbsentAt, List.length_append, List.length_singleton]
  rcases Nat.lt_trichotomy moment (past.length + 1) with hlt | rfl | hgt
  · have hle : moment ≤ past.length := by omega
    have hne : moment ≠ past.length + 1 := by omega
    rw [List.take_append_of_le_length hle]
    simp [hle, hne, hlt.le]
  · have hlen : (past ++ [stroke]).length ≤ past.length + 1 := by simp
    rw [List.take_of_length_le hlen]
    simp
  · have hnot : ¬moment ≤ past.length := by omega
    have hne : moment ≠ past.length + 1 := by omega
    have hnot' : ¬moment ≤ past.length + 1 := by omega
    simp [hnot, hne, hnot']

/-- Whoever joined did so by a stroke that was made. -/
theorem Joins.lt (h : past.Joins fd i) : i < past.length := h.1.1.lt

/-- Whoever joined is held. -/
theorem Joins.holds (h : past.Joins fd i) : past.Holds fd := by
  by_contra hnot
  have hle := h.1.2 past.length ⟨le_rfl, by rwa [List.take_length]⟩
  have hlt := h.lt
  omega

/-- Whoever is not taken out has joined when it did before, also if it is put in again. -/
theorem Joins.concat (h : past.Joins fd i) (hkept : ¬stroke.Removes fd) :
    Joins (past ++ [stroke]) fd i := by
  have hheld : Holds (past ++ [stroke]) fd := holds_concat.mpr (.inr ⟨h.holds, hkept⟩)
  have hlt := h.lt
  constructor
  · refine ⟨isPutAt_concat.mpr (.inl h.1.1), fun moment habsent => ?_⟩
    rcases isAbsentAt_concat.mp habsent with habsent | ⟨-, hnot⟩
    · exact h.1.2 moment habsent
    · exact absurd hheld hnot
  · rintro j ⟨hput, hsince⟩
    rcases isPutAt_concat.mp hput with hput | ⟨rfl, -⟩
    · -- an older stroke after every absence was so before the new one as well
      exact h.2 ⟨hput, fun moment habsent => hsince moment (isAbsentAt_concat.mpr (.inl habsent))⟩
    · exact hlt.le

/-- Whoever is put in without being there joins now. -/
theorem joins_puts (h : ¬past.Holds fd) : Joins (past ++ [.puts fd]) fd past.length := by
  constructor
  · refine ⟨isPutAt_concat.mpr (.inr ⟨rfl, rfl⟩), fun moment habsent => ?_⟩
    rcases isAbsentAt_concat.mp habsent with ⟨hle, -⟩ | ⟨-, hnot⟩
    · exact hle
    · exact absurd (holds_concat.mpr (.inl rfl)) hnot
  · rintro j ⟨-, hsince⟩
    have habsent : past.IsAbsentAt fd past.length := ⟨le_rfl, by rwa [List.take_length]⟩
    exact hsince past.length (isAbsentAt_concat.mpr (.inl habsent))

/-- Whoever is held has joined at some time. -/
theorem Holds.exists_joins (h : past.Holds fd) : ∃ i, past.Joins fd i := by
  induction past using List.reverseRecOn with
  | nil => exact absurd h not_holds_nil
  | append_singleton past stroke ih =>
    -- what is held now was held before the last stroke, or that stroke put it in
    by_cases hbefore : Holds past fd
    · obtain ⟨i, hi⟩ := ih hbefore
      rcases holds_concat.mp h with rfl | ⟨-, hkept⟩
      · exact ⟨i, hi.concat (Stroke.not_removes_puts fd fd)⟩
      · exact ⟨i, hi.concat hkept⟩
    · rcases holds_concat.mp h with rfl | ⟨hheld, -⟩
      · exact ⟨past.length, joins_puts hbefore⟩
      · exact absurd hheld hbefore

/-- Descriptors that are not taken out keep their order. -/
theorem pairwise_concat {fds : List Nat} (h : fds.Pairwise past.JoinsBefore)
    (hkept : ∀ fd ∈ fds, ¬stroke.Removes fd) :
    fds.Pairwise (JoinsBefore (past ++ [stroke])) := by
  refine h.imp_of_mem fun hfd hother hbefore => ?_
  obtain ⟨i, j, hi, hj, hlt⟩ := hbefore
  exact ⟨i, j, hi.concat (hkept _ hfd), hj.concat (hkept _ hother), hlt⟩

/-- Whoever joins now comes after all that are held. -/
theorem Holds.joinsBefore_puts (h : past.Holds fd) (hnew : ¬past.Holds other) :
    JoinsBefore (past ++ [.puts other]) fd other := by
  obtain ⟨i, hi⟩ := h.exists_joins
  exact ⟨i, past.length, hi.concat (Stroke.not_removes_puts other fd), joins_puts hnew, hi.lt⟩

end DescriptorsPast

namespace Descriptors

open DescriptorsPast

/-- The set after one stroke. -/
def meet (s : Descriptors) : Stroke → Descriptors
  | .puts fd => s.insert fd
  | .takes fd => s.erase fd
  | .wipes => empty

/-- A change is made stroke by stroke. -/
theorem change_eq_foldl (s : Descriptors) (c : Change) : s.change c = c.strokes.foldl meet s := by
  cases c with
  | insert fd => rfl
  | erase fd => rfl
  | clear => rfl
  | replace fds =>
    rw [Change.strokes, List.foldl_cons, List.foldl_map]
    rfl

theorem after_eq_foldl (changes : List Change) :
    after changes = (ofChanges changes).foldl meet empty := by
  have hchange : change = fun s c => c.strokes.foldl meet s :=
    funext fun s => funext (change_eq_foldl s)
  rw [after, ofChanges, List.foldl_flatMap, hchange]

/-- A set lists those that its past tells it to hold, each once, in the order of their joining. -/
structure ListsHeld (past : DescriptorsPast) (s : Descriptors) : Prop where
  /-- No descriptor is listed twice. -/
  nodup : s.toList.Nodup
  /-- Those are listed that are held. -/
  mem_iff (fd : Nat) : fd ∈ s.toList ↔ past.Holds fd
  /-- They are listed in the order of their joining. -/
  inOrder : s.toList.Pairwise past.JoinsBefore

namespace ListsHeld

variable {past : DescriptorsPast} {s : Descriptors}

theorem empty : ListsHeld [] empty where
  nodup := List.nodup_nil
  mem_iff fd := by simp [not_holds_nil]
  inOrder := .nil

/-- To put in a descriptor that is there changes nothing. -/
theorem puts_held (h : ListsHeld past s) {fd : Nat} (hmem : fd ∈ s.toList) :
    ListsHeld (past ++ [.puts fd]) (s.insert fd) := by
  have hsame : (s.insert fd).toList = s.toList := by rw [toList_insert, if_pos hmem]
  constructor
  · rw [hsame]
    exact h.nodup
  · intro other
    rw [hsame, holds_concat, ← h.mem_iff other]
    constructor
    · intro hother
      exact .inr ⟨hother, Stroke.not_removes_puts fd other⟩
    · rintro (hput | ⟨hother, -⟩)
      · cases hput
        exact hmem
      · exact hother
  · rw [hsame]
    exact pairwise_concat h.inOrder fun other _ => Stroke.not_removes_puts fd other

/-- To put in a descriptor that is not there lists it last. -/
theorem puts_new (h : ListsHeld past s) {fd : Nat} (hmem : fd ∉ s.toList) :
    ListsHeld (past ++ [.puts fd]) (s.insert fd) := by
  have hlist : (s.insert fd).toList = s.toList ++ [fd] := by rw [toList_insert, if_neg hmem]
  have hnew : ¬past.Holds fd := (h.mem_iff fd).not.mp hmem
  constructor
  · rw [hlist, ← List.concat_eq_append]
    exact h.nodup.concat hmem
  · intro other
    rw [hlist, holds_concat, List.mem_append, List.mem_singleton, h.mem_iff other]
    simp [or_comm, eq_comm]
  · have hothers : s.toList.Pairwise (JoinsBefore (past ++ [.puts fd])) :=
      pairwise_concat h.inOrder fun other _ => Stroke.not_removes_puts fd other
    rw [hlist, List.pairwise_append]
    refine ⟨hothers, List.pairwise_singleton _ _, fun other hother last hlast => ?_⟩
    obtain rfl := List.mem_singleton.mp hlast
    exact ((h.mem_iff other).mp hother).joinsBefore_puts hnew

/-- To take out a descriptor leaves the others in their order. -/
theorem takes (h : ListsHeld past s) (fd : Nat) :
    ListsHeld (past ++ [.takes fd]) (s.erase fd) := by
  have hmem (other : Nat) : other ∈ (s.erase fd).toList ↔ other ∈ s.toList ∧ other ≠ fd := by
    simp
  constructor
  · exact h.nodup.filter _
  · intro other
    rw [hmem, h.mem_iff other, holds_concat]
    simp [eq_comm]
  · refine pairwise_concat (h.inOrder.filter _) fun other hother => ?_
    rw [Stroke.removes_takes_iff]
    exact ((hmem other).mp hother).2.symm

/-- To take out all leaves nothing. -/
theorem wipes : ListsHeld (past ++ [.wipes]) Descriptors.empty where
  nodup := List.nodup_nil
  mem_iff fd := by simp [holds_concat]
  inOrder := .nil

/-- Every stroke keeps the list as the past tells. -/
theorem meet (h : ListsHeld past s) (stroke : Stroke) :
    ListsHeld (past ++ [stroke]) (s.meet stroke) := by
  cases stroke with
  | puts fd =>
    by_cases hmem : fd ∈ s.toList
    · exact h.puts_held hmem
    · exact h.puts_new hmem
  | takes fd => exact h.takes fd
  | wipes => exact .wipes

/-- So does every sequence of strokes. -/
theorem foldl_meet (past : DescriptorsPast) :
    ListsHeld past (past.foldl Descriptors.meet Descriptors.empty) := by
  induction past using List.reverseRecOn with
  | nil => exact .empty
  | append_singleton past stroke ih =>
    rw [List.foldl_append]
    exact ih.meet stroke

/-- The descriptors that are held are as many as the set counts. -/
theorem exists_finset (h : ListsHeld past s) :
    ∃ held : Finset Nat, (∀ fd, fd ∈ held ↔ past.Holds fd) ∧ s.size = held.card := by
  refine ⟨s.toList.toFinset, fun fd => ?_, (List.toFinset_card_of_nodup h.nodup).symm⟩
  rw [List.mem_toFinset, h.mem_iff]

theorem isEmpty_iff (h : ListsHeld past s) : s.isEmpty = true ↔ ∀ fd, ¬past.Holds fd := by
  rw [isEmpty, size, decide_eq_true_iff, List.length_eq_zero_iff, List.eq_nil_iff_forall_not_mem]
  exact forall_congr' fun fd => (h.mem_iff fd).not

end ListsHeld

/-- A set of descriptors after any sequence of changes from the set without descriptors on, where a
replacement takes out all descriptors and then puts in the listed ones one by one. No descriptor is
listed twice; those are in the set that were put in after they were last taken out and after all
were last taken out; the set counts them, and is empty if there are none; and it lists them in the
order of the earliest strokes to put them in since they were last absent. -/
theorem set_lists_held_as_they_joined (changes : List Change) :
    let s := after changes
    let past := ofChanges changes
    s.toList.Nodup ∧
      (∀ fd, s.contains fd = true ↔ past.Holds fd) ∧
      (∃ held : Finset Nat, (∀ fd, fd ∈ held ↔ past.Holds fd) ∧ s.size = held.card) ∧
      (s.isEmpty = true ↔ ∀ fd, ¬past.Holds fd) ∧
      (∀ fd, fd ∈ s.toList ↔ past.Holds fd) ∧
      s.toList.Pairwise past.JoinsBefore := by
  intro s past
  have hlists : ListsHeld past s := by
    rw [show s = past.foldl meet empty from after_eq_foldl changes]
    exact .foldl_meet past
  refine ⟨hlists.nodup, fun fd => ?_, hlists.exists_finset, hlists.isEmpty_iff, hlists.mem_iff,
    hlists.inOrder⟩
  rw [contains, decide_eq_true_iff]
  exact hlists.mem_iff fd

/-- One that is put in again keeps its place, one that comes back is listed last. -/
example : (after [.insert 5, .replace [7, 9, 7, 8], .insert 7, .erase 9, .insert 9]).toList =
    [7, 8, 9] := by decide

end Descriptors

end SipOverRelay
