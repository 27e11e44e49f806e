/-!
# Sets of descriptors

A readiness wait names the descriptors it is interested in and returns those that are ready. The
sets are small and keep the order in which descriptors were put in; putting in what is there already
changes nothing.
-/

namespace SipOverRelay

/-- A set of descriptors in the order of their insertion. -/
structure Descriptors where
  /-- The descriptors, oldest first. -/
  toList : List Nat := []
  deriving DecidableEq

namespace Descriptors

/-- The set without descriptors. -/
def empty : Descriptors := {}

/-- Puts a descriptor in at the end, unless it is there already. -/
def insert (s : Descriptors) (fd : Nat) : Descriptors :=
  if fd ∈ s.toList then s else ⟨s.toList ++ [fd]⟩

/-- Takes a descriptor out. -/
def erase (s : Descriptors) (fd : Nat) : Descriptors := ⟨s.toList.filter (· ≠ fd)⟩

/-- Whether a descriptor is in the set. -/
def contains (s : Descriptors) (fd : Nat) : Bool := fd ∈ s.toList

/-- The number of descriptors. -/
def size (s : Descriptors) : Nat := s.toList.length

/-- Whether there is no descriptor. -/
def isEmpty (s : Descriptors) : Bool := s.size = 0

/-- The set of the listed descriptors, put in one by one. -/
def ofList (fds : List Nat) : Descriptors := fds.foldl insert empty

/-- One change of a set of descriptors. -/
inductive Change where
  /-- A descriptor is put in. -/
  | insert (fd : Nat)
  /-- A descriptor is taken out. -/
  | erase (fd : Nat)
  /-- All descriptors are taken out. -/
  | clear
  /-- The set gives way to that of the listed descriptors. -/
  | replace (fds : List Nat)

/-- The set after one change. -/
def change (s : Descriptors) : Change → Descriptors
  | .insert fd => s.insert fd
  | .erase fd => s.erase fd
  | .clear => empty
  | .replace fds => ofList fds

/-- The set after a sequence of changes, of which the first finds no descriptors. -/
def after (changes : List Change) : Descriptors := changes.foldl change empty

/-- Nothing is in the set without descriptors. -/
@[simp] theorem toList_empty : empty.toList = [] := rfl

/-- Putting in appends, unless the descriptor is there already. -/
theorem toList_insert (s : Descriptors) (fd : Nat) :
    (s.insert fd).toList = if fd ∈ s.toList then s.toList else s.toList ++ [fd] := by
  unfold insert
  split <;> rfl

/-- Taking out keeps the order of the others. -/
@[simp] theorem toList_erase (s : Descriptors) (fd : Nat) :
    (s.erase fd).toList = s.toList.filter (· ≠ fd) := rfl

/-- One descriptor is a set by itself. -/
@[simp] theorem ofList_singleton (fd : Nat) : ofList [fd] = ⟨[fd]⟩ := rfl

/-- Two descriptors are in a set in their order, or as one if they are the same. -/
@[simp] theorem ofList_pair (fd other : Nat) :
    ofList [fd, other] = ⟨if other = fd then [fd] else [fd, other]⟩ := by
  have hpair : ofList [fd, other] = (ofList [fd]).insert other := rfl
  rw [hpair, ofList_singleton, insert]
  simp only [List.mem_singleton]
  split <;> rfl

/-- After putting in, that descriptor is there, and of the others those that were. -/
@[simp] theorem contains_insert (s : Descriptors) (fd other : Nat) :
    (s.insert fd).contains other = (s.contains other || other = fd) := by
  simp only [contains, toList_insert]
  split <;> grind

/-- After taking out, that descriptor is not there, and of the others those that were. -/
@[simp] theorem contains_erase (s : Descriptors) (fd other : Nat) :
    (s.erase fd).contains other = (s.contains other && other ≠ fd) := by
  simp [contains]

end Descriptors

/-- What a readiness wait is interested in, and what it found; an absent set is of no interest. -/
structure Interest where
  /-- Descriptors to read from. -/
  read : Option Descriptors := none
  /-- Descriptors to write to. -/
  write : Option Descriptors := none
  /-- Descriptors with exceptional conditions. -/
  except : Option Descriptors := none
  deriving DecidableEq

namespace Interest

/-- Interest in reading alone. -/
def reading (fds : List Nat) : Interest := { read := some (.ofList fds) }

/-- An answer about reading alone: the other sets that were asked for come back empty. -/
def onlyRead (sets : Interest) (read : Option Descriptors) : Interest where
  read := read
  write := sets.write.map fun _ => .empty
  except := sets.except.map fun _ => .empty

end Interest

end SipOverRelay
