/-!
# Setting stores

Settings are kept as texts under a key within an area. Any type with a reader and a writer can hold
them; the law of such a store is that a reader sees what was written last. The store kept in memory
is a list of entries with distinct keys.
-/

namespace SipOverRelay

/-- A place where texts are kept under a key within an area. -/
class Storage (α : Type) where
  /-- The text kept under a key. -/
  get? : α → (area key : String) → Option String
  /-- Keeps a text under a key, or removes what is there. -/
  set : α → (area key : String) → Option String → α

/-- The law of a store: a reader sees what was written last under that key, and no other key is
touched. -/
class LawfulStorage (α : Type) [Storage α] : Prop where
  /-- Reading after writing. -/
  get?_set (s : α) (area key : String) (value : Option String) (area' key' : String) :
    Storage.get? (Storage.set s area key value) area' key' =
      if area = area' ∧ key = key' then value else Storage.get? s area' key'

/-- A store kept in memory: entries with distinct keys. -/
@[ext]
structure Store where
  /-- The entries, each an area, a key and a text. -/
  entries : List ((String × String) × String) := []
  /-- No key occurs twice. -/
  distinct : (entries.map Prod.fst).Nodup := by simp

namespace Store

/-- The store that keeps nothing. -/
def empty : Store := {}

/-- The text kept under a key. -/
def get? (s : Store) (area key : String) : Option String := s.entries.lookup (area, key)

/-- The entries under all other keys. -/
def without (s : Store) (area key : String) : List ((String × String) × String) :=
  s.entries.filter (·.1 ≠ (area, key))

/-- Leaving out entries keeps keys distinct. -/
theorem nodup_without (s : Store) (area key : String) :
    ((s.without area key).map Prod.fst).Nodup :=
  s.distinct.sublist (List.filter_sublist.map _)

/-- A key is not among those that are left without it. -/
theorem not_mem_without (s : Store) (area key : String) :
    (area, key) ∉ (s.without area key).map Prod.fst := by
  simp [without]

/-- Keeps a text under a key, or removes what is there. -/
def set (s : Store) (area key : String) : Option String → Store
  | none => ⟨s.without area key, s.nodup_without area key⟩
  | some value =>
    ⟨s.without area key ++ [((area, key), value)], by
      rw [List.map_append, List.nodup_append]
      refine ⟨s.nodup_without area key, by simp, ?_⟩
      intro a ha b hb
      simp only [List.map_cons, List.map_nil, List.mem_singleton] at hb
      rintro rfl
      exact s.not_mem_without area key (hb ▸ ha)⟩

/-- The number of entries. -/
def size (s : Store) : Nat := s.entries.length

/-- A store without entries. -/
def isEmpty (s : Store) : Bool := s.size = 0

instance : Storage Store where
  get? := get?
  set := set

/-- Looking a key up among other entries than its own. -/
theorem lookup_without (s : Store) (area key area' key' : String) :
    (s.without area key).lookup (area', key') =
      if area = area' ∧ key = key' then none else s.get? area' key' := by
  unfold without get?
  induction s.entries with
  | nil => simp
  | cons e es ih => grind

/-- A reader of the memory store sees what was written last. -/
theorem get?_set (s : Store) (area key : String) (value : Option String) (area' key' : String) :
    (s.set area key value).get? area' key' =
      if area = area' ∧ key = key' then value else s.get? area' key' := by
  have h := s.lookup_without area key area' key'
  cases value with
  | none => simpa [set, get?] using h
  | some value =>
    simp only [set, get?] at h ⊢
    rw [List.lookup_append, h]
    grind

instance : LawfulStorage Store := ⟨get?_set⟩

end Store

end SipOverRelay
