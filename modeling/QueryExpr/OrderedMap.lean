/-!
# Maps that keep the order of insertion

A map from keys to values whose entries stay in the order in which their keys came in. Inserting a
key that is already there replaces its value and keeps its place, so no key ever has two entries; the
map carries this with it.
-/

namespace QueryExpr

/-- A finite map that remembers the order in which its keys were inserted. -/
structure OrderedMap (κ ν : Type) where
  /-- The entries, oldest first. -/
  entries : List (κ × ν) := []
  /-- No key has two entries. -/
  distinct : (entries.map Prod.fst).Nodup := by exact List.nodup_nil
  deriving Repr

namespace OrderedMap

variable {κ ν : Type}

instance : Inhabited (OrderedMap κ ν) := ⟨{}⟩

/-- The entries are all there is to a map. -/
theorem ext_entries {m n : OrderedMap κ ν} (h : m.entries = n.entries) : m = n := by
  cases m
  cases n
  cases h
  rfl

instance [DecidableEq κ] [DecidableEq ν] : DecidableEq (OrderedMap κ ν) := fun a b =>
  if h : a.entries = b.entries then isTrue (ext_entries h)
  else isFalse (by intro e; exact h (by rw [e]))

/-- The map without entries. -/
def empty : OrderedMap κ ν := {}

/-- The keys, oldest first. -/
def keys (m : OrderedMap κ ν) : List κ := m.entries.map Prod.fst

/-- The values, in the order of their keys. -/
def values (m : OrderedMap κ ν) : List ν := m.entries.map Prod.snd

/-- The number of entries. -/
def size (m : OrderedMap κ ν) : Nat := m.entries.length

/-- There are no entries. -/
def isEmpty (m : OrderedMap κ ν) : Bool := m.entries.isEmpty

variable [DecidableEq κ]

/-- The value that a key has among entries. -/
def lookup (es : List (κ × ν)) (k : κ) : Option ν := (es.find? fun e => e.1 = k).map Prod.snd

/-- The value at a key. -/
def get? (m : OrderedMap κ ν) (k : κ) : Option ν := lookup m.entries k

/-- The key has a value. -/
def contains (m : OrderedMap κ ν) (k : κ) : Bool := m.entries.any fun e => e.1 = k

/-- The entries with another value at a key. -/
def replace (es : List (κ × ν)) (k : κ) (v : ν) : List (κ × ν) :=
  es.map fun e => if e.1 = k then (k, v) else e

theorem map_fst_replace (es : List (κ × ν)) (k : κ) (v : ν) :
    (replace es k v).map Prod.fst = es.map Prod.fst := by
  rw [replace, List.map_map]
  refine List.map_congr_left fun e _ => ?_
  rw [Function.comp_apply]
  split
  · next he => exact he.symm
  · rfl

/-- Set the value at a key. A new key goes to the end, a known one keeps its place. -/
def insert (m : OrderedMap κ ν) (k : κ) (v : ν) : OrderedMap κ ν where
  entries := if m.contains k then replace m.entries k v else m.entries ++ [(k, v)]
  distinct := by
    split
    · rw [map_fst_replace]
      exact m.distinct
    · next hnew =>
      have hk : k ∉ m.entries.map Prod.fst := by simpa [contains] using hnew
      rw [List.map_append, List.nodup_append]
      refine ⟨m.distinct, by simp, ?_⟩
      rintro k' hk' _ (_ | ⟨_, ⟨⟩⟩) rfl
      exact hk hk'

/-- Set the value at a key that has none; a known key keeps its value. -/
def insertNew (m : OrderedMap κ ν) (k : κ) (v : ν) : OrderedMap κ ν :=
  if m.contains k then m else m.insert k v

/-- Remove a key. -/
def erase (m : OrderedMap κ ν) (k : κ) : OrderedMap κ ν where
  entries := m.entries.filter fun e => !decide (e.1 = k)
  distinct := m.distinct.sublist (List.filter_sublist.map Prod.fst)

/-- The map with these entries, inserted from left to right. -/
def ofList (entries : List (κ × ν)) : OrderedMap κ ν :=
  entries.foldl (fun m e => m.insert e.1 e.2) empty

/-! ### What the operations do to look-up -/

theorem entries_insert (m : OrderedMap κ ν) (k : κ) (v : ν) :
    (m.insert k v).entries =
      if m.contains k then replace m.entries k v else m.entries ++ [(k, v)] := rfl

theorem contains_iff_mem_keys (m : OrderedMap κ ν) (k : κ) : m.contains k = true ↔ k ∈ m.keys := by
  simp [contains, keys]

theorem lookup_eq_none_iff {es : List (κ × ν)} {k : κ} : lookup es k = none ↔ k ∉ es.map Prod.fst := by
  simp only [lookup, Option.map_eq_none_iff, List.find?_eq_none, decide_eq_true_eq, List.mem_map,
    not_exists, not_and]

theorem get?_eq_none_iff (m : OrderedMap κ ν) (k : κ) : m.get? k = none ↔ k ∉ m.keys :=
  lookup_eq_none_iff

@[simp] theorem get?_empty (k : κ) : (empty : OrderedMap κ ν).get? k = none := rfl

end OrderedMap
end QueryExpr
