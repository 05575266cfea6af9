import Mathlib.Data.List.Nodup
import QueryExpr.OrderedMap

/-!
# Looking up what was inserted

A key that is new goes to the end of the entries; looking up the key then gives its value, and all
other keys keep theirs. Where an entry goes does not depend on the values, so seeing all values through
a function (`mapValues`) goes along with inserting.
-/

namespace QueryExpr.OrderedMap

variable {κ ν : Type} [DecidableEq κ]

/-- A key is there exactly if something is found at it. -/
theorem contains_eq_isSome (m : OrderedMap κ ν) (k : κ) : m.contains k = (m.get? k).isSome := by
  rw [Bool.eq_iff_iff, contains_iff_mem_keys, Option.isSome_iff_ne_none, ne_eq, get?_eq_none_iff,
    Decidable.not_not]

omit [DecidableEq κ] in
theorem length_values (m : OrderedMap κ ν) : m.values.length = m.size := List.length_map _

/-- What is found is one of the values. -/
theorem mem_values_of_get? {m : OrderedMap κ ν} {k : κ} {v : ν} (h : m.get? k = some v) :
    v ∈ m.values := by
  obtain ⟨e, he, rfl⟩ := Option.map_eq_some_iff.mp h
  exact List.mem_map_of_mem (List.mem_of_find?_eq_some he)

/-- A new key goes to the end. -/
theorem entries_insert_of_get?_eq_none {m : OrderedMap κ ν} {k : κ} (h : m.get? k = none) (v : ν) :
    (m.insert k v).entries = m.entries ++ [(k, v)] := by
  rw [entries_insert, contains_eq_isSome, h]
  rfl

/-- A new key makes the map one entry larger. -/
theorem size_insert_of_get?_eq_none {m : OrderedMap κ ν} {k : κ} (h : m.get? k = none) (v : ν) :
    (m.insert k v).size = m.size + 1 := by
  rw [size, entries_insert_of_get?_eq_none h, List.length_append]
  rfl

/-- The value of a new key goes to the end. -/
theorem values_insert_of_get?_eq_none {m : OrderedMap κ ν} {k : κ} (h : m.get? k = none) (v : ν) :
    (m.insert k v).values = m.values ++ [v] := by
  rw [values, entries_insert_of_get?_eq_none h, List.map_append]
  rfl

/-- No insertion takes an entry away. -/
theorem size_le_insert (m : OrderedMap κ ν) (k : κ) (v : ν) : m.size ≤ (m.insert k v).size := by
  rw [size, size, entries_insert]
  split
  · exact Nat.le_of_eq (List.length_map _).symm
  · rw [List.length_append]
    exact Nat.le_add_right _ _

/-- What is found stands in an entry with its key. -/
theorem mem_entries_of_get? {m : OrderedMap κ ν} {k : κ} {v : ν} (h : m.get? k = some v) :
    (k, v) ∈ m.entries := by
  obtain ⟨e, he, rfl⟩ := Option.map_eq_some_iff.mp h
  have hkey : e.1 = k := by simpa using List.find?_some he
  rw [← hkey]
  exact List.mem_of_find?_eq_some he

theorem mem_keys_of_get? {m : OrderedMap κ ν} {k : κ} {v : ν} (h : m.get? k = some v) : k ∈ m.keys :=
  List.mem_map.mpr ⟨(k, v), mem_entries_of_get? h, rfl⟩

/-- The keys after an insertion, which come in once. -/
theorem keys_insert (m : OrderedMap κ ν) (k : κ) (v : ν) :
    (m.insert k v).keys = if k ∈ m.keys then m.keys else m.keys ++ [k] := by
  rw [keys, entries_insert]
  by_cases hk : k ∈ m.keys
  · rw [if_pos ((contains_iff_mem_keys m k).mpr hk), if_pos hk, map_fst_replace, keys]
  · rw [if_neg fun h => hk ((contains_iff_mem_keys m k).mp h), if_neg hk, List.map_append]
    rfl

/-- A known key keeps its place, and a new one goes to the end. -/
theorem exists_values_insert (m : OrderedMap κ ν) (k : κ) (v : ν) :
    ∃ front back, m.values = front ++ (m.get? k).toList ++ back ∧
      (m.insert k v).values = front ++ v :: back := by
  cases h : m.get? k with
  | none => exact ⟨m.values, [], by simp, values_insert_of_get?_eq_none h v⟩
  | some old =>
    have hcontains : m.contains k = true := by rw [contains_eq_isSome, h]; rfl
    obtain ⟨front, back, hentries⟩ := List.append_of_mem (mem_entries_of_get? h)
    refine ⟨front.map Prod.snd, back.map Prod.snd, by simp [values, hentries], ?_⟩
    -- the key stands nowhere else
    have hdistinct := m.distinct
    rw [hentries, List.map_append, List.map_cons, List.nodup_middle] at hdistinct
    obtain ⟨hk, -⟩ := List.nodup_cons.mp hdistinct
    have hkeep : ∀ es : List (κ × ν), k ∉ es.map Prod.fst → replace es k v = es := by
      intro es hes
      refine (List.map_congr_left fun e he => ?_).trans (List.map_id _)
      exact if_neg fun heq => hes (List.mem_map.mpr ⟨e, he, heq⟩)
    have hreplace : replace (front ++ (k, old) :: back) k v = front ++ (k, v) :: back := by
      rw [replace, List.map_append, List.map_cons, if_pos rfl, ← replace, ← replace,
        hkeep front fun hmem => hk (List.mem_append_left _ hmem),
        hkeep back fun hmem => hk (List.mem_append_right _ hmem)]
    rw [values, entries_insert, if_pos hcontains, hentries, hreplace, List.map_append, List.map_cons]

/-- What the values have about them stays if the value that is replaced has the same about it. -/
theorem mem_map_values_insert {α : Type} {m : OrderedMap κ ν} {f : ν → α} {k : κ} {v : ν}
    (hsame : ∀ old, m.get? k = some old → f old = f v) {a : α} (h : a ∈ m.values.map f) :
    a ∈ (m.insert k v).values.map f := by
  obtain ⟨front, back, hvalues, hvalues'⟩ := exists_values_insert m k v
  rw [hvalues']
  obtain ⟨value, hmem, rfl⟩ := List.mem_map.mp h
  rw [hvalues, List.append_assoc, List.mem_append, List.mem_append, Option.mem_toList] at hmem
  rw [List.map_append, List.map_cons, List.mem_append, List.mem_cons]
  rcases hmem with hfront | hold | hback
  · exact .inl (List.mem_map_of_mem hfront)
  · exact .inr (.inl (hsame value hold))
  · exact .inr (.inr (List.mem_map_of_mem hback))

/-! ### Look-up among entries -/

/-- The first entry of the key is the one that is found. -/
theorem lookup_cons (e : κ × ν) (es : List (κ × ν)) (k : κ) :
    lookup (e :: es) k = if e.1 = k then some e.2 else lookup es k := by
  rw [lookup, List.find?_cons]
  by_cases he : e.1 = k <;> simp [he, lookup]

/-- What is not found among the first entries is looked up among the others. -/
theorem lookup_append (es es' : List (κ × ν)) (k : κ) :
    lookup (es ++ es') k = (lookup es k).or (lookup es' k) := by
  rw [lookup, List.find?_append, Option.map_or]
  rfl

/-- The entries of one key with another value. -/
theorem lookup_replace (es : List (κ × ν)) (k : κ) (v : ν) (k' : κ) :
    lookup (replace es k v) k' = if k' = k then (lookup es k).map fun _ => v else lookup es k' := by
  induction es with
  | nil => by_cases hk : k' = k <;> simp [hk, lookup, replace]
  | cons e es ih =>
    -- is the entry that of the key, and is the key the one that is looked up
    rw [replace, List.map_cons, ← replace, lookup_cons, lookup_cons, lookup_cons, ih]
    by_cases he : e.1 = k
    · by_cases hk : k' = k
      · subst hk
        simp [he]
      · have hne : ¬ k = k' := fun h => hk h.symm
        simp [he, hk, hne]
    · by_cases hk : k' = k
      · subst hk
        simp [he]
      · simp [he, hk]

/-- **Look-up after an insertion.** -/
theorem get?_insert (m : OrderedMap κ ν) (k : κ) (v : ν) (k' : κ) :
    (m.insert k v).get? k' = if k' = k then some v else m.get? k' := by
  rw [get?, entries_insert]
  cases hget : m.get? k with
  | some old =>
    -- the value is replaced in its entry
    rw [contains_eq_isSome, hget, if_pos Option.isSome_some, lookup_replace]
    show (if k' = k then (m.get? k).map _ else _) = _
    rw [hget]
    rfl
  | none =>
    -- the new entry is the last one, and nothing before it has the key
    rw [contains_eq_isSome, hget, if_neg (Option.not_isSome_iff_eq_none.2 rfl), lookup_append,
      lookup_cons]
    by_cases hk : k' = k
    · subst hk
      show (m.get? k').or _ = _
      simp [hget]
    · have hne : ¬ k = k' := fun h => hk h.symm
      simp [hk, hne, lookup, get?]

/-- Entries with distinct keys, put one after the other into anything that can be looked up: what is then
found at a key comes from its entry, or was there before. -/
theorem look_foldl {σ μ : Type} (look : σ → κ → Option μ) (step : σ → κ × ν → σ) (value : κ → ν → μ)
    (hstep : ∀ s e k, look (step s e) k = if k = e.1 then some (value e.1 e.2) else look s k)
    {es : List (κ × ν)} (hes : (es.map Prod.fst).Nodup) (s : σ) (k : κ) :
    look (es.foldl step s) k = ((lookup es k).map (value k)).or (look s k) := by
  induction es generalizing s with
  | nil => rfl
  | cons e es ih =>
    rw [List.map_cons, List.nodup_cons] at hes
    rw [List.foldl_cons, ih hes.2, hstep, lookup_cons]
    by_cases hk : e.1 = k
    · subst hk
      -- no later entry has the key again
      rw [lookup_eq_none_iff.mpr hes.1]
      simp
    · rw [if_neg hk, if_neg (Ne.symm hk)]

/-! ### Values seen through a function -/

section MapValues

variable {μ : Type} (f : ν → μ)

omit [DecidableEq κ] in
/-- The map with its values seen through a function. -/
def mapValues (m : OrderedMap κ ν) : OrderedMap κ μ where
  entries := m.entries.map fun e => (e.1, f e.2)
  distinct := by
    rw [List.map_map]
    exact m.distinct

omit [DecidableEq κ] in
theorem entries_mapValues (m : OrderedMap κ ν) :
    (m.mapValues f).entries = m.entries.map fun e => (e.1, f e.2) := rfl

omit [DecidableEq κ] in
@[simp] theorem size_mapValues (m : OrderedMap κ ν) : (m.mapValues f).size = m.size :=
  List.length_map _

@[simp] theorem contains_mapValues (m : OrderedMap κ ν) (k : κ) :
    (m.mapValues f).contains k = m.contains k := by
  rw [contains, entries_mapValues, List.any_map]
  rfl

/-- Inserting and then seeing the values through a function is the same as the other way round. -/
theorem mapValues_insert (m : OrderedMap κ ν) (k : κ) (v : ν) :
    (m.insert k v).mapValues f = (m.mapValues f).insert k (f v) := by
  refine ext_entries ?_
  rw [entries_insert, contains_mapValues, entries_mapValues, entries_mapValues, entries_insert]
  split
  · -- the same entry is replaced, since the keys are the same
    rw [replace, replace, List.map_map, List.map_map]
    refine List.map_congr_left fun e _ => ?_
    simp only [Function.comp_apply]
    split <;> rfl
  · rw [List.map_append]
    rfl

/-- The same for a key that keeps the value that it has. -/
theorem mapValues_insertNew (m : OrderedMap κ ν) (k : κ) (v : ν) :
    (m.insertNew k v).mapValues f = (m.mapValues f).insertNew k (f v) := by
  rw [insertNew, insertNew, contains_mapValues]
  split
  · rfl
  · exact mapValues_insert f m k v

end MapValues

end QueryExpr.OrderedMap
