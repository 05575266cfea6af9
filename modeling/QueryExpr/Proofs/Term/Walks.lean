import Mathlib.Data.List.Chain
import QueryExpr.Term.Make

/-!
# Walks through a term agree

There are three ways to go through a term: its nodes in order, the paths to its nodes, and the
references to fields in it. Each of them is a recursion of its own over the tree, and what the first
reference or the first cause of a fault is depends on all of them going the same way.

All three are brought into one form, in terms of the operands of a node (`descendants_eq`,
`pathsFrom_eq`, `fieldRefs_eq`). What is said about walks then goes by induction on the operands
(`children_induction`), whatever the number of operands that a head takes.
-/

namespace QueryExpr.Term

/-! ### Walks by the operands of a node -/

/-- The node and those below it, in the order of a walk. -/
def nodes (t : Term) : List Term := t :: t.descendants

theorem withDescendants_eq (ts : List Term) : withDescendants ts = ts.flatMap nodes := by
  induction ts with
  | nil => rfl
  | cons t ts ih =>
    rw [withDescendants, ih]
    rfl

theorem descendants_eq (t : Term) : t.descendants = t.children.flatMap nodes := by
  obtain ⟨head, verdict, content, slots⟩ := t
  rw [descendants, withDescendants_eq, children, Term.head, Term.slots]
  split <;> rfl

/-- A descendant is a child or a descendant of one. -/
theorem mem_descendants {t n : Term} : n ∈ t.descendants ↔ ∃ c ∈ t.children, n ∈ c.nodes := by
  rw [descendants_eq, List.mem_flatMap]

theorem mem_slots_of_mem_children {t c : Term} (h : c ∈ t.children) : c ∈ t.slots := by
  rw [children] at h
  split at h
  · cases h
  · exact h

theorem pathsFromAll_eq (path : List Term) (ts : List Term) :
    pathsFromAll path ts = ts.flatMap (pathsFrom path) := by
  induction ts with
  | nil => rfl
  | cons t ts ih => rw [pathsFromAll, ih, List.flatMap_cons]

/-- The paths through a node: the one that ends there, and those through its children. -/
theorem pathsFrom_eq (path : List Term) (t : Term) :
    pathsFrom path t = (path ++ [t]) :: t.children.flatMap (pathsFrom (path ++ [t])) := by
  obtain ⟨head, verdict, content, slots⟩ := t
  rw [pathsFrom, pathsFromAll_eq, children, Term.head, Term.slots]
  split <;> rfl

theorem fieldRefsAll_eq (ts : List Term) : fieldRefsAll ts = ts.flatMap fieldRefs := by
  induction ts with
  | nil => rfl
  | cons t ts ih => rw [fieldRefsAll, ih, List.flatMap_cons]

/-- The references in several terms are those in each of them. -/
theorem mem_fieldRefsAll {ts : List Term} {ref : Term} :
    ref ∈ fieldRefsAll ts ↔ ∃ t ∈ ts, ref ∈ t.fieldRefs := by
  rw [fieldRefsAll_eq, List.mem_flatMap]

/-- The parts of a path are no children of its last field. -/
theorem children_of_isField {t : Term} (h : t.head.isField = true) : t.children = [] := by
  rw [children, if_pos h]

theorem fieldRefs_eq (t : Term) :
    t.fieldRefs = if t.head.isField then [t] else t.children.flatMap fieldRefs := by
  obtain ⟨head, verdict, content, slots⟩ := t
  rw [fieldRefs, fieldRefsAll_eq, children, Term.head, Term.slots]
  split <;> rfl

/-- **Induction on the operands**: what holds of a node if it holds of its operands holds of every
term. -/
theorem children_induction {motive : Term → Prop}
    (step : ∀ t : Term, (∀ c ∈ t.children, motive c) → motive t) (t : Term) : motive t :=
  step t fun c _ => children_induction step c
termination_by t
decreasing_by
  obtain ⟨head, verdict, content, slots⟩ := t
  have hlt : sizeOf c < sizeOf slots := List.sizeOf_lt_of_mem (mem_slots_of_mem_children ‹_›)
  rw [node.sizeOf_spec]
  omega

/-! ### Paths -/

/-- A path that goes on from `path` through the term ends at a node of the term, and the nodes come in
the order of a walk. -/
theorem map_getLast?_pathsFrom (t : Term) (path : List Term) :
    (pathsFrom path t).map List.getLast? = t.nodes.map some := by
  induction t using children_induction generalizing path with
  | step t ih =>
    rw [pathsFrom_eq, List.map_cons, List.getLast?_concat, nodes, List.map_cons, descendants_eq,
      List.map_flatMap, List.map_flatMap]
    exact congrArg _ (List.flatMap_congr fun c hc => ih c hc (path ++ [t]))

/-- A path through the term goes from the term to an operand, from there to an operand of that, and so
on. -/
theorem exists_of_mem_pathsFrom {t : Term} {path p : List Term} (h : p ∈ pathsFrom path t) :
    ∃ below, p = path ++ t :: below ∧ (t :: below).IsChain fun a b => b ∈ a.children := by
  induction t using children_induction generalizing path with
  | step t ih =>
    rw [pathsFrom_eq, List.mem_cons, List.mem_flatMap] at h
    rcases h with rfl | ⟨c, hc, hp⟩
    · exact ⟨[], rfl, .singleton t⟩
    · obtain ⟨below, rfl, hchain⟩ := ih c hc hp
      refine ⟨c :: below, ?_, List.isChain_cons_cons.mpr ⟨hc, hchain⟩⟩
      rw [List.append_assoc, List.singleton_append]

/-- What stands in several lists in a row stands in one of them. -/
theorem exists_of_flatMap_eq_append_cons {α β : Type} {f : α → List β} {xs : List α}
    {front back : List β} {b : β} (h : xs.flatMap f = front ++ b :: back) :
    ∃ x ∈ xs, ∃ before front' back', front = before ++ front' ∧ f x = front' ++ b :: back' := by
  induction xs generalizing front with
  | nil => exact absurd h (by simp)
  | cons x xs ih =>
    rw [List.flatMap_cons, List.append_eq_append_iff] at h
    rcases h with ⟨front', rfl, hrest⟩ | ⟨rest, hx, hrest⟩
    · -- behind the first list
      obtain ⟨y, hy, before, front'', back', rfl, hfy⟩ := ih hrest
      exact ⟨y, List.mem_cons_of_mem x hy, f x ++ before, front'', back', by simp, hfy⟩
    · cases rest with
      | nil =>
        have hback : xs.flatMap f = [] ++ b :: back := hrest.symm
        obtain ⟨y, hy, before, front'', back', hnil, hfy⟩ := ih hback
        obtain ⟨-, rfl⟩ := List.append_eq_nil_iff.mp hnil.symm
        exact ⟨y, List.mem_cons_of_mem x hy, front, [], back', by simp, hfy⟩
      | cons b' rest =>
        obtain ⟨rfl, -⟩ := List.cons.inj hrest
        exact ⟨x, List.mem_cons_self, [], front, rest, rfl, hx⟩

/-- **A path is one node longer than a path in front of it**, unless it is the first. -/
theorem extends_of_pathsFrom_eq {t : Term} {path p : List Term} {front back : List (List Term)}
    (h : pathsFrom path t = front ++ p :: back) :
    (front = [] ∧ p = path ++ [t]) ∨ ∃ q ∈ front, ∃ n, p = q ++ [n] := by
  induction t using children_induction generalizing path front back with
  | step t ih =>
    rw [pathsFrom_eq] at h
    cases front with
    | nil => exact .inl ⟨rfl, (List.cons.inj h).1.symm⟩
    | cons first front =>
      obtain ⟨rfl, hrest⟩ := List.cons.inj h
      obtain ⟨c, hc, before, front', back', rfl, hpaths⟩ := exists_of_flatMap_eq_append_cons hrest
      -- the path is the first through its operand, which goes on from here, or has one in front of it there
      rcases ih c hc hpaths with ⟨-, rfl⟩ | ⟨q, hq, n, rfl⟩
      · exact .inr ⟨path ++ [t], List.mem_cons_self, c, rfl⟩
      · exact .inr ⟨q, List.mem_cons_of_mem _ (List.mem_append_right before hq), n, rfl⟩

/-! ### References -/

/-- The references to fields are the nodes of a walk that are references: a walk goes through all
operands, and there are none below a reference. -/
theorem fieldRefs_eq_filter (t : Term) :
    t.fieldRefs = t.nodes.filter fun n => n.head.isField := by
  induction t using children_induction with
  | step t ih =>
    rw [fieldRefs_eq, nodes, descendants_eq, List.filter_cons, List.filter_flatMap]
    split
    · next hfield => rw [children_of_isField hfield, List.flatMap_nil]
    · exact List.flatMap_congr ih

/-! ### All walks -/

/-- **The walks agree.** The paths end at the term and at the nodes below it, in the order of a walk.
Every path begins at the term and goes on from a node to one of its operands; every path but the first
is one node longer than a path in front of it. The references to fields are those nodes of a walk that
are references, in the same order. -/
theorem walks_agree (t : Term) :
    t.paths.map List.getLast? = (t :: t.descendants).map some ∧
    (∀ p ∈ t.paths, p.head? = some t ∧ p.IsChain fun a b => b ∈ a.children) ∧
    (∀ front p back, t.paths = front ++ p :: back → front ≠ [] → ∃ q ∈ front, ∃ n, p = q ++ [n]) ∧
    t.fieldRefs = (t :: t.descendants).filter fun n => n.head.isField := by
  refine ⟨map_getLast?_pathsFrom t [], ?_, ?_, fieldRefs_eq_filter t⟩
  · intro p hp
    obtain ⟨below, rfl, hchain⟩ := exists_of_mem_pathsFrom hp
    exact ⟨rfl, hchain⟩
  · intro front p back hpaths hne
    rcases extends_of_pathsFrom_eq hpaths with ⟨hnil, -⟩ | hextends
    · exact absurd hnil hne
    · exact hextends

/-- `[p.a, {y}]`: the walks go into the set, and not to the variable that `a` is reached from. -/
theorem walks_agree_list :
    let a := mkFieldRef {} (mkUnknownRoot "p") "a"
    let y := mkUnknownRoot "y"
    let set := mkSet [y]
    let t := mkList [a, set]
    t.paths = [[t], [t, a], [t, set]] ++ [t, set, y] :: [] ∧ [t, set, y] ∈ t.paths ∧
      t.paths.map List.getLast? = [some t, some a, some set, some y] ∧
      ([t, set, y].IsChain fun a b => b ∈ a.children) ∧
      (∃ q ∈ [[t], [t, a], [t, set]], ∃ n, [t, set, y] = q ++ [n]) ∧ t.fieldRefs = [a, y] := by
  intro a y set t
  obtain ⟨hlast, hchain, hextends, hrefs⟩ := walks_agree t
  have hpaths : t.paths = [[t], [t, a], [t, set]] ++ [t, set, y] :: [] := rfl
  have hmem : [t, set, y] ∈ t.paths := by simp [hpaths]
  exact ⟨hpaths, hmem, hlast, (hchain _ hmem).2, hextends _ _ _ hpaths (List.cons_ne_nil _ _), hrefs⟩

end QueryExpr.Term
