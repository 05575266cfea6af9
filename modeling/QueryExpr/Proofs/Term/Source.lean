import QueryExpr.Term.Infer

/-!
# The source of a node

A term writes its source in front of a text that is handed on from slot to slot. Here the source of a
node is read off its content instead: `sourceChars_node` joins the texts and the sources of the slots
that the content names, one after the other. Merging pieces of text does not change what they join to
(`flatMap_mergeContent`), so the same holds of a node that `make` builds (`sourceChars_make`).
-/

namespace QueryExpr

/-- What a piece of content stands for. -/
def Fragment.chars (slots : List Term) : Fragment → List Char
  | .text s => s.toList
  | .slot n => (slots[n]?.map Term.sourceChars).getD []

namespace Term

/-! ### Writing in front of a text -/

/-- Slots that only write in front of the text let the whole content do so. -/
theorem layOut_append {fs : List (List Char → List Char)}
    (hfs : ∀ f ∈ fs, ∀ rest tail, f (rest ++ tail) = f rest ++ tail) (content : List Fragment)
    (rest tail : List Char) : layOut fs content (rest ++ tail) = layOut fs content rest ++ tail := by
  induction content with
  | nil => rfl
  | cons fragment content ih =>
    cases fragment with
    | text s => rw [layOut, layOut, ih, List.append_assoc]
    | slot n =>
      rw [layOut, layOut, ih]
      cases hn : fs[n]? with
      | none => rfl
      | some f => exact hfs f (List.mem_of_getElem? hn) _ _

mutual

/-- A term only writes in front of what it is given. -/
theorem sourceOnto_append : ∀ (t : Term) (rest tail : List Char),
    t.sourceOnto (rest ++ tail) = t.sourceOnto rest ++ tail
  | .node _ _ content slots, rest, tail => by
    rw [sourceOnto]
    exact layOut_append (sourcesOnto_append slots) content rest tail

/-- So do several terms, each for itself. -/
theorem sourcesOnto_append : ∀ (ts : List Term), ∀ f ∈ sourcesOnto ts, ∀ rest tail,
    f (rest ++ tail) = f rest ++ tail
  | [], f, hf => by simp [sourcesOnto] at hf
  | t :: ts, f, hf => by
    rw [sourcesOnto, List.mem_cons] at hf
    rcases hf with rfl | hf
    · exact sourceOnto_append t
    · exact sourcesOnto_append ts f hf

end

/-- What a term writes in front of a text is its source. -/
theorem sourceOnto_eq (t : Term) (rest : List Char) :
    t.sourceOnto rest = t.sourceChars ++ rest := by
  rw [sourceChars, ← sourceOnto_append, List.nil_append]

theorem sourcesOnto_eq_map (ts : List Term) : sourcesOnto ts = ts.map sourceOnto := by
  induction ts with
  | nil => rfl
  | cons t ts ih => rw [sourcesOnto, List.map_cons, ih]

/-! ### The content of a node -/

/-- **The source of a node** joins what its pieces stand for. -/
theorem sourceChars_node (head : Head) (verdict : Verdict) (content : List Fragment)
    (slots : List Term) :
    (Term.node head verdict content slots).sourceChars = content.flatMap (Fragment.chars slots) := by
  rw [sourceChars, sourceOnto, sourcesOnto_eq_map]
  induction content with
  | nil => rfl
  | cons fragment content ih =>
    rw [List.flatMap_cons, ← ih]
    cases fragment with
    | text s => rfl
    | slot n =>
      rw [layOut, List.getElem?_map, Fragment.chars]
      cases slots[n]? with
      | none => rfl
      | some t => exact sourceOnto_eq t _

/-- Merging the pieces of text leaves the source as it is. -/
theorem flatMap_mergeContent (slots : List Term) (content : List Fragment) :
    (mergeContent content).flatMap (Fragment.chars slots) =
      content.flatMap (Fragment.chars slots) := by
  induction content with
  | nil => rfl
  | cons fragment content ih =>
    cases fragment with
    | slot n => rw [mergeContent, List.flatMap_cons, List.flatMap_cons, ih]
    | text s =>
      rw [mergeContent, List.flatMap_cons, ← ih]
      split
      · next hs =>
        subst hs
        rfl
      · -- the text joins the one that follows, if one does
        split
        · next r rest hrest =>
          rw [hrest, List.flatMap_cons, List.flatMap_cons, ← List.append_assoc]
          simp only [Fragment.chars, String.toList_append]
        · rw [List.flatMap_cons]

/-- **The source of a node that is built** joins what its pieces stand for. -/
theorem sourceChars_make (head : Head) (content : List Fragment) (slots : List Term) :
    (make head content slots).sourceChars = content.flatMap (Fragment.chars slots) := by
  rw [make, sourceChars_node, flatMap_mergeContent]

@[simp] theorem toList_source (t : Term) : t.source.toList = t.sourceChars := by
  rw [source, String.toList_ofList]

end Term
end QueryExpr
