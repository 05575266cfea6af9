import QueryExpr.Proofs.Sql.Templates

/-!
# Rules that are there

Looking through all standard rules for one key is a long computation. What a row of the table
provides can be seen from the row alone, though: a rule that is registered stays (`mem_insertRule_of_mem`),
so whatever comes before or after the row, its combinations have rules in the end
(`isSome_lookup_of_provides`).

A registration changes a registry in two ways only: it puts in a rule, or it counts a duplicate. What
both of them preserve holds after any rows, also where a row ends in an error (`keeps_addRows`).
-/

namespace QueryExpr

/-- The name and the operand types of a combination. -/
def Spec.key? (namePosition : Option Nat) (combination : List Member) :
    Option (Option String × List DataType) :=
  match resolve combination namePosition with
  | .ok (.type _ :: operands) => some (lastName? operands, types operands)
  | _ => none

theorem Rule.isFor_iff {rule : Rule} {nodeType : NodeType} {name : Option String}
    {signature : List DataType} :
    rule.isFor nodeType name signature = true ↔
      rule.nodeType = nodeType ∧ rule.name = name ∧ rule.signature = signature := by
  simp [isFor, and_assoc]

namespace Registry

/-- The row makes rules of all its combinations, and one of them has this key. -/
def provides (nodeType : NodeType) (name : Option String) (signature : List DataType)
    (row : NodeType × String × String) : Bool :=
  row.1 = nodeType &&
    match Spec.parse row.2.1 with
    | .error _ => false
    | .ok groups =>
      let keys := (Spec.combinations groups).map (Spec.key? (Spec.namePosition? groups))
      (keys.all fun key => key.any fun key => (Template.parse row.2.2 key.2).isOk) &&
        keys.contains (some (name, signature))

section Keeps

variable {P : Registry → Prop} (hrule : ∀ reg rule, P reg → P (reg.insertRule rule))
  (hduplicate : ∀ reg : Registry, P reg → P { reg with duplicates := reg.duplicates + 1 })

include hrule hduplicate

theorem keeps_addCombinations {reg : Registry} (h : P reg) (nodeType : NodeType)
    (spec template : String) (namePosition : Option Nat) (cs : List (List Spec.Member)) :
    P (addCombinations nodeType spec template namePosition reg cs).1 := by
  induction cs generalizing reg with
  | nil => exact h
  | cons c cs ih =>
    unfold addCombinations
    split
    · exact h
    · exact ih (hduplicate reg h)
    · exact ih (hrule reg _ h)

theorem keeps_add {reg : Registry} (h : P reg) (nodeType : NodeType) (spec template : String) :
    P (reg.add nodeType spec template).1 := by
  unfold add
  split
  · exact h
  · exact keeps_addCombinations hrule hduplicate h _ _ _ _ _

/-- **What rules and duplicates preserve, rows preserve.** -/
theorem keeps_addRows {reg : Registry} (h : P reg) (rows : List (NodeType × String × String)) :
    P (rows.foldl (fun reg row => (reg.add row.1 row.2.1 row.2.2).1) reg) := by
  induction rows generalizing reg with
  | nil => exact h
  | cons row rows ih => exact ih (keeps_add hrule hduplicate h _ _ _)

end Keeps

section Registering

variable {reg : Registry} {nodeType : NodeType} {spec template : String} {namePosition : Option Nat}
  {cs : List (List Spec.Member)} {rule : Rule}

theorem isSome_lookup_iff {name : Option String} {signature : List DataType} :
    (reg.lookup nodeType name signature).isSome = true ↔
      ∃ rule ∈ reg.latest, rule.isFor nodeType name signature = true :=
  List.find?_isSome

/-- A rule that is registered stays. -/
theorem mem_insertRule_of_mem (reg : Registry) (rule' : Rule) (h : rule ∈ reg.latest) :
    rule ∈ (reg.insertRule rule').latest := by
  rw [latest_insertRule]
  exact List.mem_cons_of_mem _ h

theorem mem_addCombinations_of_mem (h : rule ∈ reg.latest) :
    rule ∈ (addCombinations nodeType spec template namePosition reg cs).1.latest :=
  keeps_addCombinations (P := fun reg => rule ∈ reg.latest) mem_insertRule_of_mem (fun _ h => h) h
    _ _ _ _ _

/-- A combination with a key makes a rule unless the key is taken, if the template can be read. -/
theorem exists_ruleOf?_of_key (nodeType : NodeType) (spec template : String)
    {c : List Spec.Member} {name : Option String} {signature : List DataType} (h : Spec.key? namePosition c = some (name, signature)) :
    ∃ make : List Part → Rule, (∀ parts, (make parts).isFor nodeType name signature = true) ∧
      ∀ reg : Registry, reg.ruleOf? nodeType spec template namePosition c =
        if (reg.lookup nodeType name signature).isSome then .ok none
        else (Template.parse template signature).map fun parts => some (make parts) := by
  unfold Spec.key? at h
  split at h
  · next result operands hresolve =>
    cases h
    refine ⟨fun parts => ⟨nodeType, result, Spec.lastName? operands, Spec.types operands, parts,
      Spec.display nodeType spec result (Spec.types operands)⟩, fun parts => ?_, fun reg => ?_⟩
    · exact Rule.isFor_iff.mpr ⟨rfl, rfl, rfl⟩
    · rw [ruleOf?, hresolve]
      show (if _ then _ else _) = _
      split
      · rfl
      · cases Template.parse template (Spec.types operands) <;> rfl
  · cases h

/-- A combination that makes a rule is not refused, and afterwards there is a rule with its key. -/
theorem isSome_lookup_of_ruleOf? (reg : Registry) (nodeType : NodeType) (spec : String)
    {c : List Spec.Member} {name : Option String}
    {signature : List DataType} (hkey : Spec.key? namePosition c = some (name, signature))
    (hparse : (Template.parse template signature).isOk = true) :
    (reg.ruleOf? nodeType spec template namePosition c = .ok none ∧
      (reg.lookup nodeType name signature).isSome = true) ∨
    ∃ rule, reg.ruleOf? nodeType spec template namePosition c = .ok (some rule) ∧
      rule.isFor nodeType name signature = true := by
  obtain ⟨make, hfor, hrule⟩ := exists_ruleOf?_of_key nodeType spec template hkey
  rw [hrule]
  by_cases htaken : (reg.lookup nodeType name signature).isSome = true
  · exact .inl ⟨if_pos htaken, htaken⟩
  · rw [if_neg htaken]
    cases hparts : Template.parse template signature with
    | error e =>
      rw [hparts] at hparse
      cases hparse
    | ok parts => exact .inr ⟨make parts, rfl, hfor parts⟩

/-- **Each combination of a row has a rule**, if none of them is refused. -/
theorem isSome_lookup_addCombinations
    (hsound : ∀ c ∈ cs, ∃ key, Spec.key? namePosition c = some key ∧
      (Template.parse template key.2).isOk = true)
    {c : List Spec.Member} (hc : c ∈ cs) {name : Option String} {signature : List DataType}
    (hkey : Spec.key? namePosition c = some (name, signature)) :
    ((addCombinations nodeType spec template namePosition reg cs).1.lookup nodeType name
      signature).isSome = true := by
  rw [isSome_lookup_iff]
  induction cs generalizing reg with
  | nil => cases hc
  | cons d ds ih =>
    obtain ⟨key, hd, hparse⟩ := hsound d List.mem_cons_self
    have hrest := fun reg => @ih reg fun c hc => hsound c (List.mem_cons_of_mem d hc)
    unfold addCombinations
    rcases isSome_lookup_of_ruleOf? reg nodeType spec hd hparse with
      ⟨hrule, hlookup⟩ | ⟨rule, hrule, hfor⟩
    · -- the key is taken, by a rule that stays
      rw [hrule]
      dsimp only
      rcases List.mem_cons.mp hc with rfl | hc
      · rw [hkey] at hd
        cases hd
        obtain ⟨rule, hmem, hfor⟩ := isSome_lookup_iff.mp hlookup
        exact ⟨rule, mem_addCombinations_of_mem hmem, hfor⟩
      · exact hrest _ hc
    · -- the combination has made a rule, and rules stay
      rw [hrule]
      dsimp only
      rcases List.mem_cons.mp hc with rfl | hc
      · rw [hkey] at hd
        cases hd
        refine ⟨rule, mem_addCombinations_of_mem ?_, hfor⟩
        rw [latest_insertRule]
        exact List.mem_cons_self
      · exact hrest _ hc

end Registering

/-- A row provides its rules whatever is registered before it. -/
theorem isSome_lookup_add (reg : Registry) {nodeType : NodeType} {name : Option String}
    {signature : List DataType} {row : NodeType × String × String}
    (h : provides nodeType name signature row = true) :
    ((reg.add row.1 row.2.1 row.2.2).1.lookup nodeType name signature).isSome = true := by
  unfold provides at h
  obtain ⟨htype, hcombinations⟩ := Bool.and_eq_true_iff.mp h
  obtain rfl := of_decide_eq_true htype
  clear h
  unfold add
  cases hparse : Spec.parse row.2.1 with
  | error e =>
    rw [hparse] at hcombinations
    cases hcombinations
  | ok groups =>
    rw [hparse] at hcombinations
    obtain ⟨hall, hmem⟩ := Bool.and_eq_true_iff.mp hcombinations
    rw [List.all_map, List.all_eq_true] at hall
    -- the key is that of one of the combinations
    obtain ⟨c, hc, hkey⟩ := List.mem_map.mp (List.contains_iff_mem.mp hmem)
    refine isSome_lookup_addCombinations (fun c hc => ?_) hc hkey
    obtain ⟨key, hsome, hok⟩ := (Option.any_eq_true _ _).mp (hall c hc)
    exact ⟨key, hsome, hok⟩

/-- **What a row provides is in the table's registry.** -/
theorem isSome_lookup_of_provides {table : List (NodeType × String × String)} {nodeType : NodeType}
    {name : Option String} {signature : List DataType}
    (h : (table.any (provides nodeType name signature)) = true) :
    ((ofTable table).lookup nodeType name signature).isSome = true := by
  obtain ⟨row, hrow, hprovides⟩ := List.any_eq_true.mp h
  obtain ⟨front, back, rfl⟩ := List.append_of_mem hrow
  rw [ofTable, List.foldl_append, List.foldl_cons, isSome_lookup_iff]
  -- the rules of the row are there right after it, and the rows that follow take none away
  obtain ⟨rule, hmem, hfor⟩ := isSome_lookup_iff.mp (isSome_lookup_add (ofTable front) hprovides)
  exact ⟨rule, keeps_addRows (P := fun reg => rule ∈ reg.latest) mem_insertRule_of_mem (fun _ h => h)
    hmem back, hfor⟩

end Registry

end QueryExpr
