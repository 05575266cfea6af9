import Mathlib.Algebra.Group.Nat.Defs
import Mathlib.Data.List.Induction
import Mathlib.Data.List.TakeWhile
import QueryExpr.Proofs.Rule.Lookup

/-!
# What a specification is expanded to

Registering a specification goes through its combinations one by one. Whether it gets past a
combination depends on what was there before the specification, and on the combination itself: it has
a key, and the key is taken or the template can be read for its operand types (`passes`). What the
combinations before it have brought does not matter, since a combination with the key of one of them
has the same operand types (`passes_insertRule`). So the combinations that are passed are the longest
front part of all of them that can be passed, and `Expands` says what comes of these: each is counted
as a new rule or as a duplicate, the new rules come after the ones that were there, and the first rule
for a key stays. Over several specifications, the rule for a key is the one of the first combination of
the first specification that makes one (`lookup_ofTable_eq_some_iff`).
-/

namespace QueryExpr

/-! ### Combinations -/

namespace Spec

/-- A combination is a choice of one member for each word. -/
theorem mem_combinations_iff {groups : List (List Member)} {c : List Member} :
    c ∈ combinations groups ↔ List.Forall₂ (fun m group => m ∈ group) c groups := by
  induction groups generalizing c with
  | nil => simp [combinations]
  | cons group groups ih =>
    rw [combinations, List.mem_flatMap, List.forall₂_cons_right_iff]
    constructor
    · rintro ⟨m, hm, hc⟩
      obtain ⟨rest, hrest, rfl⟩ := List.mem_map.mp hc
      exact ⟨m, rest, hm, ih.mp hrest, rfl⟩
    · rintro ⟨m, rest, hm, hrest, rfl⟩
      exact ⟨m, hm, List.mem_map_of_mem (ih.mpr hrest)⟩

/-- There are as many combinations as the numbers of members, multiplied. -/
theorem length_combinations (groups : List (List Member)) :
    (combinations groups).length = (groups.map List.length).prod := by
  induction groups with
  | nil => rfl
  | cons group groups ih =>
    simp only [combinations, List.length_flatMap, List.length_map, ih, List.map_const',
      List.sum_replicate_nat, List.map_cons, List.prod_cons]

end Spec

namespace Registry

section Combinations

variable (nodeType : NodeType) (spec template : String) (namePosition : Option Nat)

/-- The rule that a combination makes where nothing else is registered. -/
def ownRule? (c : List Spec.Member) : Option Rule :=
  (({} : Registry).ruleOf? nodeType spec template namePosition c).toOption.join

/-- Registering goes on after the combination: it has a key, and the key is taken or the template can be
read for its operand types. -/
def passes (reg : Registry) (c : List Spec.Member) : Bool :=
  (Spec.key? namePosition c).any fun key =>
    (reg.lookup nodeType key.1 key.2).isSome || (Template.parse template key.2).isOk

/-- What comes of a combination: it has no key, or its key is taken, or the template cannot be read for
its operand types, or it makes its rule. -/
inductive Outcome (reg : Registry) (c : List Spec.Member) : Except SpecError (Option Rule) → Prop where
  | keyless {e : SpecError} (key : Spec.key? namePosition c = none) : Outcome reg c (.error e)
  | taken {name : Option String} {signature : List DataType}
      (key : Spec.key? namePosition c = some (name, signature))
      (taken : (reg.lookup nodeType name signature).isSome = true) : Outcome reg c (.ok none)
  | unreadable {name : Option String} {signature : List DataType} {e : SpecError}
      (key : Spec.key? namePosition c = some (name, signature))
      (free : reg.lookup nodeType name signature = none)
      (parsed : Template.parse template signature = .error e) : Outcome reg c (.error e)
  | fresh {name : Option String} {signature : List DataType} {rule : Rule}
      (key : Spec.key? namePosition c = some (name, signature))
      (free : reg.lookup nodeType name signature = none)
      (parsed : (Template.parse template signature).isOk = true)
      (own : ownRule? nodeType spec template namePosition c = some rule)
      (isFor : rule.isFor nodeType name signature = true) : Outcome reg c (.ok (some rule))

end Combinations

section Outcomes

variable {nodeType : NodeType} {spec template : String} {namePosition : Option Nat}
  {c : List Spec.Member}

theorem exists_ruleOf?_of_keyless (nodeType : NodeType) (spec template : String)
    (h : Spec.key? namePosition c = none) :
    ∃ e, ∀ reg : Registry, reg.ruleOf? nodeType spec template namePosition c = .error e := by
  unfold Spec.key? at h
  split at h
  · cases h
  · next hresolve =>
    cases hitems : Spec.resolve c namePosition with
    | error e =>
      refine ⟨e, fun reg => ?_⟩
      rw [ruleOf?, hitems]
      rfl
    -- what is resolved does not begin with a type, so there is no result
    | ok items =>
      refine ⟨.missingResult spec, fun reg => ?_⟩
      rw [ruleOf?, hitems]
      cases items with
      | nil => rfl
      | cons first operands =>
        cases first with
        | type result => exact absurd hitems (hresolve result operands)
        | _ => rfl

/-- The rule that a combination makes is the one for its key. -/
theorem exists_ownRule? (nodeType : NodeType) (spec : String) {name : Option String}
    {signature : List DataType} (h : Spec.key? namePosition c = some (name, signature))
    (hparse : (Template.parse template signature).isOk = true) :
    ∃ rule, ownRule? nodeType spec template namePosition c = some rule ∧
      rule.isFor nodeType name signature = true := by
  obtain ⟨make, hfor, hrule⟩ := exists_ruleOf?_of_key nodeType spec template h
  cases hparts : Template.parse template signature with
  | error e => rw [hparts] at hparse; cases hparse
  | ok parts =>
    refine ⟨make parts, ?_, hfor parts⟩
    rw [ownRule?, hrule, hparts]
    rfl

/-- **The rule of a combination** that is resolved to a result and operands, for which the template can be
read. -/
theorem ownRule?_eq_some_iff {rule : Rule} :
    ownRule? nodeType spec template namePosition c = some rule ↔
      ∃ result operands parts, Spec.resolve c namePosition = .ok (.type result :: operands) ∧
        Template.parse template (Spec.types operands) = .ok parts ∧
        rule = ⟨nodeType, result, Spec.lastName? operands, Spec.types operands, parts,
          Spec.display nodeType spec result (Spec.types operands)⟩ := by
  constructor
  · intro h
    unfold ownRule? ruleOf? at h
    cases hitems : Spec.resolve c namePosition with
    | error e => rw [hitems] at h; cases h
    | ok items =>
      rw [hitems] at h
      match items, h with
      -- only a type can be the result
      | [], h | .ref _ :: _, h | .name _ :: _, h => cases h
      | .type result :: operands, h =>
        cases hparts : Template.parse template (Spec.types operands) with
        | error e =>
          simp only [bind, Except.bind, hparts] at h
          cases h
        | ok parts =>
          simp only [bind, Except.bind, hparts] at h
          cases h
          exact ⟨result, operands, parts, rfl, hparts, rfl⟩
  · rintro ⟨result, operands, parts, hresolve, hparts, rfl⟩
    rw [ownRule?, ruleOf?, hresolve]
    simp only [bind, Except.bind, hparts]
    rfl

theorem exists_key?_of_ownRule? {rule : Rule}
    (h : ownRule? nodeType spec template namePosition c = some rule) :
    ∃ name signature, Spec.key? namePosition c = some (name, signature) ∧
      (Template.parse template signature).isOk = true ∧
      rule.isFor nodeType name signature = true := by
  obtain ⟨result, operands, parts, hresolve, hparts, rfl⟩ := ownRule?_eq_some_iff.mp h
  refine ⟨Spec.lastName? operands, Spec.types operands, ?_, ?_, Rule.isFor_iff.mpr ⟨rfl, rfl, rfl⟩⟩
  · rw [Spec.key?, hresolve]
  · rw [hparts]
    rfl

variable (nodeType spec template namePosition c) in
/-- **What comes of a combination.** -/
theorem outcome (reg : Registry) : Outcome nodeType spec template namePosition reg c
    (reg.ruleOf? nodeType spec template namePosition c) := by
  cases hkey : Spec.key? namePosition c with
  | none =>
    obtain ⟨e, he⟩ := exists_ruleOf?_of_keyless nodeType spec template hkey
    rw [he]
    exact .keyless hkey
  | some key =>
    obtain ⟨make, hfor, hrule⟩ := exists_ruleOf?_of_key nodeType spec template hkey
    rw [hrule]
    cases hlookup : reg.lookup nodeType key.1 key.2 with
    | some rule => exact .taken hkey (by rw [hlookup]; rfl)
    | none =>
      cases hparts : Template.parse template key.2 with
      | error e => exact .unreadable hkey hlookup hparts
      | ok parts =>
        refine .fresh hkey hlookup (by rw [hparts]; rfl) ?_ (hfor parts)
        rw [ownRule?, hrule, hparts]
        rfl

theorem lookup_insertRule (reg : Registry) (rule : Rule) (nodeType : NodeType) (name : Option String)
    (signature : List DataType) :
    (reg.insertRule rule).lookup nodeType name signature =
      if rule.isFor nodeType name signature then some rule
      else reg.lookup nodeType name signature := by
  rw [lookup, latest_insertRule, List.find?_cons]
  cases rule.isFor nodeType name signature <;> rfl

theorem duplicates_insertRule (reg : Registry) (rule : Rule) :
    (reg.insertRule rule).duplicates = reg.duplicates := by
  unfold insertRule
  dsimp only
  split <;> rfl

theorem list_insertRule (reg : Registry) (rule : Rule) :
    (reg.insertRule rule).list = reg.list ++ [rule] := by
  rw [list, latest_insertRule, List.reverse_cons]
  rfl

/-- A rule of the specification itself does not change what can be passed: a combination with its key has
its operand types, for which the template has been read. -/
theorem passes_insertRule (reg : Registry) {rule : Rule} {name : Option String}
    {signature : List DataType} (hfor : rule.isFor nodeType name signature = true)
    (hparse : (Template.parse template signature).isOk = true) :
    (reg.insertRule rule).passes nodeType template namePosition =
      reg.passes nodeType template namePosition := by
  funext c
  unfold passes
  cases Spec.key? namePosition c with
  | none => rfl
  | some key =>
    rw [Option.any_some, Option.any_some, lookup_insertRule]
    split
    · next hkey =>
      -- the key of the new rule: its template has been read, so such a combination passed before as well
      have hsignature : key.2 = signature :=
        (Rule.isFor_iff.mp hkey).2.2.symm.trans (Rule.isFor_iff.mp hfor).2.2
      rw [hsignature, hparse, Bool.or_true, Bool.or_true]
    · rfl

end Outcomes

/-! ### Registering one specification -/

section Expansion

variable (nodeType : NodeType) (spec template : String) (namePosition : Option Nat)

/-- What passing some combinations does to a registry, in which they have brought the new rules. -/
structure Expands (reg : Registry) (passed : List (List Spec.Member)) (new : List Rule)
    (reg' : Registry) : Prop where
  /-- The new rules come after the others. -/
  list : reg'.list = reg.list ++ new
  /-- Each combination is a new rule or a duplicate. -/
  counted : reg'.duplicates + new.length = reg.duplicates + passed.length
  /-- The new rules are made by the combinations, in their order. -/
  made : new.Sublist (passed.filterMap (ownRule? nodeType spec template namePosition))
  /-- The rule for a key is the one that was there, or the first one that is made. -/
  lookup : ∀ nodeType' name signature, reg'.lookup nodeType' name signature =
    (reg.lookup nodeType' name signature).or
      ((passed.filterMap (ownRule? nodeType spec template namePosition)).find? fun rule =>
        rule.isFor nodeType' name signature)

/-- How registering comes to an end: with the number of new rules if no combination is left, and else
with what is wrong with the next combination. -/
def Ends (reg : Registry) (added : Nat) (result : Except SpecError Nat) :
    List (List Spec.Member) → Prop
  | [] => result = .ok added
  | c :: _ => ∃ e, reg.ruleOf? nodeType spec template namePosition c = .error e ∧ result = .error e

/-- What comes of registering combinations: those that can be passed are expanded, and the first one that
cannot be passed is the end of it. -/
def Registers (reg : Registry) (cs : List (List Spec.Member))
    (step : Registry × Except SpecError Nat) : Prop :=
  ∃ new, Expands nodeType spec template namePosition reg
      (cs.takeWhile (reg.passes nodeType template namePosition)) new step.1 ∧
    Ends nodeType spec template namePosition step.1 new.length step.2
      (cs.dropWhile (reg.passes nodeType template namePosition))

variable {nodeType spec template namePosition} {reg reg' : Registry} {c : List Spec.Member}
  {passed : List (List Spec.Member)} {new : List Rule} {name : Option String}
  {signature : List DataType}

theorem expands_nil (reg : Registry) : Expands nodeType spec template namePosition reg [] [] reg where
  list := (List.append_nil _).symm
  counted := rfl
  made := .slnil
  lookup := fun _ _ _ => Option.or_none.symm

/-- A combination whose key is taken comes first. -/
theorem Expands.taken (hkey : Spec.key? namePosition c = some (name, signature))
    (htaken : (reg.lookup nodeType name signature).isSome = true)
    (h : Expands nodeType spec template namePosition { reg with duplicates := reg.duplicates + 1 }
      passed new reg') :
    Expands nodeType spec template namePosition reg (c :: passed) new reg' where
  list := h.list
  counted := by
    have hcounted := h.counted
    rw [List.length_cons]
    dsimp only at hcounted
    omega
  made := h.made.trans ((List.sublist_cons_self c passed).filterMap _)
  lookup := by
    intro nodeType' name' signature'
    have hlookup : reg'.lookup nodeType' name' signature' =
        (reg.lookup nodeType' name' signature').or _ := h.lookup nodeType' name' signature'
    rw [hlookup, List.filterMap_cons]
    cases hown : ownRule? nodeType spec template namePosition c with
    | none => rfl
    | some rule =>
      rw [List.find?_cons]
      cases hfor' : rule.isFor nodeType' name' signature' with
      | false => rfl
      | true =>
        -- the key is that of the combination, and has its rule already
        obtain ⟨name₀, signature₀, hkey₀, -, hfor⟩ := exists_key?_of_ownRule? hown
        cases hkey.symm.trans hkey₀
        obtain ⟨rfl, rfl, rfl⟩ := Rule.isFor_iff.mp hfor
        obtain ⟨rfl, rfl, rfl⟩ := Rule.isFor_iff.mp hfor'
        obtain ⟨old, hold⟩ := Option.isSome_iff_exists.mp htaken
        rw [hold, Option.some_or, Option.some_or]

/-- A combination that makes a rule comes first. -/
theorem Expands.fresh {rule : Rule} (hfree : reg.lookup nodeType name signature = none)
    (hown : ownRule? nodeType spec template namePosition c = some rule)
    (hfor : rule.isFor nodeType name signature = true)
    (h : Expands nodeType spec template namePosition (reg.insertRule rule) passed new reg') :
    Expands nodeType spec template namePosition reg (c :: passed) (rule :: new) reg' where
  list := by
    rw [h.list, list_insertRule, List.append_assoc]
    rfl
  counted := by
    have hcounted := h.counted
    rw [duplicates_insertRule] at hcounted
    rw [List.length_cons, List.length_cons]
    omega
  made := by
    rw [List.filterMap_cons, hown]
    exact h.made.cons_cons rule
  lookup := by
    intro nodeType' name' signature'
    rw [h.lookup, lookup_insertRule, List.filterMap_cons, hown, List.find?_cons]
    -- the new rule is the first one for its key, which was free
    cases hfor' : rule.isFor nodeType' name' signature' with
    | false => rfl
    | true =>
      obtain ⟨rfl, rfl, rfl⟩ := Rule.isFor_iff.mp hfor
      obtain ⟨rfl, rfl, rfl⟩ := Rule.isFor_iff.mp hfor'
      rw [hfree, Option.none_or]
      rfl

theorem Ends.succ {added : Nat} {result : Except SpecError Nat} {rest : List (List Spec.Member)}
    (h : Ends nodeType spec template namePosition reg added result rest) :
    Ends nodeType spec template namePosition reg (added + 1) (result.map (· + 1)) rest := by
  cases rest with
  | nil =>
    obtain rfl : result = .ok added := h
    rfl
  | cons c rest =>
    obtain ⟨e, he, rfl⟩ := h
    exact ⟨e, he, rfl⟩

theorem registers_stop {e : SpecError} (cs : List (List Spec.Member))
    (he : reg.ruleOf? nodeType spec template namePosition c = .error e)
    (hpasses : reg.passes nodeType template namePosition c = false) :
    Registers nodeType spec template namePosition reg (c :: cs) (reg, .error e) := by
  unfold Registers
  rw [List.takeWhile_cons, List.dropWhile_cons, hpasses]
  exact ⟨[], expands_nil reg, e, he, rfl⟩

variable (nodeType spec template namePosition) in
/-- **Registering combinations passes as many of them as can be passed.** -/
theorem registers_addCombinations (reg : Registry) (cs : List (List Spec.Member)) :
    Registers nodeType spec template namePosition reg cs
      (addCombinations nodeType spec template namePosition reg cs) := by
  -- along the combinations; whether one passes does not depend on the rules that the ones before it have
  -- brought, which is why the run ends where the first one fails to pass in the registry at the start
  induction cs generalizing reg with
  | nil => exact ⟨[], expands_nil reg, rfl⟩
  | cons c cs ih =>
    have houtcome := outcome nodeType spec template namePosition c reg
    rw [addCombinations]
    generalize hresult : reg.ruleOf? nodeType spec template namePosition c = result at houtcome
    cases houtcome with
    | keyless key => exact registers_stop cs hresult (by rw [passes, key, Option.any_none])
    | unreadable key free parsed =>
      refine registers_stop cs hresult ?_
      rw [passes, key, Option.any_some, free, parsed]
      rfl
    | taken key taken =>
      have hpasses : reg.passes nodeType template namePosition c = true := by
        rw [passes, key, Option.any_some, taken, Bool.true_or]
      obtain ⟨new, hexpands, hends⟩ := ih { reg with duplicates := reg.duplicates + 1 }
      refine ⟨new, ?_, ?_⟩
      · rw [List.takeWhile_cons, hpasses]
        exact hexpands.taken key taken
      · rw [List.dropWhile_cons, hpasses]
        exact hends
    | @fresh name signature rule key free parsed own isFor =>
      have hpasses : reg.passes nodeType template namePosition c = true := by
        rw [passes, key, Option.any_some, parsed, Bool.or_true]
      obtain ⟨new, hexpands, hends⟩ := ih (reg.insertRule rule)
      rw [passes_insertRule reg isFor parsed] at hexpands hends
      refine ⟨rule :: new, ?_, ?_⟩
      · rw [List.takeWhile_cons, hpasses]
        exact hexpands.fresh free own isFor
      · rw [List.dropWhile_cons, hpasses]
        exact hends.succ

/-- Each combination that is passed has a rule in the end. -/
theorem Expands.isSome_lookup (h : Expands nodeType spec template namePosition reg passed new reg')
    (hc : c ∈ passed) (hpasses : reg.passes nodeType template namePosition c = true) :
    ∃ name signature, Spec.key? namePosition c = some (name, signature) ∧
      (reg'.lookup nodeType name signature).isSome = true := by
  obtain ⟨⟨name, signature⟩, hkey, hor⟩ := (Option.any_eq_true _ _).mp hpasses
  refine ⟨name, signature, hkey, ?_⟩
  rw [h.lookup, Option.isSome_or]
  rcases Bool.or_eq_true_iff.mp hor with htaken | hparse
  · rw [htaken, Bool.true_or]
  · obtain ⟨rule, hown, hfor⟩ := exists_ownRule? nodeType spec hkey hparse
    rw [Bool.or_eq_true_iff]
    exact .inr (List.find?_isSome.mpr ⟨rule, List.mem_filterMap.mpr ⟨c, hc, hown⟩, hfor⟩)

theorem Registers.of_ok {cs : List (List Spec.Member)} {n : Nat}
    (h : Registers nodeType spec template namePosition reg cs (reg', .ok n)) :
    ∃ new, Expands nodeType spec template namePosition reg cs new reg' ∧ new.length = n ∧
      ∀ c ∈ cs, reg.passes nodeType template namePosition c = true := by
  obtain ⟨new, hexpands, hends⟩ := h
  cases hrest : cs.dropWhile (reg.passes nodeType template namePosition) with
  -- nothing is left, so all combinations have passed
  | nil =>
    rw [hrest] at hends
    cases hends
    have hall := List.dropWhile_eq_nil_iff.mp hrest
    rw [List.takeWhile_eq_self_iff.mpr hall] at hexpands
    exact ⟨new, hexpands, rfl, hall⟩
  | cons c rest =>
    rw [hrest] at hends
    obtain ⟨e, -, heq⟩ := hends
    cases heq

theorem Registers.of_error {cs : List (List Spec.Member)} {e : SpecError}
    (h : Registers nodeType spec template namePosition reg cs (reg', .error e)) :
    ∃ before c after new, cs = before ++ c :: after ∧
      Expands nodeType spec template namePosition reg before new reg' ∧
      reg'.ruleOf? nodeType spec template namePosition c = .error e ∧
      ∀ b ∈ before, reg.passes nodeType template namePosition b = true := by
  obtain ⟨new, hexpands, hends⟩ := h
  cases hrest : cs.dropWhile (reg.passes nodeType template namePosition) with
  | nil =>
    rw [hrest] at hends
    cases hends
  | cons c rest =>
    rw [hrest] at hends
    obtain ⟨e', hrule, heq⟩ := hends
    cases heq
    refine ⟨_, c, rest, new, ?_, hexpands, hrule, fun b hb => List.mem_takeWhile_imp hb⟩
    rw [← hrest, List.takeWhile_append_dropWhile]

end Expansion

/-- **Registering a specification**: it cannot be read, or its combinations are registered. -/
theorem add_cases (reg : Registry) (nodeType : NodeType) (spec template : String) :
    (∃ e, Spec.parse spec = .error e ∧ reg.add nodeType spec template = (reg, .error e)) ∨
    ∃ groups, Spec.parse spec = .ok groups ∧
      Registers nodeType spec template (Spec.namePosition? groups) reg (Spec.combinations groups)
        (reg.add nodeType spec template) := by
  unfold add
  cases Spec.parse spec with
  | error e => exact .inl ⟨e, rfl, rfl⟩
  | ok groups => exact .inr ⟨groups, rfl, registers_addCombinations _ _ _ _ _ _⟩

/-! ### Registering several specifications -/

/-- The specification, registered in addition to what there is, brings the rule for a key that is free: no
combination before the one that makes the rule has the key, and all of them are passed. -/
structure Brings (reg : Registry) (nodeType : NodeType) (spec template : String)
    (name : Option String) (signature : List DataType) (rule : Rule) : Prop where
  free : reg.lookup nodeType name signature = none
  first : ∃ groups before c after, Spec.parse spec = .ok groups ∧
    Spec.combinations groups = before ++ c :: after ∧
    (∀ b ∈ before, reg.passes nodeType template (Spec.namePosition? groups) b = true ∧
      Spec.key? (Spec.namePosition? groups) b ≠ some (name, signature)) ∧
    Spec.key? (Spec.namePosition? groups) c = some (name, signature) ∧
    ownRule? nodeType spec template (Spec.namePosition? groups) c = some rule

/-- The rules that the combinations of a specification make as far as they are passed, those for taken
keys included. -/
def made (reg : Registry) (nodeType : NodeType) (spec template : String)
    (groups : List (List Spec.Member)) : List Rule :=
  ((Spec.combinations groups).takeWhile
    (reg.passes nodeType template (Spec.namePosition? groups))).filterMap
      (ownRule? nodeType spec template (Spec.namePosition? groups))

section Tables

variable {reg : Registry} {nodeType nodeType' : NodeType} {spec template : String}
  {name : Option String} {signature : List DataType} {rule : Rule}

/-- The first rule for a free key that the passed combinations make is the one that is brought. -/
theorem brings_of_find? {groups : List (List Spec.Member)} (hparse : Spec.parse spec = .ok groups)
    (hfree : reg.lookup nodeType' name signature = none)
    (hfind : ((reg.made nodeType spec template groups).find? fun rule =>
      rule.isFor nodeType' name signature) = some rule) :
    nodeType = nodeType' ∧ reg.Brings nodeType spec template name signature rule := by
  rw [made, List.find?_filterMap] at hfind
  obtain ⟨c, hc, hown⟩ := Option.bind_eq_some_iff.mp hfind
  obtain ⟨hany, before, after, hpassed, hbefore⟩ := List.find?_eq_some_iff_append.mp hc
  rw [hown, Option.any_some] at hany
  obtain ⟨name₀, signature₀, hkey, -, hfor⟩ := exists_key?_of_ownRule? hown
  obtain ⟨rfl, rfl, rfl⟩ := Rule.isFor_iff.mp hfor
  obtain ⟨rfl, rfl, rfl⟩ := Rule.isFor_iff.mp hany
  let rest := (Spec.combinations groups).dropWhile
    (reg.passes rule.nodeType template (Spec.namePosition? groups))
  refine ⟨rfl, hfree, groups, before, c, after ++ rest, hparse, ?_, fun b hb => ?_, hkey, hown⟩
  · rw [← List.cons_append, ← List.append_assoc, ← hpassed, List.takeWhile_append_dropWhile]
  · have hpasses : reg.passes rule.nodeType template (Spec.namePosition? groups) b = true :=
      List.mem_takeWhile_imp (hpassed ▸ List.mem_append_left _ hb)
    refine ⟨hpasses, fun hkey' => ?_⟩
    -- with the key free, a combination that has it would have made a rule for it
    obtain ⟨key, hsome, hor⟩ := (Option.any_eq_true _ _).mp hpasses
    cases hkey'.symm.trans hsome
    rw [hfree, Option.isSome_none, Bool.false_or] at hor
    obtain ⟨rule', hown', hfor'⟩ := exists_ownRule? rule.nodeType spec hkey' hor
    have hnot := hbefore b hb
    rw [hown', Option.any_some, hfor'] at hnot
    cases hnot

/-- What is brought is the first rule for its key that the passed combinations make. -/
theorem Brings.find? (h : reg.Brings nodeType spec template name signature rule)
    {groups : List (List Spec.Member)} (hparse : Spec.parse spec = .ok groups) :
    ((reg.made nodeType spec template groups).find? fun rule =>
      rule.isFor nodeType name signature) = some rule := by
  obtain ⟨groups', before, c, after, hparse', hsplit, hbefore, hkey, hown⟩ := h.first
  cases hparse.symm.trans hparse'
  obtain ⟨name₀, signature₀, hkey₀, hread, hfor⟩ := exists_key?_of_ownRule? hown
  cases hkey.symm.trans hkey₀
  have hpasses : reg.passes nodeType template (Spec.namePosition? groups) c = true := by
    rw [passes, hkey, Option.any_some, hread, Bool.or_true]
  rw [made, hsplit, List.takeWhile_append_of_pos fun b hb => (hbefore b hb).1, List.takeWhile_cons, hpasses,
    if_pos rfl, List.filterMap_append, List.filterMap_cons, hown, List.find?_append]
  -- the combinations before this one have other keys
  have hnone : ((before.filterMap (ownRule? nodeType spec template (Spec.namePosition? groups))).find?
      fun rule => rule.isFor nodeType name signature) = none := by
    refine List.find?_eq_none.mpr fun rule' hmem hfor' => ?_
    obtain ⟨b, hb, hown'⟩ := List.mem_filterMap.mp hmem
    obtain ⟨name₁, signature₁, hkey₁, -, hfor₁⟩ := exists_key?_of_ownRule? hown'
    obtain ⟨-, rfl, rfl⟩ := Rule.isFor_iff.mp hfor₁
    obtain ⟨-, rfl, rfl⟩ := Rule.isFor_iff.mp hfor'
    exact (hbefore b hb).2 hkey₁
  rw [hnone, Option.none_or, List.find?_cons, hfor]

/-- **Look-up after a specification**: the rule was there, or the specification brings it. -/
theorem lookup_add_eq_some_iff :
    (reg.add nodeType spec template).1.lookup nodeType' name signature = some rule ↔
      reg.lookup nodeType' name signature = some rule ∨
        nodeType = nodeType' ∧ reg.Brings nodeType spec template name signature rule := by
  rcases add_cases reg nodeType spec template with ⟨e, hparse, hadd⟩ | ⟨groups, hparse, new, hexpands, -⟩
  · rw [hadd]
    refine ⟨.inl, fun h => h.elim id ?_⟩
    rintro ⟨-, -, groups, _, _, _, hparse', -⟩
    cases hparse.symm.trans hparse'
  · rw [hexpands.lookup, Option.or_eq_some_iff]
    refine or_congr Iff.rfl ⟨fun h => brings_of_find? hparse h.1 h.2, ?_⟩
    rintro ⟨rfl, hbrings⟩
    exact ⟨hbrings.free, hbrings.find? hparse⟩

theorem ofTable_append (front back : List (NodeType × String × String)) :
    ofTable (front ++ back) =
      back.foldl (fun reg row => (reg.add row.1 row.2.1 row.2.2).1) (ofTable front) :=
  List.foldl_append

/-- A rule that is found is found ever after. -/
theorem lookup_ofTable_append {front : List (NodeType × String × String)}
    (h : (ofTable front).lookup nodeType name signature = some rule)
    (back : List (NodeType × String × String)) :
    (ofTable (front ++ back)).lookup nodeType name signature = some rule := by
  rw [ofTable_append]
  generalize ofTable front = reg at h
  induction back generalizing reg with
  | nil => exact h
  | cons row back ih => exact ih _ (lookup_add_eq_some_iff.mpr (.inl h))

/-- **The rule for a key is the one that the first specification brings.** -/
theorem lookup_ofTable_eq_some_iff {table : List (NodeType × String × String)} :
    (ofTable table).lookup nodeType name signature = some rule ↔
      ∃ front spec template back, table = front ++ (nodeType, spec, template) :: back ∧
        (ofTable front).Brings nodeType spec template name signature rule := by
  constructor
  · intro h
    -- the specifications are taken back one by one, until the rule is not found any more
    induction table using List.reverseRecOn with
    | nil => cases h
    | append_singleton table row ih =>
      rw [ofTable_append, List.foldl_cons, List.foldl_nil] at h
      rcases lookup_add_eq_some_iff.mp h with hfound | ⟨rfl, hbrings⟩
      · obtain ⟨front, spec, template, back, rfl, hbrings⟩ := ih hfound
        exact ⟨front, spec, template, back ++ [row], by simp, hbrings⟩
      · exact ⟨table, row.2.1, row.2.2, [], rfl, hbrings⟩
  · rintro ⟨front, spec, template, back, rfl, hbrings⟩
    have hfound : (ofTable (front ++ [(nodeType, spec, template)])).lookup nodeType name signature =
        some rule := by
      rw [ofTable_append]
      exact lookup_add_eq_some_iff.mpr (.inr ⟨rfl, hbrings⟩)
    have happend := lookup_ofTable_append hfound back
    rwa [List.append_assoc] at happend

/-- All rules with this key that the row makes have the property. -/
def makesOnly (property : Rule → Bool) (nodeType : NodeType) (name : Option String)
    (signature : List DataType) (row : NodeType × String × String) : Bool :=
  row.1 ≠ nodeType ||
    match Spec.parse row.2.1 with
    | .error _ => true
    | .ok groups =>
      (Spec.combinations groups).all fun c =>
        Spec.key? (Spec.namePosition? groups) c ≠ some (name, signature) ||
          (ownRule? nodeType row.2.1 row.2.2 (Spec.namePosition? groups) c).all property

/-- **The rule for a key has what all rules have that the rows make for the key.** The rows can be looked
at one by one, whatever is registered before them. -/
theorem property_of_lookup {table : List (NodeType × String × String)} {property : Rule → Bool}
    (h : (table.all (makesOnly property nodeType name signature)) = true)
    (hlookup : (ofTable table).lookup nodeType name signature = some rule) :
    property rule = true := by
  obtain ⟨front, spec, template, back, rfl, hbrings⟩ := lookup_ofTable_eq_some_iff.mp hlookup
  obtain ⟨groups, before, c, after, hparse, hsplit, -, hkey, hown⟩ := hbrings.first
  have hrow := List.all_eq_true.mp h (nodeType, spec, template) (by simp)
  have hc : c ∈ Spec.combinations groups := by simp [hsplit]
  simp only [makesOnly, hparse, ne_eq, not_true_eq_false, decide_false, Bool.false_or] at hrow
  simpa [hkey, hown] using List.all_eq_true.mp hrow c hc

end Tables

/-- **A specification is expanded completely, and the first rule for a key stays.** If it can be registered
then its new rules and its duplicates are together as many as the numbers of members of its words,
multiplied; each choice of members has a rule for its key; and the rules that were there are still
there, with the new ones after them. If it cannot be registered then either it cannot be read, and
nothing has changed, or there is a first combination that makes no rule: the rules that were there are
still there, and only rules of the combinations before this one come after them. After any
specifications, whether they could be registered or not, the rule for a key is the one that the first
combination with this key has made, in the first specification that has made one. -/
theorem add_complete_first_wins :
    (∀ (reg reg' : Registry) (nodeType : NodeType) (spec template : String) (n : Nat),
      reg.add nodeType spec template = (reg', .ok n) →
      ∃ groups new, Spec.parse spec = .ok groups ∧
        reg.duplicates ≤ reg'.duplicates ∧
        n + (reg'.duplicates - reg.duplicates) = (groups.map List.length).prod ∧
        reg'.size = reg.size + n ∧
        (∀ c, List.Forall₂ (fun m group => m ∈ group) c groups →
          ∃ name signature, Spec.key? (Spec.namePosition? groups) c = some (name, signature) ∧
            (reg'.lookup nodeType name signature).isSome = true) ∧
        reg'.list = reg.list ++ new ∧
        new.Sublist ((Spec.combinations groups).filterMap
          (ownRule? nodeType spec template (Spec.namePosition? groups)))) ∧
    (∀ (reg reg' : Registry) (nodeType : NodeType) (spec template : String) (e : SpecError),
      reg.add nodeType spec template = (reg', .error e) →
      (Spec.parse spec = .error e ∧ reg' = reg) ∨
      ∃ groups before c after new, Spec.parse spec = .ok groups ∧
        Spec.combinations groups = before ++ c :: after ∧
        reg'.ruleOf? nodeType spec template (Spec.namePosition? groups) c = .error e ∧
        (∀ b ∈ before, ∃ name signature,
          Spec.key? (Spec.namePosition? groups) b = some (name, signature) ∧
            (reg'.lookup nodeType name signature).isSome = true) ∧
        reg'.list = reg.list ++ new ∧
        new.Sublist (before.filterMap
          (ownRule? nodeType spec template (Spec.namePosition? groups)))) ∧
    ∀ (table : List (NodeType × String × String)) (nodeType : NodeType) (name : Option String)
      (signature : List DataType) (rule : Rule),
      (ofTable table).lookup nodeType name signature = some rule ↔
        ∃ front spec template back, table = front ++ (nodeType, spec, template) :: back ∧
          (ofTable front).Brings nodeType spec template name signature rule := by
  refine ⟨fun reg reg' nodeType spec template n hadd => ?_,
    fun reg reg' nodeType spec template e hadd => ?_,
    fun table nodeType name signature rule => lookup_ofTable_eq_some_iff⟩
  · rcases add_cases reg nodeType spec template with ⟨e, -, herror⟩ | ⟨groups, hparse, hregisters⟩
    · cases hadd.symm.trans herror
    · rw [hadd] at hregisters
      obtain ⟨new, hexpands, rfl, hall⟩ := hregisters.of_ok
      -- each combination makes a rule or is counted as a duplicate
      have hcounted := hexpands.counted
      rw [Spec.length_combinations] at hcounted
      have hlist := hexpands.list
      have hsize : reg'.size = reg.size + new.length := by
        simpa [list, size] using congrArg List.length hlist
      have hle : new.length ≤ (groups.map List.length).prod := by
        rw [← Spec.length_combinations]
        exact hexpands.made.length_le.trans (List.length_filterMap_le _ _)
      refine ⟨groups, new, hparse, by omega, by omega, hsize, fun c hc => ?_, hlist, hexpands.made⟩
      have hmem := Spec.mem_combinations_iff.mpr hc
      exact hexpands.isSome_lookup hmem (hall c hmem)
  · rcases add_cases reg nodeType spec template with ⟨e', hparse, herror⟩ | ⟨groups, hparse, hregisters⟩
    · cases hadd.symm.trans herror
      exact .inl ⟨hparse, rfl⟩
    · rw [hadd] at hregisters
      -- the combinations before the bad one are registered as if there were no others
      obtain ⟨before, c, after, new, hsplit, hexpands, hrule, hall⟩ := hregisters.of_error
      exact .inr ⟨groups, before, c, after, new, hparse, hsplit, hrule,
        fun b hb => hexpands.isSome_lookup hb (hall b hb), hexpands.list, hexpands.made⟩

/-- Two results for each of two operand types: the second ones are duplicates. A specification that breaks
off at its third combination has brought the first one by then, and its second one was there. -/
theorem add_complete_first_wins_union :
    ∃ reg reg' : Registry,
      ({} : Registry).add .func "INT_STR <- f(BOOL_INT)" "f({s1})" = (reg, .ok 2) ∧
      reg.add .func "NUMBER <- f(STR_INT_T9)" "g({s1})" = (reg', .error (.refOutOfRange 9)) ∧
      reg.size = 2 ∧ reg.duplicates = 2 ∧
      (∃ new, reg'.list = reg.list ++ new ∧ new.map Rule.signature = [[.str]]) ∧
      ∃ rule, reg'.lookup .func (some "f") [.int] = some rule ∧ rule.result = .int ∧
        Brings {} .func "INT_STR <- f(BOOL_INT)" "f({s1})" (some "f") [.int] rule := by
  let row : NodeType × String × String := (.func, "INT_STR <- f(BOOL_INT)", "f({s1})")
  let row' : NodeType × String × String := (.func, "NUMBER <- f(STR_INT_T9)", "g({s1})")
  let reg := ofTable [row]
  have hadd : ({} : Registry).add row.1 row.2.1 row.2.2 = (reg, .ok 2) :=
    Prod.ext rfl (by decide +kernel)
  have hadd' : reg.add row'.1 row'.2.1 row'.2.2 = (ofTable [row, row'], .error (.refOutOfRange 9)) :=
    Prod.ext rfl (by decide +kernel)
  obtain ⟨hok, herror, hlookup⟩ := add_complete_first_wins
  obtain ⟨groups, -, hparse, -, hcount, hsize, -⟩ := hok _ _ _ _ _ _ hadd
  have hproduct : (Spec.parse row.2.1).toOption.map (fun groups => (groups.map List.length).prod) =
      some 4 := by decide +kernel
  rw [hparse] at hproduct
  -- of four combinations two make a rule
  have hduplicates : reg.duplicates = 2 :=
    Nat.add_left_cancel (hcount.trans (Option.some.inj hproduct))
  have hfound : ((ofTable [row, row']).lookup .func (some "f") [.int]).map Rule.result = some .int := by
    decide +kernel
  obtain ⟨rule, hrule, hresult⟩ := Option.map_eq_some_iff.mp hfound
  refine ⟨reg, _, hadd, hadd', hsize, hduplicates, ?_, rule, hrule, hresult, ?_⟩
  · rcases herror _ _ _ _ _ _ hadd' with ⟨hbad, -⟩ | ⟨_, _, _, _, new, -, -, -, -, hlist, -⟩
    · have hread : (Spec.parse row'.2.1).isOk = true := by decide +kernel
      rw [hbad] at hread
      cases hread
    · refine ⟨new, hlist, ?_⟩
      have hsignatures := congrArg (List.map Rule.signature) hlist
      rw [List.map_append] at hsignatures
      have hbefore : reg.list.map Rule.signature = [[.bool], [.int]] := by decide +kernel
      have hafter : (ofTable [row, row']).list.map Rule.signature = [[.bool], [.int], [.str]] := by
        decide +kernel
      rw [hbefore, hafter] at hsignatures
      simpa using hsignatures.symm
  · obtain ⟨front, spec, template, back, hsplit, hbrings⟩ := (hlookup _ _ _ _ _).mp hrule
    rcases front with _ | ⟨first, _ | ⟨second, front⟩⟩
    · obtain ⟨-, hrow⟩ := Prod.mk.inj (List.cons.inj hsplit).1
      obtain ⟨rfl, rfl⟩ := Prod.mk.inj hrow
      exact hbrings
    · -- after the first specification the key is not free
      obtain ⟨rfl, -⟩ := List.cons.inj hsplit
      have htaken : ((ofTable [row]).lookup .func (some "f") [.int]).isSome = true := by decide +kernel
      rw [hbrings.free] at htaken
      cases htaken
    · simp at hsplit

end Registry
end QueryExpr
