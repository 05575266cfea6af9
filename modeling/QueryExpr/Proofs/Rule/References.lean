import Mathlib.Data.List.Forall2
import QueryExpr.Proofs.Rule.Expansion
import QueryExpr.Proofs.Term.Resolved

/-!
# References between the types of a specification

A reference `T<k>` counts the types of a specification and leaves out the name, while a combination
holds the name among its members. `positions` is the combination as the reference counts it, and the
place at which a reference is looked up is the position that it counts to (`Named.getElem?_place`).
So a rule has the same type at the position of a reference and at the position that it refers to, and
a combination is refused exactly for its leftmost reference to a reference or past the last type.

There is one reference that counts wrong. The place is a machine word, and if the name has to be
skipped on the way to the largest position then the count wraps around to the result. The position
that a reference really refers to is its `referent`, which differs from it in this case only.
-/

namespace QueryExpr

/-! ### Traversals that can fail -/

section Traversal

variable {α β ε : Type} {f : α → Except ε β}

/-- A traversal succeeds if each step does. -/
theorem mapM_eq_ok_iff {xs : List α} {ys : List β} :
    xs.mapM f = .ok ys ↔ List.Forall₂ (fun x y => f x = .ok y) xs ys := by
  induction xs generalizing ys with
  | nil => simp [pure, Except.pure, eq_comm]
  | cons x xs ih =>
    rw [List.mapM_cons, List.forall₂_cons_left_iff]
    cases hx : f x with
    | error e => simp [bind, Except.bind]
    | ok y =>
      cases hxs : xs.mapM f with
      | error e =>
        simp only [bind, Except.bind, reduceCtorEq, false_iff, not_exists, not_and]
        intro y' ys' _ hrest
        rw [← ih, hxs] at hrest
        cases hrest
      | ok ys' =>
        simp only [bind, Except.bind, pure, Except.pure, Except.ok.injEq]
        constructor
        · rintro rfl
          exact ⟨y, ys', rfl, ih.mp hxs, rfl⟩
        · rintro ⟨_, ys'', rfl, hrest, rfl⟩
          rw [← ih, hxs] at hrest
          cases hrest
          rfl

/-- A traversal fails as its first step that fails. -/
theorem mapM_eq_error_iff {xs : List α} {e : ε} :
    xs.mapM f = .error e ↔ ∃ front x back, xs = front ++ x :: back ∧
      (∀ y ∈ front, ∃ z, f y = .ok z) ∧ f x = .error e := by
  induction xs with
  | nil => simp [pure, Except.pure]
  | cons x xs ih =>
    rw [List.mapM_cons]
    constructor
    · intro h
      cases hx : f x with
      -- the first one fails already
      | error e' =>
        rw [hx] at h
        cases h
        exact ⟨[], x, xs, rfl, List.forall_mem_nil _, hx⟩
      | ok y =>
        rw [hx] at h
        cases hxs : xs.mapM f with
        | ok ys => rw [hxs] at h; cases h
        | error e' =>
          rw [hxs] at h
          cases h
          -- the first one is done, and one of the others fails
          obtain ⟨front, x', back, rfl, hfront, hx'⟩ := ih.mp hxs
          exact ⟨x :: front, x', back, rfl, List.forall_mem_cons.mpr ⟨⟨y, hx⟩, hfront⟩, hx'⟩
    · rintro ⟨front, x', back, hsplit, hfront, hx'⟩
      cases front with
      | nil =>
        cases hsplit
        rw [hx']
        rfl
      | cons y front =>
        cases hsplit
        obtain ⟨⟨z, hz⟩, hrest⟩ := List.forall_mem_cons.mp hfront
        rw [hz, ih.mpr ⟨front, x', back, rfl, hrest, hx'⟩]
        rfl

end Traversal

namespace Spec

/-! ### Positions -/

/-- The member takes part in counting positions. -/
def Member.isCounted : Member → Bool
  | .name _ => false
  | _ => true

/-- The members of a combination as references count them. -/
def positions (c : List Member) : List Member := c.filter Member.isCounted

/-- The position that `T<k>` refers to. It is `k`, unless counting past the name exceeds a machine
word. -/
def referent : Option Nat → Nat → Nat
  | some p, k => if p ≤ k ∧ k + 1 = UInt64.size then 0 else k
  | none, k => k

theorem referent_eq_self {k : Nat} (namePosition : Option Nat) (hk : k + 1 < UInt64.size) :
    referent namePosition k = k := by
  cases namePosition with
  | none => rfl
  | some p => exact if_neg fun h => Nat.ne_of_lt hk h.2

/-! ### Words -/

/-- The member is a type, or a reference that fits into a machine word. -/
def Member.IsTypal (m : Member) : Prop := (∃ t, m = .type t) ∨ ∃ k, m = .ref k ∧ k < UInt64.size

theorem Member.IsTypal.isCounted {m : Member} (h : m.IsTypal) : m.isCounted = true := by
  rcases h with ⟨t, rfl⟩ | ⟨k, rfl, -⟩ <;> rfl

theorem isTypal_of_member {word : List Char} {m : Member} (h : member word = .ok m) : m.IsTypal := by
  unfold member at h
  split at h
  · next k hk =>
    cases h
    refine .inr ⟨k, rfl, ?_⟩
    unfold refPosition? at hk
    split at hk
    · split at hk
      · next digits hdigits =>
        cases hk
        exact hdigits.2.2
      · cases hk
    · cases hk
  · split at h
    · cases h
      exact .inl ⟨_, rfl⟩
    · cases h

/-- A word is a name, or its members are types and references. -/
theorem isName_or_isTypal {spec : String} {groups : List (List Member)}
    (h : parse spec = .ok groups) {group : List Member} (hgroup : group ∈ groups) :
    (∃ n, group = [.name n]) ∨ ∀ m ∈ group, m.IsTypal := by
  obtain ⟨word, -, hword⟩ := exists_mem_of_forall₂ (mapM_eq_ok_iff.mp h) hgroup
  unfold members at hword
  split at hword
  · refine .inr fun m hm => ?_
    obtain ⟨w, -, hw⟩ := exists_mem_of_forall₂ (mapM_eq_ok_iff.mp hword) hm
    exact isTypal_of_member hw
  · cases hword
    exact .inl ⟨_, rfl⟩

/-! ### The name of a combination -/

/-- The combination has no name, or one name that is not its first member, at the place given. All
others are types and references. -/
inductive Named : Option Nat → List Member → Prop where
  | nameless {c : List Member} (typal : ∀ m ∈ c, m.IsTypal) : Named none c
  | named {front back : List Member} (n : String) (behind : front ≠ [])
      (typal : ∀ m ∈ front ++ back, m.IsTypal) : Named (some front.length) (front ++ .name n :: back)

/-- The first element with a property, and what is in front of it. -/
theorem exists_split_of_findIdx? {α : Type} {p : α → Bool} {xs : List α} {i : Nat}
    (h : xs.findIdx? p = some i) : ∃ front x back, xs = front ++ x :: back ∧ front.length = i ∧
      p x = true ∧ ∀ y ∈ front, p y = false := by
  obtain ⟨hi, hx, hfront⟩ := List.findIdx?_eq_some_iff_getElem.mp h
  refine ⟨xs.take i, xs[i], xs.drop (i + 1), by simp, by simp; omega, hx, fun y hy => ?_⟩
  obtain ⟨j, hj, rfl⟩ := List.mem_take_iff_getElem.mp hy
  exact Bool.eq_false_iff.mpr (hfront j (by omega))

/-- Choices from words of types and references are types and references. -/
theorem forall_isTypal {groups : List (List Member)} {c : List Member}
    (hc : List.Forall₂ (fun m group => m ∈ group) c groups)
    (hgroups : ∀ group ∈ groups, ∀ m ∈ group, m.IsTypal) : ∀ m ∈ c, m.IsTypal := by
  intro m hm
  obtain ⟨group, hgroup, hmem⟩ := exists_mem_of_forall₂ hc.flip hm
  exact hgroups group hgroup m hmem

/-- **The combinations of a specification** with at most one name, which is not its first word, have
the name where the specification has it. -/
theorem named_of_forall₂ {spec : String} {groups : List (List Member)} (hparse : parse spec = .ok groups)
    (hcount : groups.countP isName ≤ 1) (hfirst : ∀ group ∈ groups.head?, isName group = false)
    {c : List Member} (hc : List.Forall₂ (fun m group => m ∈ group) c groups) :
    Named (namePosition? groups) c := by
  have htypal : ∀ group ∈ groups, isName group = false → ∀ m ∈ group, m.IsTypal := by
    intro group hgroup hnot
    rcases isName_or_isTypal hparse hgroup with ⟨n, rfl⟩ | h
    · cases hnot
    · exact h
  clear hparse
  cases hposition : namePosition? groups with
  | none =>
    refine .nameless (forall_isTypal hc fun group hgroup => htypal group hgroup ?_)
    exact List.findIdx?_eq_none_iff.mp hposition group hgroup
  | some p =>
    -- the words are cut at the name, and the combination with them
    obtain ⟨before, word, after, rfl, rfl, hword, hbefore⟩ := exists_split_of_findIdx? hposition
    obtain ⟨n, rfl⟩ : ∃ n, word = [.name n] := by
      unfold isName at hword
      split at hword
      · exact ⟨_, rfl⟩
      · cases hword
    have hafter : ∀ group ∈ after, isName group = false := by
      rw [List.countP_append, List.countP_cons_of_pos hword] at hcount
      have hzero : after.countP isName = 0 := by omega
      intro group hgroup
      exact Bool.eq_false_iff.mpr (List.countP_eq_zero.mp hzero group hgroup)
    have hfront := List.forall₂_take_append c before _ hc
    have hrest := List.forall₂_drop_append c before _ hc
    rw [← List.take_append_drop before.length c]
    generalize c.take before.length = front at hfront ⊢
    obtain ⟨m, back, hm, hback, hdrop⟩ := List.forall₂_cons_right_iff.mp hrest
    rw [hdrop]
    obtain rfl := List.mem_singleton.mp hm
    have hbehind : front ≠ [] := by
      rintro rfl
      cases hfront
      cases hfirst _ rfl
    rw [← hfront.length_eq]
    refine .named n hbehind (List.forall_mem_append.mpr ⟨?_, ?_⟩)
    · exact forall_isTypal hfront fun group hgroup =>
        htypal group (List.mem_append_left _ hgroup) (hbefore group hgroup)
    · exact forall_isTypal hback fun group hgroup =>
        htypal group (List.mem_append_right _ (List.mem_cons_of_mem _ hgroup)) (hafter group hgroup)

/-- **Where a reference is looked up** is the position that it refers to, counted without the name. -/
theorem Named.getElem?_place {namePosition : Option Nat} {ms : List Member}
    (h : Named namePosition ms) {k : Nat} (hk : k < UInt64.size) :
    ms[place namePosition k]? = (positions ms)[referent namePosition k]? := by
  cases h with
  | nameless typal =>
    rw [positions, List.filter_eq_self.mpr fun m hm => (typal m hm).isCounted]
    rfl
  | @named front back n behind typal =>
    have hpos : 0 < front.length := List.length_pos_iff.mpr behind
    have hpositions : positions (front ++ .name n :: back) = front ++ back := by
      rw [positions, List.filter_append, List.filter_cons_of_neg Bool.false_ne_true, ← List.filter_append]
      exact List.filter_eq_self.mpr fun m hm => (typal m hm).isCounted
    rw [hpositions, referent, place]
    by_cases hle : front.length ≤ k
    · rw [if_pos ⟨hpos, hle⟩]
      by_cases hlast : k + 1 = UInt64.size
      · -- the count wraps around, and the first member is not the name
        rw [if_pos ⟨hle, hlast⟩, hlast, Nat.mod_self, List.getElem?_append_left hpos,
          List.getElem?_append_left hpos]
      · -- behind it they are one less
        rw [if_neg fun h => hlast h.2, Nat.mod_eq_of_lt (by omega),
          List.getElem?_append_right (by omega), List.getElem?_append_right hle,
          show k + 1 - front.length = k - front.length + 1 by omega, List.getElem?_cons_succ]
    · -- in front of the name the positions are those in the combination
      rw [if_neg fun h => hle h.2, if_neg fun h => hle h.1, List.getElem?_append_left (by omega),
        List.getElem?_append_left (by omega)]

theorem Named.isTypal {namePosition : Option Nat} {c : List Member} (h : Named namePosition c)
    {m : Member} (hm : m ∈ positions c) : m.IsTypal := by
  obtain ⟨hmem, hcounted⟩ := List.mem_filter.mp hm
  cases h with
  | nameless typal => exact typal m hmem
  | named n behind typal =>
    rcases List.mem_append.mp hmem with hmem | hmem
    · exact typal m (List.mem_append_left _ hmem)
    · rcases List.mem_cons.mp hmem with rfl | hmem
      · cases hcounted
      · exact typal m (List.mem_append_right _ hmem)

/-! ### Resolving a combination -/

section Resolving

variable {namePosition : Option Nat} {c : List Member} (h : Named namePosition c)

variable (namePosition c) in
/-- The member stands for the type: it is the type, or it refers to the position of the type. -/
inductive Means : Member → DataType → Prop where
  | type (t : DataType) : Means (.type t) t
  | ref {k : Nat} {t : DataType} (there : (positions c)[referent namePosition k]? = some (.type t)) :
      Means (.ref k) t

variable (namePosition c) in
/-- What is wrong with a reference: it refers to another one, or past the last type. -/
inductive Fails (k : Nat) : SpecError → Prop where
  | refToRef (k' : Nat) (there : (positions c)[referent namePosition k]? = some (.ref k')) :
      Fails k (.refToRef k)
  | refOutOfRange (past : (positions c).length ≤ referent namePosition k) :
      Fails k (.refOutOfRange k)

include h

/-- What comes of a reference depends on the position that it refers to. -/
theorem Named.resolveMember_ref {k : Nat} (hk : .ref k ∈ c) :
    resolveMember c namePosition (.ref k) =
      match (positions c)[referent namePosition k]? with
      | some (.type t) => .ok (.type t)
      | some (.ref _) => .error (.refToRef k)
      | _ => .error (.refOutOfRange k) := by
  have hlt : k < UInt64.size := by
    rcases h.isTypal (List.mem_filter.mpr ⟨hk, rfl⟩) with ⟨t, ht⟩ | ⟨k', hk', hlt⟩
    · cases ht
    · cases hk'
      exact hlt
  exact h.getElem?_place hlt ▸ rfl

theorem Named.resolveMember_ref_eq_ok_iff {k : Nat} (hk : .ref k ∈ c) {item : Member} :
    resolveMember c namePosition (.ref k) = .ok item ↔
      ∃ t, (positions c)[referent namePosition k]? = some (.type t) ∧ item = .type t := by
  rw [h.resolveMember_ref hk]
  constructor
  · intro hok
    split at hok
    · next t ht =>
      cases hok
      exact ⟨t, ht, rfl⟩
    · cases hok
    · cases hok
  · rintro ⟨t, ht, rfl⟩
    rw [ht]

theorem Named.resolveMember_ref_eq_error_iff {k : Nat} (hk : .ref k ∈ c) {e : SpecError} :
    resolveMember c namePosition (.ref k) = .error e ↔ Fails namePosition c k e := by
  rw [h.resolveMember_ref hk]
  constructor
  · intro herror
    split at herror
    · cases herror
    · next k' hk' =>
      cases herror
      exact .refToRef k' hk'
    · next htype href =>
      cases herror
      refine .refOutOfRange (List.getElem?_eq_none_iff.mp ?_)
      cases hat : (positions c)[referent namePosition k]? with
      | none => rfl
      | some m =>
        -- only types and references have positions
        rcases h.isTypal (List.mem_of_getElem? hat) with ⟨t, rfl⟩ | ⟨k', rfl, -⟩
        · exact absurd hat (htype t)
        · exact absurd hat (href k')
  · intro hfails
    cases hfails with
    | refToRef k' there => rw [there]
    | refOutOfRange past => rw [List.getElem?_eq_none_iff.mpr past]

/-- **A combination that is resolved** has the type that is meant at each position. -/
theorem Named.forall₂_means {items : List Member} (hresolve : resolve c namePosition = .ok items) :
    List.Forall₂ (Means namePosition c) (positions c) (types items) := by
  -- the members are gone through, while the combination that references are looked up in stays
  have hall : ∀ rest items, List.Forall₂
      (fun m item => resolveMember c namePosition m = .ok item) rest items →
      (∀ m ∈ rest, m ∈ c) →
      List.Forall₂ (Means namePosition c) (positions rest) (types items) := by
    intro rest items hsteps hrest
    induction hsteps with
    | nil => exact .nil
    | @cons m item rest items hm _ ih =>
      obtain ⟨hmem, hback⟩ := List.forall_mem_cons.mp hrest
      have hback := ih hback
      cases m with
      | type t =>
        cases hm
        exact .cons (.type t) hback
      | name n =>
        cases hm
        exact hback
      | ref k =>
        obtain ⟨t, there, rfl⟩ := (h.resolveMember_ref_eq_ok_iff hmem).mp hm
        exact .cons (.ref there) hback
  exact hall c items (mapM_eq_ok_iff.mp hresolve) fun _ hm => hm

/-- A member resolves unless it is a reference with something wrong. -/
theorem Named.exists_resolveMember_iff {m : Member} (hm : m ∈ c) :
    (∃ item, resolveMember c namePosition m = .ok item) ↔
      ∀ k, m = .ref k → ∃ t, (positions c)[referent namePosition k]? = some (.type t) := by
  cases m with
  | type t => exact ⟨fun _ _ hk => (nomatch hk), fun _ => ⟨_, rfl⟩⟩
  | name n => exact ⟨fun _ _ hk => (nomatch hk), fun _ => ⟨_, rfl⟩⟩
  | ref k =>
    constructor
    · rintro ⟨item, hitem⟩ k' hk'
      cases hk'
      obtain ⟨t, there, -⟩ := (h.resolveMember_ref_eq_ok_iff hm).mp hitem
      exact ⟨t, there⟩
    · intro hall
      obtain ⟨t, there⟩ := hall k rfl
      exact ⟨.type t, (h.resolveMember_ref_eq_ok_iff hm).mpr ⟨t, there, rfl⟩⟩

/-- **A combination that cannot be resolved** fails as its leftmost reference with something wrong. -/
theorem Named.resolve_eq_error_iff {e : SpecError} :
    resolve c namePosition = .error e ↔ ∃ front k back, positions c = front ++ .ref k :: back ∧
      (∀ k', .ref k' ∈ front → ∃ t, (positions c)[referent namePosition k']? = some (.type t)) ∧
      Fails namePosition c k e := by
  rw [resolve, mapM_eq_error_iff]
  constructor
  · rintro ⟨front, m, back, hc, hfront, hm⟩
    have hmem : ∀ m' ∈ front, m' ∈ c := fun m' hm' => hc ▸ List.mem_append_left _ hm'
    have hmc : m ∈ c := hc ▸ List.mem_append_right _ List.mem_cons_self
    cases m with
    | type t => cases hm
    | name n => cases hm
    | ref k =>
      refine ⟨positions front, k, positions back, ?_, fun k' hk' => ?_,
        (h.resolveMember_ref_eq_error_iff hmc).mp hm⟩
      · rw [hc, positions, List.filter_append, List.filter_cons_of_pos rfl]
        rfl
      · have hk' := (List.mem_filter.mp hk').1
        exact (h.exists_resolveMember_iff (hmem _ hk')).mp (hfront _ hk') k' rfl
  · rintro ⟨front, k, back, hpositions, hfront, hfails⟩
    -- names between the positions do not matter, since they always resolve
    obtain ⟨before, rest, hc, hbefore, hrest⟩ := List.filter_eq_append_iff.mp hpositions
    obtain ⟨names, after, rfl, hnames, -, -⟩ := List.filter_eq_cons_iff.mp hrest
    have hsplit : c = (before ++ names) ++ .ref k :: after := by rw [hc, List.append_assoc]
    have hkc : .ref k ∈ c := hsplit ▸ List.mem_append_right _ List.mem_cons_self
    refine ⟨before ++ names, .ref k, after, hsplit, fun m hm => ?_,
      (h.resolveMember_ref_eq_error_iff hkc).mpr hfails⟩
    have hmc : m ∈ c := hsplit ▸ List.mem_append_left _ hm
    refine (h.exists_resolveMember_iff hmc).mpr fun k' hk' => ?_
    subst hk'
    rcases List.mem_append.mp hm with hm | hm
    · exact hfront k' (hbefore ▸ List.mem_filter.mpr ⟨hm, rfl⟩)
    · exact absurd rfl (hnames _ hm)

end Resolving

/-! ### Types by position -/

section Means

variable {namePosition : Option Nat} {c : List Member} {ts : List DataType}

/-- A type is the type at its own position. -/
theorem getElem?_of_means (h : List.Forall₂ (Means namePosition c) (positions c) ts) {j : Nat}
    {t : DataType} (hj : (positions c)[j]? = some (.type t)) : ts[j]? = some t := by
  obtain ⟨hlength, hmeans⟩ := List.forall₂_iff_get.mp h
  obtain ⟨hlt, hat⟩ := List.getElem?_eq_some_iff.mp hj
  have hmeans := hmeans j hlt (hlength ▸ hlt)
  rw [List.get_eq_getElem, hat] at hmeans
  rw [List.getElem?_eq_getElem (hlength ▸ hlt)]
  cases hmeans with
  | type t => rfl

/-- **A reference and what it refers to** have the same type, and that is no reference. -/
theorem getElem?_referent_of_means (h : List.Forall₂ (Means namePosition c) (positions c) ts) {j k : Nat}
    (hj : (positions c)[j]? = some (.ref k)) :
    ∃ t, (positions c)[referent namePosition k]? = some (.type t) ∧ ts[j]? = some t ∧
      ts[referent namePosition k]? = some t := by
  obtain ⟨hlength, hmeans⟩ := List.forall₂_iff_get.mp h
  obtain ⟨hlt, hat⟩ := List.getElem?_eq_some_iff.mp hj
  have hmeans := hmeans j hlt (hlength ▸ hlt)
  rw [List.get_eq_getElem, hat] at hmeans
  generalize hts : ts.get ⟨j, hlength ▸ hlt⟩ = t at hmeans
  cases hmeans with
  | ref there =>
    refine ⟨t, there, ?_, getElem?_of_means h there⟩
    rw [List.getElem?_eq_getElem (hlength ▸ hlt), ← hts]
    rfl

end Means

end Spec

/-! ### Rules -/

/-- The types of a rule by position: its result, and then its operands. -/
def Rule.types (rule : Rule) : List DataType := rule.result :: rule.signature

namespace Registry

/-- The types of the rule that a combination makes are those that its members are resolved to. -/
theorem exists_resolve_of_ownRule? {nodeType : NodeType} {spec template : String}
    {namePosition : Option Nat} {c : List Spec.Member} {rule : Rule}
    (h : ownRule? nodeType spec template namePosition c = some rule) :
    ∃ items, Spec.resolve c namePosition = .ok items ∧ Spec.types items = rule.types := by
  obtain ⟨result, operands, parts, hresolve, -, rfl⟩ := ownRule?_eq_some_iff.mp h
  exact ⟨_, hresolve, rfl⟩

/-- The rules that a specification brings are made by its combinations. -/
theorem exists_ownRule?_of_add {spec : String} {groups : List (List Spec.Member)}
    (hparse : Spec.parse spec = .ok groups) (reg : Registry) (nodeType : NodeType)
    (template : String) :
    ∃ new, (reg.add nodeType spec template).1.list = reg.list ++ new ∧
      ∀ rule ∈ new, ∃ c, List.Forall₂ (fun m group => m ∈ group) c groups ∧
        ownRule? nodeType spec template (Spec.namePosition? groups) c = some rule := by
  rcases add_cases reg nodeType spec template with ⟨e, hparse', -⟩ | ⟨groups', hparse', new, hexpands, -⟩
  · cases hparse.symm.trans hparse'
  · cases hparse.symm.trans hparse'
    refine ⟨new, hexpands.list, fun rule hrule => ?_⟩
    obtain ⟨c, hc, hown⟩ := List.mem_filterMap.mp (hexpands.made.subset hrule)
    exact ⟨c, Spec.mem_combinations_iff.mp (List.takeWhile_subset _ hc), hown⟩

/-- **References mean the same type.** Let a specification have at most one name, which is not its first
word. Each of its new rules comes from a choice of members, and has at the position of a type this type,
and at the position of a reference the type at the position that the reference refers to, where the
choice has no reference. A choice cannot be resolved exactly if some reference refers to a reference or
past the last type, and then the leftmost one of these is reported. `T<k>` refers to position `k`,
except that the largest machine word refers to the result if counting goes past the name. -/
theorem references_agree {spec : String} {groups : List (List Spec.Member)}
    (hparse : Spec.parse spec = .ok groups) (hcount : groups.countP Spec.isName ≤ 1)
    (hfirst : ∀ group ∈ groups.head?, Spec.isName group = false) :
    (∀ k, k + 1 < UInt64.size → Spec.referent (Spec.namePosition? groups) k = k) ∧
    (∀ (reg : Registry) (nodeType : NodeType) (template : String),
      ∃ new, (reg.add nodeType spec template).1.list = reg.list ++ new ∧
        ∀ rule ∈ new, ∃ c, List.Forall₂ (fun m group => m ∈ group) c groups ∧
          rule.types.length = (Spec.positions c).length ∧
          (∀ (j : Nat) (t : DataType), (Spec.positions c)[j]? = some (.type t) →
            rule.types[j]? = some t) ∧
          ∀ j k : Nat, (Spec.positions c)[j]? = some (.ref k) →
            rule.types[j]? = rule.types[Spec.referent (Spec.namePosition? groups) k]? ∧
            ∃ t, (Spec.positions c)[Spec.referent (Spec.namePosition? groups) k]? =
              some (.type t)) ∧
    ∀ c, List.Forall₂ (fun m group => m ∈ group) c groups → ∀ e,
      Spec.resolve c (Spec.namePosition? groups) = .error e ↔
        ∃ front k back, Spec.positions c = front ++ .ref k :: back ∧
          (∀ k', .ref k' ∈ front → ∃ t,
            (Spec.positions c)[Spec.referent (Spec.namePosition? groups) k']? = some (.type t)) ∧
          ((∃ k', (Spec.positions c)[Spec.referent (Spec.namePosition? groups) k]? =
              some (.ref k') ∧ e = .refToRef k) ∨
            (Spec.positions c).length ≤ Spec.referent (Spec.namePosition? groups) k ∧
              e = .refOutOfRange k) := by
  refine ⟨fun k hk => Spec.referent_eq_self _ hk, fun reg nodeType template => ?_, fun c hc e => ?_⟩
  · obtain ⟨new, hlist, hmade⟩ := exists_ownRule?_of_add hparse reg nodeType template
    refine ⟨new, hlist, fun rule hrule => ?_⟩
    obtain ⟨c, hc, hown⟩ := hmade rule hrule
    obtain ⟨items, hresolve, htypes⟩ := exists_resolve_of_ownRule? hown
    -- the types of the rule are what the members at its positions mean
    have hmeans := (Spec.named_of_forall₂ hparse hcount hfirst hc).forall₂_means hresolve
    rw [htypes] at hmeans
    refine ⟨c, hc, hmeans.length_eq.symm, fun j t => Spec.getElem?_of_means hmeans,
      fun j k hj => ?_⟩
    obtain ⟨t, there, hj', hk⟩ := Spec.getElem?_referent_of_means hmeans hj
    exact ⟨hj'.trans hk.symm, t, there⟩
  · -- a combination fails at the first reference that does not lead to a type
    rw [(Spec.named_of_forall₂ hparse hcount hfirst hc).resolve_eq_error_iff]
    refine exists_congr fun front => exists_congr fun k => exists_congr fun back => ?_
    refine and_congr Iff.rfl (and_congr Iff.rfl ?_)
    constructor
    · intro hfails
      cases hfails with
      | refToRef k' there => exact .inl ⟨k', there, rfl⟩
      | refOutOfRange past => exact .inr ⟨past, rfl⟩
    · rintro (⟨k', there, rfl⟩ | ⟨past, rfl⟩)
      · exact .refToRef k' there
      · exact .refOutOfRange past

/-- The result refers past the name. The first choice makes a rule, and the second one refers to the
result, which is a reference. -/
theorem references_agree_method :
    ∃ groups c new, Spec.parse "T2 <- INT_T0.f(STR)" = .ok groups ∧
      List.Forall₂ (fun m group => m ∈ group) c groups ∧
      Spec.positions c = [.ref 2, .ref 0, .type .str] ∧
      Spec.resolve c (Spec.namePosition? groups) = .error (.refToRef 0) ∧
      (({} : Registry).add .meth "T2 <- INT_T0.f(STR)" "f({s1})").1.list = new ∧
      new.map Rule.types = [[.str, .int, .str]] := by
  let groups : List (List Spec.Member) := [[.ref 2], [.type .int, .ref 0], [.name "f"], [.type .str]]
  let c : List Spec.Member := [.ref 2, .ref 0, .name "f", .type .str]
  have hparse : Spec.parse "T2 <- INT_T0.f(STR)" = .ok groups := by decide +kernel
  have hc : List.Forall₂ (fun m group => m ∈ group) c groups := by
    simp [c, groups]
  obtain ⟨-, hrules, herror⟩ := references_agree hparse (by decide) (by decide)
  obtain ⟨new, hlist, -⟩ := hrules {} .meth "f({s1})"
  refine ⟨groups, c, new, hparse, hc, rfl, (herror c hc _).mpr ?_, hlist, ?_⟩
  · refine ⟨[.ref 2], 0, [.type .str], rfl, fun k' hk' => ⟨.str, ?_⟩, .inl ⟨2, rfl, rfl⟩⟩
    cases List.mem_singleton.mp hk'
    rfl
  · have htypes : (({} : Registry).add .meth "T2 <- INT_T0.f(STR)" "f({s1})").1.list.map Rule.types =
        [[.str, .int, .str]] := by decide +kernel
    rw [hlist] at htypes
    exact htypes

/-- The largest machine word is past the last type, and still the reference is not refused: it is read
as a reference to the result. -/
theorem largest_reference_is_read_as_result :
    ∃ groups c, Spec.parse "INT <- f(T18446744073709551615)" = .ok groups ∧
      groups.countP Spec.isName = 1 ∧ (groups.head?.map Spec.isName) = some false ∧
      List.Forall₂ (fun m group => m ∈ group) c groups ∧
      Spec.positions c = [.type .int, .ref 18446744073709551615] ∧
      Spec.resolve c (Spec.namePosition? groups) = .ok [.type .int, .name "f", .type .int] ∧
      (({} : Registry).add .func "INT <- f(T18446744073709551615)" "x").1.list.map Rule.types =
        [[.int, .int]] := by
  refine ⟨[[.type .int], [.name "f"], [.ref 18446744073709551615]],
    [.type .int, .name "f", .ref 18446744073709551615], ?_, rfl, rfl, by simp, rfl, ?_, ?_⟩
  all_goals decide +kernel

end Registry
end QueryExpr
