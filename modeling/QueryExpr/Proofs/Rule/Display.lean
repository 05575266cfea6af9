import QueryExpr.Proofs.Rule.References
import QueryExpr.Proofs.Rule.Words
import QueryExpr.Proofs.Text.Search

/-!
# The display of a rule

A rule is displayed as its specification, with its own types in the place of the words for types. The two
go over the text in different ways: a specification is read word by word, and a word in upper case is
types; the display goes by the characters that types are written with. A name that has a lower-case
letter keeps them together: then a word is filled with a type exactly if it has been read as types
(`Reads`). So the words of the display are the result, the operand types and the name of the rule, each
as it is written (`words_display`). Read as a specification it has one choice of members, all of them
resolved, and filling it with the types once more changes nothing (`display_display`).
-/

namespace QueryExpr

namespace Spec

/-! ### Words for types -/

variable {word : List Char}

theorem isTypeWord_name (t : DataType) : isTypeWord t.name.toList = true := by
  cases t <;> decide +kernel

theorem name_ne_nil (t : DataType) : t.name.toList ≠ [] := by
  cases t <;> decide +kernel

theorem isWordChar_of_mem_name {t : DataType} {c : Char} (h : c ∈ t.name.toList) :
    Text.isWordChar c = true := by
  have hall : t.name.toList.all Text.isWordChar = true := by cases t <;> decide +kernel
  exact List.all_eq_true.mp hall c h

/-- A type is read back from its name. -/
theorem members_name (t : DataType) : members t.name.toList = .ok [.type t] := by
  cases t <;> decide +kernel

/-- Types are written without lower-case letters. -/
theorem not_isTypeWord_of_isLowercase (h : word.any Text.isLowercase = true) :
    isTypeWord word = false := by
  obtain ⟨c, hc, hlower⟩ := List.any_eq_true.mp h
  -- lower-case letters come after all characters that types are written with
  have hranges : (Text.lowercaseRanges.all fun r => 0x61 ≤ r.1) = true := by decide +kernel
  obtain ⟨r, hr, hlow, -⟩ := Text.exists_mem_of_inRanges hlower
  have hge : 0x61 ≤ c.toNat := (Text.forall_mem_of_all hranges r hr).trans hlow
  refine Bool.eq_false_iff.mpr fun hall => ?_
  have hchar := List.all_eq_true.mp hall c hc
  simp only [Bool.or_eq_true, Bool.and_eq_true, decide_eq_true_eq] at hchar
  rcases hchar with (⟨-, hupper⟩ | rfl) | ⟨-, hdigit⟩
  · have hle : c.toNat ≤ 0x5A := hupper
    omega
  · exact absurd hge (by decide)
  · have hle : c.toNat ≤ 0x39 := hdigit
    omega

theorem isTypeWord_of_member {m : Member} (h : member word = .ok m) : isTypeWord word = true := by
  unfold member at h
  split at h
  · next k hk =>
    unfold refPosition? at hk
    split at hk
    · split at hk
      · next digits hdigits =>
        -- a reference is a letter and digits
        refine List.all_eq_true.mpr fun c hc => ?_
        rcases List.mem_cons.mp hc with rfl | hc
        · rfl
        · have hdigit : isAsciiDigit c = true := List.all_eq_true.mp hdigits.2.1 c hc
          rw [isAsciiDigit] at hdigit
          rw [hdigit, Bool.or_true]
      · cases hk
    · cases hk
  · split at h
    · next t ht =>
      have hfound := List.find?_some ht
      have hname : t.name = String.ofList word := of_decide_eq_true hfound
      rw [← String.toList_ofList (l := word), ← hname]
      exact isTypeWord_name t
    · cases h

/-- **A word that is read as types** is written with the characters of types. -/
theorem isTypeWord_of_members {ms : List Member} (hupper : isUpper word = true)
    (h : members word = .ok ms) : isTypeWord word = true := by
  rw [members, if_pos hupper] at h
  refine List.all_eq_true.mpr fun c hc => ?_
  rcases Text.eq_or_mem_of_splitAtChar '_' hc with rfl | ⟨part, hpart, hc⟩
  · rfl
  · obtain ⟨m, -, hm⟩ := exists_mem_of_forall₂ (mapM_eq_ok_iff.mp h).flip hpart
    exact List.all_eq_true.mp (isTypeWord_of_member hm) c hc

/-! ### Words and members -/

/-- How a member is written. -/
def Member.spelling : Member → List Char
  | .type t => t.name.toList
  | .ref k => 'T' :: (toString k).toList
  | .name n => n.toList

/-- The word is read as the member for a rule: as a type, or as a name with a lower-case letter. -/
inductive Reads : List Char → Member → Prop where
  | type {word : List Char} (typeWord : isTypeWord word = true) (t : DataType) : Reads word (.type t)
  | name {word : List Char} (lower : word.any Text.isLowercase = true) :
      Reads word (.name (String.ofList word))

theorem Reads.spelling {m : Member} (h : Reads word m) : Reads m.spelling m := by
  cases h with
  | type typeWord t => exact .type (isTypeWord_name t) t
  | name lower =>
    rw [Member.spelling, String.toList_ofList]
    exact .name lower

/-- A member is read back from how it is written, and is the only one. -/
theorem Reads.members_spelling {m : Member} (h : Reads word m) : members m.spelling = .ok [m] := by
  cases h with
  | type typeWord t => exact members_name t
  | name lower =>
    have hupper : isUpper word = false := by rw [isUpper, lower, Bool.not_true, Bool.and_false]
    rw [Member.spelling, String.toList_ofList, members, hupper]
    rfl

theorem Reads.not_isTypeWord {n : String} (h : Reads word (.name n)) : isTypeWord n.toList = false := by
  cases h with
  | name lower =>
    rw [String.toList_ofList]
    exact not_isTypeWord_of_isLowercase lower

theorem Reads.resolveMember_eq {m : Member} (h : Reads word m) (c : List Member)
    (namePosition : Option Nat) : resolveMember c namePosition m = .ok m := by
  cases h <;> rfl

theorem exists_type_of_resolveMember {c : List Member} {namePosition : Option Nat} {m item : Member}
    (hm : m.IsTypal) (h : resolveMember c namePosition m = .ok item) : ∃ t, item = .type t := by
  rcases hm with ⟨t, rfl⟩ | ⟨k, rfl, -⟩
  · cases h
    exact ⟨t, rfl⟩
  · simp only [resolveMember] at h
    split at h
    · cases h
      exact ⟨_, rfl⟩
    · cases h
    · cases h

/-- A member of a word is resolved to a type, or it is the word as a name. -/
theorem reads_of_resolveMember {c ms : List Member} {namePosition : Option Nat} {m item : Member}
    (hword : members word = .ok ms) (hm : m ∈ ms)
    (hitem : resolveMember c namePosition m = .ok item)
    (hname : isUpper word = false → word.any Text.isLowercase = true) : Reads word item := by
  cases hupper : isUpper word with
  | true =>
    -- a word in capitals stands for types, and a reference among them is resolved to one
    have htypeWord := isTypeWord_of_members hupper hword
    rw [members, if_pos hupper] at hword
    obtain ⟨part, -, hpart⟩ := exists_mem_of_forall₂ (mapM_eq_ok_iff.mp hword) hm
    obtain ⟨t, rfl⟩ := exists_type_of_resolveMember (isTypal_of_member hpart) hitem
    exact .type htypeWord t
  | false =>
    rw [members, hupper] at hword
    cases hword
    -- any other word is a name and stands for itself
    rw [List.mem_singleton.mp hm] at hitem
    cases hitem
    exact .name (hname hupper)

/-- **How a combination is read**: each word as what its member is resolved to. -/
theorem forall₂_reads {ws : List (List Char)} {groups : List (List Member)} {c rest items : List Member}
    {namePosition : Option Nat} (hwords : List.Forall₂ (fun w group => members w = .ok group) ws groups)
    (hchoice : List.Forall₂ (fun m group => m ∈ group) rest groups)
    (hresolve : List.Forall₂ (fun m item => resolveMember c namePosition m = .ok item) rest items)
    (hnames : ∀ w ∈ ws, isUpper w = false → w.any Text.isLowercase = true) :
    List.Forall₂ Reads ws items := by
  -- the words are gone through, while the combination that references are looked up in stays
  induction hwords generalizing rest items with
  | nil =>
    cases hchoice
    cases hresolve
    exact .nil
  | cons hword _ ih =>
    obtain ⟨hname, hnames⟩ := List.forall_mem_cons.mp hnames
    cases hchoice with
    | cons hm hchoice =>
      cases hresolve with
      | cons hitem hresolve =>
        exact .cons (reads_of_resolveMember hword hm hitem hname) (ih hchoice hresolve hnames)

/-- Members that words are read as are read back from how they are written. -/
theorem forall_reads_spelling {ws : List (List Char)} {ms : List Member}
    (h : List.Forall₂ Reads ws ms) : ∀ m ∈ ms, Reads m.spelling m := by
  intro m hm
  obtain ⟨word, -, hread⟩ := exists_mem_of_forall₂ h hm
  exact hread.spelling

/-! ### Filling in types -/

section Fill

variable {run : List Char} {rest : List (Bool × List Char)}

theorem fillTypes_separator (ts : List DataType) :
    fillTypes ((false, run) :: rest) ts = run ++ fillTypes rest ts := by
  cases ts <;> rfl

theorem fillTypes_name (h : isTypeWord run = false) (ts : List DataType) :
    fillTypes ((true, run) :: rest) ts = run ++ fillTypes rest ts := by
  cases ts with
  | nil => rfl
  | cons t ts => simp [fillTypes, h]

theorem fillTypes_type (h : isTypeWord run = true) (t : DataType) (ts : List DataType) :
    fillTypes ((true, run) :: rest) (t :: ts) = t.name.toList ++ fillTypes rest ts := by
  simp [fillTypes, h]

/-- What is behind a word does not begin with a word. -/
theorem not_isWordChar_head_fillTypes {rs : List (Bool × List Char)} (h : Alternates rs)
    (hturn : ∀ r ∈ rs.head?, r.1 ≠ true) (ts : List DataType) :
    ∀ d ∈ (fillTypes rs ts).head?, Text.isWordChar d = false := by
  cases h with
  | nil => simp [fillTypes]
  | @cons isWord run rest nonempty uniform turn next =>
    obtain rfl : isWord = false := Bool.eq_false_iff.mpr (hturn _ rfl)
    obtain ⟨c, run, rfl⟩ := List.exists_cons_of_ne_nil nonempty
    rw [fillTypes_separator]
    rintro d ⟨⟩
    exact uniform c List.mem_cons_self

/-- **The words of a filled text** are the members, as they are written. -/
theorem words_fillTypes {rs : List (Bool × List Char)} (h : Alternates rs) {ms : List Member}
    (hreads : List.Forall₂ Reads ((rs.filter Prod.fst).map Prod.snd) ms) :
    words (fillTypes rs (types ms)) = ms.map Member.spelling := by
  induction h generalizing ms with
  | nil =>
    cases hreads
    rfl
  | @cons isWord run rest nonempty uniform turn next ih =>
    cases isWord with
    | false =>
      rw [fillTypes_separator, words_separators_append uniform]
      exact ih hreads
    | true =>
      -- a word is read as the next member, and what is put in its place is a word again
      rw [List.filter_cons_of_pos rfl, List.map_cons] at hreads
      have hnext := not_isWordChar_head_fillTypes next turn
      cases hreads with
      | @cons _ m _ ms hread hreads =>
        cases hread with
        | type typeWord t =>
          have htypes : types (.type t :: ms) = t :: types ms := rfl
          rw [htypes, fillTypes_type typeWord,
            words_word_append (name_ne_nil t) (fun _ => isWordChar_of_mem_name) (hnext _), ih hreads]
          rfl
        | name lower =>
          have htypes : types (.name (String.ofList run) :: ms) = types ms := rfl
          rw [htypes, fillTypes_name (not_isTypeWord_of_isLowercase lower),
            words_word_append nonempty uniform (hnext _), ih hreads, List.map_cons, Member.spelling,
            String.toList_ofList]

/-- Filling in the types that are there already changes nothing. -/
theorem fillTypes_eq_flatMap {rs : List (Bool × List Char)} {ms : List Member}
    (hwords : (rs.filter Prod.fst).map Prod.snd = ms.map Member.spelling)
    (hreads : ∀ m ∈ ms, Reads m.spelling m) : fillTypes rs (types ms) = rs.flatMap Prod.snd := by
  induction rs generalizing ms with
  | nil => rfl
  | cons r rs ih =>
    obtain ⟨isWord, run⟩ := r
    cases isWord with
    | false => rw [fillTypes_separator, List.flatMap_cons, ih hwords hreads]
    | true =>
      -- a word takes up the next member: a type is written over it, a name is kept
      rw [List.filter_cons_of_pos rfl, List.map_cons] at hwords
      cases ms with
      | nil => cases hwords
      | cons m ms =>
        obtain ⟨rfl, hrest⟩ := List.cons.inj hwords
        obtain ⟨hread, hreads⟩ := List.forall_mem_cons.mp hreads
        rw [List.flatMap_cons, ← ih hrest hreads]
        cases m with
        | type t => exact fillTypes_type (isTypeWord_name t) t (types ms)
        | ref k => cases hread
        | name n => exact fillTypes_name hread.not_isTypeWord (types ms)

end Fill

/-! ### Displays -/

/-- A result, and behind an arrow what it is the result of. -/
def withArrow (result : DataType) (shown : List Char) : String :=
  if shown = [] then result.name else result.name ++ " <- " ++ String.ofList shown

theorem words_withArrow (result : DataType) (shown : List Char) :
    words (withArrow result shown).toList = result.name.toList :: words shown := by
  have hname : words result.name.toList = [result.name.toList] :=
    words_of_forall (name_ne_nil result) fun _ => isWordChar_of_mem_name
  unfold withArrow
  split
  · next hshown => rw [hname, hshown]; rfl
  · have htext : (result.name ++ " <- " ++ String.ofList shown).toList =
        result.name.toList ++ ' ' :: '<' :: '-' :: ' ' :: shown := by simp
    rw [htext, words_append_separator (by decide +kernel), words_cons_of_not (by decide +kernel),
      words_cons_of_not (by decide +kernel), words_cons_of_not (by decide +kernel), hname]
    rfl

theorem not_mem_name (t : DataType) : '<' ∉ t.name.toList := by
  intro h
  have hword := isWordChar_of_mem_name h
  exact absurd hword (by decide +kernel)

/-- The words of a specification, in front of its arrow and behind it. -/
theorem words_of_cutFirst {cs left right : List Char}
    (h : Text.cutFirst "<-".toList cs = some (left, right)) : words cs = words left ++ words right := by
  have hcs : cs = left ++ '<' :: '-' :: right := Text.eq_append_of_cutFirst h
  rw [hcs, words_append_separator (by decide +kernel), words_cons_of_not (by decide +kernel)]

section Display

variable {nodeType : NodeType} (hoperators : nodeType.operatorWords = []) {spec : String}
  {left right : List Char} (result : DataType)

include hoperators

theorem display_eq (hcut : Text.cutFirst "<-".toList spec.toList = some (left, right))
    (signature : List DataType) :
    display nodeType spec result signature =
      withArrow result (Text.trim (fillTypes (runs right) signature)) := by
  have hfill : ∀ cs, fillOperators [] cs = cs := by
    intro cs
    cases cs <;> rfl
  rw [display, hcut, hoperators]
  dsimp only
  rw [hfill]
  rfl

/-- A text that has the types already is its own display. -/
theorem display_withArrow {shown : List Char} {signature : List DataType}
    (htrim : Text.trim shown = shown)
    (hfill : fillTypes (runs (' ' :: shown)) signature = ' ' :: shown) :
    display nodeType (withArrow result shown) result signature = withArrow result shown := by
  by_cases hshown : shown = []
  · -- without an arrow there is nothing to fill
    have hname : withArrow result shown = result.name := if_pos hshown
    have hcut : Text.cutFirst "<-".toList result.name.toList = none :=
      Text.cutFirst_of_not_mem (not_mem_name result)
    rw [hname, display, hcut, hoperators]
    rfl
  · -- the arrow behind the result is the first one, whatever is behind it
    have hcut : Text.cutFirst "<-".toList (withArrow result shown).toList =
        some (result.name.toList ++ [' '], ' ' :: shown) := by
      have htext : (withArrow result shown).toList =
          (result.name.toList ++ [' ']) ++ '<' :: (['-'] ++ ' ' :: shown) := by
        simp [withArrow, hshown]
      have hfront : '<' ∉ result.name.toList ++ [' '] := by simp [not_mem_name]
      rw [htext]
      exact Text.cutFirst_append hfront
    rw [display_eq hoperators result hcut, hfill, Text.trim_cons_of_isBlank (by decide), htrim]

variable (hcut : Text.cutFirst "<-".toList spec.toList = some (left, right)) {operands : List Member}
  (hreads : List.Forall₂ Reads (words right) operands)

include hcut hreads

/-- **The words of a display** are the result, and the operands as they are written. -/
theorem words_display : words (display nodeType spec result (types operands)).toList =
    (Member.type result :: operands).map Member.spelling := by
  rw [display_eq hoperators result hcut, words_withArrow, words_trim,
    words_fillTypes (alternates_runs right) hreads]
  rfl

/-- **The display of a display** is the display itself. -/
theorem display_display :
    display nodeType (display nodeType spec result (types operands)) result (types operands) =
      display nodeType spec result (types operands) := by
  rw [display_eq hoperators result hcut]
  refine display_withArrow hoperators result (Text.trim_trim _) ?_
  have hwords := words_fillTypes (alternates_runs right) hreads
  rw [← words_trim, ← words_cons_of_not (c := ' ') (by decide +kernel)] at hwords
  rw [fillTypes_eq_flatMap hwords (forall_reads_spelling hreads), flatMap_runs]

end Display

/-! ### Specifications with one choice -/

theorem combinations_singletons (ms : List Member) : combinations (ms.map fun m => [m]) = [ms] := by
  induction ms with
  | nil => rfl
  | cons m ms ih => simp [combinations, ih]

section Single

variable {ms : List Member} (hreads : ∀ m ∈ ms, Reads m.spelling m)

include hreads

/-- A text whose words are members, as they are written, has one member for each word. -/
theorem parse_of_words {text : String} (hwords : words text.toList = ms.map Member.spelling) :
    parse text = .ok (ms.map fun m => [m]) := by
  rw [parse, hwords, mapM_eq_ok_iff, List.forall₂_map_left_iff, List.forall₂_map_right_iff,
    List.forall₂_same]
  exact fun m hm => (hreads m hm).members_spelling

theorem resolve_of_reads (namePosition : Option Nat) : resolve ms namePosition = .ok ms := by
  rw [resolve, mapM_eq_ok_iff, List.forall₂_same]
  exact fun m hm => (hreads m hm).resolveMember_eq ms namePosition

end Single

end Spec

namespace Registry

/-- A specification with one combination, registered alone. -/
theorem add_of_combinations_eq {nodeType : NodeType} {spec template : String}
    {groups : List (List Spec.Member)} {c : List Spec.Member} {rule : Rule}
    (hparse : Spec.parse spec = .ok groups) (hsingle : Spec.combinations groups = [c])
    (hown : ownRule? nodeType spec template (Spec.namePosition? groups) c = some rule) :
    ({} : Registry).add nodeType spec template = (({} : Registry).insertRule rule, .ok 1) := by
  have hrule : ({} : Registry).ruleOf? nodeType spec template (Spec.namePosition? groups) c =
      .ok (some rule) := by
    unfold ownRule? at hown
    generalize ({} : Registry).ruleOf? nodeType spec template (Spec.namePosition? groups) c = step at hown
    rcases step with e | _ | rule'
    · cases hown
    · cases hown
    · cases hown
      rfl
  rw [add, hparse]
  dsimp only
  rw [hsingle, addCombinations, hrule]
  rfl

/-- The rule of a combination is the rule of its display. -/
theorem add_display {nodeType : NodeType} (hoperators : nodeType.operatorWords = []) {spec : String}
    {left right : List Char} (hcut : Text.cutFirst "<-".toList spec.toList = some (left, right))
    {template : String} {namePosition : Option Nat} {c : List Spec.Member} {rule : Rule}
    (hown : ownRule? nodeType spec template namePosition c = some rule)
    (hreads : ∀ items, Spec.resolve c namePosition = .ok items →
      List.Forall₂ Spec.Reads (Spec.words right) items.tail) :
    ({} : Registry).add nodeType rule.display template = (({} : Registry).insertRule rule, .ok 1) := by
  obtain ⟨result, operands, parts, hresolve, hparts, hrule⟩ := ownRule?_eq_some_iff.mp hown
  have hdisplay : rule.display = Spec.display nodeType spec result (Spec.types operands) := by
    rw [hrule]
  have hreads : List.Forall₂ Spec.Reads (Spec.words right) operands := hreads _ hresolve
  have hself : ∀ m ∈ Spec.Member.type result :: operands, Spec.Reads m.spelling m :=
    List.forall_mem_cons.mpr
      ⟨.type (Spec.isTypeWord_name result) result, Spec.forall_reads_spelling hreads⟩
  have hwords := Spec.words_display hoperators result hcut hreads
  rw [← hdisplay] at hwords
  refine add_of_combinations_eq (Spec.parse_of_words hself hwords) (Spec.combinations_singletons _)
    (ownRule?_eq_some_iff.mpr ?_)
  refine ⟨result, operands, parts, Spec.resolve_of_reads hself _, hparts, ?_⟩
  rw [hdisplay, Spec.display_display hoperators result hcut hreads]
  exact hrule

/-- **The display of a rule is the rule.** Take a kind of node without operator words, and a specification
of the form `RESULT <- RHS`: one word in front of the first arrow, and behind it no names but with a
lower-case letter, however many. Whatever it is registered in addition to, and with whatever template,
each of its new rules is what its display stands for: registered with the same template where nothing
else is, the display is accepted and gives one rule, and that is the same in its result, its name, its
operand types, its template and its display. -/
theorem display_registers_rule {nodeType : NodeType} (hoperators : nodeType.operatorWords = [])
    {spec : String} {left right : List Char}
    (hcut : Text.cutFirst "<-".toList spec.toList = some (left, right))
    (hresult : (Spec.words left).length = 1)
    (hnames : ∀ word ∈ Spec.words right, Spec.isUpper word = false →
      word.any Text.isLowercase = true)
    (reg : Registry) (template : String) :
    ∃ new, (reg.add nodeType spec template).1.list = reg.list ++ new ∧
      ∀ rule ∈ new, ∃ own, ({} : Registry).add nodeType rule.display template = (own, .ok 1) ∧
        own.list = [rule] := by
  cases hparse : Spec.parse spec with
  | error e =>
    refine ⟨[], ?_, List.forall_mem_nil _⟩
    rw [add, hparse, List.append_nil]
  | ok groups =>
    obtain ⟨new, hlist, hmade⟩ := exists_ownRule?_of_add hparse reg nodeType template
    refine ⟨new, hlist, fun rule hrule => ?_⟩
    obtain ⟨c, hc, hown⟩ := hmade rule hrule
    refine ⟨_, add_display hoperators hcut hown fun items hresolve => ?_, list_insertRule {} rule⟩
    -- the first word is the result, and the others are behind the arrow
    obtain ⟨word, hword⟩ := List.length_eq_one_iff.mp hresult
    have hwords := mapM_eq_ok_iff.mp hparse
    rw [Spec.words_of_cutFirst hcut, hword, List.singleton_append] at hwords
    have hsteps := mapM_eq_ok_iff.mp hresolve
    cases hwords with
    | cons _ hwords =>
      cases hc with
      | cons _ hc =>
        cases hsteps with
        | cons _ hsteps => exact Spec.forall₂_reads hwords hc hsteps hnames

/-- Two rules of a method whose result and last operand refer to its receiver. -/
theorem display_registers_rule_method :
    ∃ new,
      (({} : Registry).add .meth "T1 <- STR_CLOB.join(STR, T1)" "f({s1}, {s2}, {t3})").1.list = new ∧
      new.map Rule.display = ["STR <- STR.join(STR, STR)", "CLOB <- CLOB.join(STR, CLOB)"] ∧
      ∀ rule ∈ new, ∃ own,
        ({} : Registry).add .meth rule.display "f({s1}, {s2}, {t3})" = (own, .ok 1) ∧
          own.list = [rule] := by
  have hnames : ∀ word ∈ Spec.words " STR_CLOB.join(STR, T1)".toList, Spec.isUpper word = false →
      word.any Text.isLowercase = true := Text.forall_mem_of_all (by decide +kernel)
  have hcut : Text.cutFirst "<-".toList "T1 <- STR_CLOB.join(STR, T1)".toList =
      some ("T1 ".toList, " STR_CLOB.join(STR, T1)".toList) := by decide +kernel
  have hoperators : NodeType.operatorWords .meth = [] := rfl
  obtain ⟨new, hlist, hrules⟩ := display_registers_rule hoperators hcut (by decide +kernel) hnames {}
    "f({s1}, {s2}, {t3})"
  refine ⟨new, hlist, ?_, hrules⟩
  have hdisplays : (({} : Registry).add .meth "T1 <- STR_CLOB.join(STR, T1)"
      "f({s1}, {s2}, {t3})").1.list.map Rule.display =
        ["STR <- STR.join(STR, STR)", "CLOB <- CLOB.join(STR, CLOB)"] := by decide +kernel
  rw [hlist] at hdisplays
  exact hdisplays

end Registry
end QueryExpr
