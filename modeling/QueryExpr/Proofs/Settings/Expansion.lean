import Mathlib.Data.List.Basic
import Mathlib.Data.List.TakeWhile
import QueryExpr.Settings.Expand

/-!
# What expansion replaces

A text can be read in exactly one way as characters that stand for themselves and references to
variables (`exists_reads`, `Reads.unique`). Expansion replaces the references by the values of their variables, or
fails at the first one whose variable is missing. Everything else stays as it is, with two exceptions:
braces without a name between them are dropped, so that only the `$` in front of them is left, and braces
that are never closed hold a reference all the same. A text without such braces is expanded as one
expects.
-/

namespace QueryExpr.Environment

/-! ### Reading a text -/

/-- A part of a text. -/
inductive Part where
  /-- A character that stands for itself. -/
  | char (c : Char)
  /-- `$NAME` -/
  | bare (name : List Char)
  /-- `${NAME}` -/
  | braced (name : List Char)
  /-- `${NAME` up to the end of the text. -/
  | unclosed (name : List Char)
  deriving DecidableEq, Repr

namespace Part

/-- The part as it stands in the text. -/
def spelling : Part → List Char
  | char c => [c]
  | bare name => '$' :: name
  | braced name => '$' :: '\x7b' :: (name ++ ['\x7d'])
  | unclosed name => '$' :: '\x7b' :: name

/-- The part can stand in front of the rest of a text. A name goes as far as it can, and a `$` stands for
itself only if neither a name nor a brace follows. -/
def Fits : Part → List Char → Prop
  | char c, rest => c = '$' → ∀ d ∈ rest.head?, d ≠ '\x7b' ∧ isNameChar d = false
  | bare name, rest =>
    name ≠ [] ∧ (∀ c ∈ name, isNameChar c = true) ∧ ∀ d ∈ rest.head?, isNameChar d = false
  | braced name, _ => '\x7d' ∉ name
  | unclosed name, rest => '\x7d' ∉ name ∧ rest = []

/-- The characters of the name. -/
def letters : Part → List Char
  | char _ => []
  | bare name | braced name | unclosed name => name

/-- The variable that the part refers to. Without a name there is no reference. -/
def name? (p : Part) : Option String :=
  if p.letters = [] then none else some (String.ofList p.letters)

/-- Braces are closed, and have a name between them. -/
def isIntact : Part → Bool
  | char _ | bare _ => true
  | braced name => !name.isEmpty
  | unclosed _ => false

/-- What expansion leaves of a part without a name. -/
def kept : Part → List Char
  | char c => [c]
  | bare _ | braced _ | unclosed _ => ['$']

/-- The value of the variable in the place of a reference, and `keep` in the place of all else. -/
def replaced (env : Environment) (keep : Part → List Char) (p : Part) : List Char :=
  match p.name? with
  | some name => ((env.value? name).getD "").toList
  | none => keep p

end Part

/-- The text consists of these parts. -/
inductive Reads : List Part → List Char → Prop
  | nil : Reads [] []
  | cons {p : Part} {parts : List Part} {rest : List Char} (hfits : p.Fits rest)
      (hrest : Reads parts rest) : Reads (p :: parts) (p.spelling ++ rest)

/-! ### The part in front -/

namespace Part

variable {p p' : Part} {rest rest' cs : List Char}

/-- A run of characters of one kind ends where the kind does. -/
theorem takeWhile_append_of_head? {kind : Char → Bool} {name : List Char}
    (hname : ∀ c ∈ name, kind c = true) (hrest : ∀ d ∈ rest.head?, kind d = false) :
    (name ++ rest).takeWhile kind = name := by
  rw [List.takeWhile_append_of_pos hname]
  cases rest with
  | nil => simp
  | cons d ds => simp [hrest d rfl]

theorem nameAfter_of_head? (h : ∀ d ∈ cs.head?, d ≠ '\x7b') :
    nameAfter cs = (cs.takeWhile isNameChar, (cs.takeWhile isNameChar).length) := by
  rw [nameAfter]
  rintro tail rfl
  exact h '\x7b' rfl rfl

theorem nameAfter_brace (cs : List Char) :
    nameAfter ('\x7b' :: cs) =
      (cs.takeWhile (· ≠ '\x7d'), (cs.takeWhile (· ≠ '\x7d')).length + 2) := rfl

/-- **The name behind a `$` is that of the part**, and behind the name the part ends. -/
theorem nameAfter_eq (hfits : p.Fits rest) (hcs : p.spelling ++ rest = '$' :: cs) :
    ∃ count, nameAfter cs = (p.letters, count) ∧ cs.drop count = rest := by
  have hbrace : isNameChar '\x7b' = false := by decide +kernel
  cases p with
  | char c =>
    obtain rfl : c = '$' := (List.cons.inj hcs).1
    obtain rfl : cs = rest := (List.cons.inj hcs).2.symm
    -- a `$` that stands for itself is followed neither by a brace nor by a letter of a name
    have hnone : ([] ++ cs).takeWhile isNameChar = [] :=
      takeWhile_append_of_head? (by simp) fun d hd => (hfits rfl d hd).2
    refine ⟨0, ?_, rfl⟩
    rw [nameAfter_of_head? fun d hd => (hfits rfl d hd).1]
    exact congrArg (fun name => (name, name.length)) hnone
  | bare name =>
    obtain rfl : cs = name ++ rest := (List.cons.inj hcs).2.symm
    obtain ⟨hne, hname, hrest⟩ := hfits
    refine ⟨name.length, ?_, List.drop_left⟩
    rw [nameAfter_of_head?, takeWhile_append_of_head? hname hrest]
    · rfl
    · -- a name in the place of a brace would begin with one, which is no letter of a name
      intro d hd hd'
      obtain ⟨c, name', rfl⟩ := List.exists_cons_of_ne_nil hne
      cases hd
      exact absurd (hname d List.mem_cons_self) (by simp [hd', hbrace])
  | braced name =>
    obtain rfl : cs = '\x7b' :: (name ++ '\x7d' :: rest) := by simpa [spelling] using hcs.symm
    have hname : (name ++ '\x7d' :: rest).takeWhile (· ≠ '\x7d') = name :=
      takeWhile_append_of_head? (fun c hc => decide_eq_true fun h => hfits (h ▸ hc)) (by simp)
    refine ⟨name.length + 2, ?_, ?_⟩
    · rw [nameAfter_brace, hname]
      rfl
    · simp
  | unclosed name =>
    obtain ⟨hclosed, rfl⟩ := hfits
    obtain rfl : cs = '\x7b' :: name ++ [] := (List.cons.inj hcs).2.symm
    have hname : (name ++ []).takeWhile (· ≠ '\x7d') = name :=
      takeWhile_append_of_head? (fun c hc => decide_eq_true fun h => hclosed (h ▸ hc)) (by simp)
    -- the count is one more than what is left, as if the brace were closed, and dropping it leaves
    -- nothing
    refine ⟨name.length + 2, ?_, ?_⟩
    · rw [List.cons_append, nameAfter_brace, hname]
      rfl
    · simp

/-- A part that does not begin with `$` is a character. -/
theorem eq_char_or_dollar (p : Part) :
    (∃ c, c ≠ '$' ∧ p = char c) ∨ (∃ tail, p.spelling = '$' :: tail) ∧ p.kept = ['$'] := by
  cases p with
  | char c =>
    by_cases hc : c = '$'
    · exact .inr ⟨⟨[], by rw [hc]; rfl⟩, by rw [hc]; rfl⟩
    · exact .inl ⟨c, hc, rfl⟩
  | bare name => exact .inr ⟨⟨_, rfl⟩, rfl⟩
  | braced name => exact .inr ⟨⟨_, rfl⟩, rfl⟩
  | unclosed name => exact .inr ⟨⟨_, rfl⟩, rfl⟩

/-- Parts with the same name are told apart by their lengths. -/
theorem eq_of_spelling (hfits : p.Fits rest) (hfits' : p'.Fits rest) (hletters : p.letters = p'.letters)
    (hspelling : p.spelling = p'.spelling) : p = p' := by
  have hlength := congrArg List.length hspelling
  cases p <;> cases p' <;> grind [letters, spelling, Fits]

/-- **Only one part can stand in front.** -/
theorem eq_of_append (hfits : p.Fits rest) (hfits' : p'.Fits rest')
    (h : p.spelling ++ rest = p'.spelling ++ rest') : p = p' ∧ rest = rest' := by
  rcases p.eq_char_or_dollar with ⟨c, hc, rfl⟩ | ⟨⟨tail, htail⟩, -⟩
  · rcases p'.eq_char_or_dollar with ⟨c', -, rfl⟩ | ⟨⟨tail', htail'⟩, -⟩
    · obtain ⟨rfl, rfl⟩ := List.cons.inj h
      exact ⟨rfl, rfl⟩
    · rw [htail'] at h
      exact absurd (List.cons.inj h).1 hc
  · -- the name behind the `$` and what follows it belong to both
    have hcs : p.spelling ++ rest = '$' :: (tail ++ rest) := by rw [htail]; rfl
    obtain ⟨count, hname, hdrop⟩ := nameAfter_eq hfits hcs
    obtain ⟨count', hname', hdrop'⟩ := nameAfter_eq hfits' (h.symm.trans hcs)
    obtain ⟨hletters, rfl⟩ := Prod.mk.inj (hname.symm.trans hname')
    obtain rfl : rest = rest' := hdrop.symm.trans hdrop'
    exact ⟨eq_of_spelling hfits hfits' hletters (List.append_cancel_right h), rfl⟩

/-- Some part stands in front of every text. -/
theorem exists_front (c : Char) (cs : List Char) :
    ∃ (p : Part) (rest : List Char), c :: cs = p.spelling ++ rest ∧ p.Fits rest := by
  by_cases hc : c ≠ '$'
  · exact ⟨.char c, cs, rfl, fun h => absurd h hc⟩
  obtain rfl : c = '$' := Decidable.not_not.mp hc
  -- behind a `$` there are braces that are closed or are not, a name, or neither of them
  by_cases hbrace : ∃ tail, cs = '\x7b' :: tail
  · obtain ⟨tail, rfl⟩ := hbrace
    by_cases hclosed : '\x7d' ∈ tail
    · obtain ⟨name, rest, rfl, hname⟩ := List.eq_append_cons_of_mem hclosed
      exact ⟨.braced name, rest, by simp [spelling], hname⟩
    · exact ⟨.unclosed tail, [], by simp [spelling], hclosed, rfl⟩
  · have hsplit := List.takeWhile_append_dropWhile (p := isNameChar) (l := cs)
    by_cases hname : cs.takeWhile isNameChar = []
    · refine ⟨.char '$', cs, rfl, fun _ d hd => ?_⟩
      obtain ⟨tail, rfl⟩ := List.head?_eq_some_iff.mp hd
      exact ⟨fun h => hbrace ⟨tail, by rw [h]⟩, by simpa [List.takeWhile_cons] using hname⟩
    · refine ⟨.bare (cs.takeWhile isNameChar), cs.dropWhile isNameChar, ?_, hname, ?_, ?_⟩
      · rw [spelling, List.cons_append, hsplit]
      · exact fun c hc => List.mem_takeWhile_imp hc
      · intro d hd
        have hnot := List.head?_dropWhile_not isNameChar cs
        rw [hd] at hnot
        simpa using hnot

end Part

/-! ### All parts -/

section Reads

variable {parts parts' : List Part} {cs : List Char}

/-- Every text can be read. -/
theorem exists_reads (cs : List Char) : ∃ parts, Reads parts cs := by
  -- on the length of the text: no part is empty
  induction hlength : cs.length using Nat.strongRecOn generalizing cs with
  | ind n ih =>
    cases cs with
    | nil => exact ⟨[], .nil⟩
    | cons c cs =>
      obtain ⟨p, rest, heq, hfits⟩ := Part.exists_front c cs
      have hshort : rest.length < n := by
        have hsum := congrArg List.length heq
        have hpos : 0 < p.spelling.length := by cases p <;> simp [Part.spelling]
        rw [List.length_append, hlength] at hsum
        omega
      obtain ⟨parts, hparts⟩ := ih rest.length hshort rest rfl
      rw [heq]
      exact ⟨p :: parts, .cons hfits hparts⟩

/-- A text can be read in one way only. -/
theorem Reads.unique (h : Reads parts cs) (h' : Reads parts' cs) : parts = parts' := by
  induction h generalizing parts' with
  | nil =>
    generalize hcs : ([] : List Char) = cs at h'
    cases h' with
    | nil => rfl
    | @cons p _ _ _ _ => cases p <;> cases hcs
  -- two parts that fit in front of one text are the same part, and they leave the same rest
  | @cons p _ _ hfits _ ih =>
    generalize hcs : p.spelling ++ _ = cs at h'
    cases h' with
    | nil => cases p <;> cases hcs
    | cons hfits' hrest' =>
      obtain ⟨rfl, rfl⟩ := Part.eq_of_append hfits hfits' hcs
      rw [ih hrest']

end Reads

/-! ### Expanding part by part -/

section Expand

variable {env : Environment} {p : Part} {parts : List Part} {rest cs : List Char}

theorem expandFrom_eq_drop (env : Environment) (skip : Nat) (cs : List Char) :
    expandFrom env skip cs = expandFrom env 0 (cs.drop skip) := by
  induction cs generalizing skip with
  | nil => cases skip <;> simp [expandFrom]
  | cons c cs ih =>
    cases skip with
    | zero => rfl
    | succ skip => rw [expandFrom, ih, List.drop_succ_cons]

theorem referencesFrom_eq_drop (skip : Nat) (cs : List Char) :
    referencesFrom skip cs = referencesFrom 0 (cs.drop skip) := by
  induction cs generalizing skip with
  | nil => cases skip <;> simp [referencesFrom]
  | cons c cs ih =>
    cases skip with
    | zero => rfl
    | succ skip => rw [referencesFrom, ih, List.drop_succ_cons]

/-- One part is expanded. -/
theorem expandFrom_append (env : Environment) (hfits : p.Fits rest) :
    expandFrom env 0 (p.spelling ++ rest) =
      match p.name? with
      | none => (expandFrom env 0 rest).map (p.kept ++ ·)
      | some name =>
        match env.value? name with
        | none => .error name
        | some value => (expandFrom env 0 rest).map (value.toList ++ ·) := by
  rcases p.eq_char_or_dollar with ⟨c, hc, rfl⟩ | ⟨⟨tail, htail⟩, hkept⟩
  · change expandFrom env 0 (c :: rest) = _
    rw [expandFrom, if_neg hc]
    rfl
  · have hcs : p.spelling ++ rest = '$' :: (tail ++ rest) := by rw [htail]; rfl
    obtain ⟨count, hname, hdrop⟩ := Part.nameAfter_eq hfits hcs
    rw [hcs, expandFrom, if_pos rfl, hname, Part.name?, hkept]
    -- without letters nothing is looked up, and what the part keeps is written in its place
    cases p.letters with
    | nil =>
      simp only [expandFrom_eq_drop env count, hdrop]
      rfl
    | cons c name =>
      simp only [expandFrom_eq_drop env count, hdrop]
      rfl

theorem referencesFrom_append (hfits : p.Fits rest) :
    referencesFrom 0 (p.spelling ++ rest) = p.name?.toList ++ referencesFrom 0 rest := by
  rcases p.eq_char_or_dollar with ⟨c, hc, rfl⟩ | ⟨⟨tail, htail⟩, -⟩
  · change referencesFrom 0 (c :: rest) = _
    rw [referencesFrom, if_neg hc]
    rfl
  · have hcs : p.spelling ++ rest = '$' :: (tail ++ rest) := by rw [htail]; rfl
    obtain ⟨count, hname, hdrop⟩ := Part.nameAfter_eq hfits hcs
    rw [hcs, referencesFrom, if_pos rfl, hname, Part.name?]
    cases p.letters with
    | nil =>
      simp only [referencesFrom_eq_drop count, hdrop]
      rfl
    | cons c name =>
      simp only [referencesFrom_eq_drop count, hdrop]
      rfl

theorem referencesFrom_eq (h : Reads parts cs) : referencesFrom 0 cs = parts.filterMap Part.name? := by
  induction h with
  | nil => rfl
  | @cons p _ _ hfits _ ih =>
    rw [referencesFrom_append hfits, ih, List.filterMap_cons]
    cases p.name? <;> rfl

/-- The variable has no value. -/
def isMissing (env : Environment) (name : String) : Bool := (env.value? name).isNone

/-- **Expansion fails at the first missing variable**, or replaces every part. -/
theorem expandFrom_eq (env : Environment) (h : Reads parts cs) :
    expandFrom env 0 cs =
      match (parts.filterMap Part.name?).find? env.isMissing with
      | some name => .error name
      | none => .ok (parts.flatMap (Part.replaced env Part.kept)) := by
  induction h with
  | nil => rfl
  | @cons p parts _ hfits _ ih =>
    rw [expandFrom_append env hfits, ih, List.filterMap_cons, List.flatMap_cons, Part.replaced]
    -- the parts are expanded from the front, so a missing variable is the first one of the text
    cases hname : p.name? with
    | none => cases (parts.filterMap Part.name?).find? env.isMissing <;> rfl
    | some name =>
      rw [List.find?_cons]
      cases hvalue : env.value? name with
      | none => simp [isMissing, hvalue]
      | some value =>
        have hset : env.isMissing name = false := by simp [isMissing, hvalue]
        rw [hset]
        cases (parts.filterMap Part.name?).find? env.isMissing <;> simp [Except.map, hvalue]

theorem references_eq {text : String} (h : Reads parts text.toList) :
    references text = parts.filterMap Part.name? := referencesFrom_eq h

theorem expand_eq {text : String} (env : Environment) (h : Reads parts text.toList) :
    env.expand text =
      match (references text).find? env.isMissing with
      | some name => .error name
      | none => .ok (String.ofList (parts.flatMap (Part.replaced env Part.kept))) := by
  rw [expand, expandFrom_eq env h, references_eq h]
  cases (parts.filterMap Part.name?).find? env.isMissing <;> rfl

theorem isMissing_eq_false_iff {name : String} :
    env.isMissing name = false ↔ ∃ value, env.value? name = some value := by
  rw [isMissing, Option.isNone_eq_false_iff, Option.isSome_iff_exists]

theorem expand_eq_ok_iff {text result : String} (h : Reads parts text.toList) :
    env.expand text = .ok result ↔
      (∀ name ∈ references text, ∃ value, env.value? name = some value) ∧
        result.toList = parts.flatMap (Part.replaced env Part.kept) := by
  rw [expand_eq env h]
  cases hfind : (references text).find? env.isMissing with
  | none =>
    have hset : ∀ name ∈ references text, ∃ value, env.value? name = some value := by
      intro name hname
      exact isMissing_eq_false_iff.mp (by simpa using List.find?_eq_none.mp hfind name hname)
    rw [Except.ok.injEq, ← String.toList_inj, String.toList_ofList]
    exact ⟨fun heq => ⟨hset, heq.symm⟩, fun heq => heq.2.symm⟩
  | some name =>
    have hmissing := List.find?_some hfind
    -- the name that was found has no value
    refine ⟨fun heq => absurd heq (by simp), fun heq => ?_⟩
    have hset := isMissing_eq_false_iff.mpr (heq.1 name (List.mem_of_find?_eq_some hfind))
    exact absurd hmissing (by simp [hset])

theorem expand_eq_error_iff {text name : String} (h : Reads parts text.toList) :
    env.expand text = .error name ↔
      ∃ before after, references text = before ++ name :: after ∧
        (∀ other ∈ before, ∃ value, env.value? other = some value) ∧ env.value? name = none := by
  have hfind : env.expand text = .error name ↔ (references text).find? env.isMissing = some name := by
    rw [expand_eq env h]
    cases (references text).find? env.isMissing <;> simp
  rw [hfind, List.find?_eq_some_iff_append]
  constructor
  · rintro ⟨hmissing, before, after, heq, hbefore⟩
    refine ⟨before, after, heq, fun other hother => ?_, Option.isNone_iff_eq_none.mp hmissing⟩
    exact isMissing_eq_false_iff.mp (by simpa using hbefore other hother)
  · rintro ⟨before, after, heq, hbefore, hmissing⟩
    refine ⟨Option.isNone_iff_eq_none.mpr hmissing, before, after, heq, fun other hother => ?_⟩
    simpa using isMissing_eq_false_iff.mpr (hbefore other hother)

/-- Of a part without a name, nothing is lost unless it is a pair of empty braces or an open one. -/
theorem Part.replaced_of_isIntact (h : p.isIntact = true) :
    p.replaced env Part.kept = p.replaced env Part.spelling := by
  rw [replaced, replaced]
  split
  next => rfl
  next hname =>
    have hletters : p.letters = [] := by simpa [name?] using hname
    cases p with
    | char c => rfl
    | bare name => rw [show name = [] from hletters]; rfl
    | braced name => rw [show name = [] from hletters] at h; cases h
    | unclosed name => cases h

end Expand

/-- **Expansion replaces the references of a text and nothing else.** A text is read in one way. It is
expanded if and only if all variables that it refers to have values, and otherwise the first one without
decides the error. Each reference is then replaced by its value, which is not expanded again. All else is
kept, except for braces without a name, of which a `$` is left; where all braces are closed and hold a
name, all else is kept as it stands. -/
theorem expand_replaces_references (text : String) :
    ∃ parts, (Reads parts text.toList ∧ ∀ parts', Reads parts' text.toList → parts' = parts) ∧
      references text = parts.filterMap Part.name? ∧
      ∀ env : Environment,
        ((∃ result, env.expand text = .ok result) ↔
          ∀ name ∈ references text, ∃ value, env.value? name = some value) ∧
        (∀ result, env.expand text = .ok result →
          result.toList = parts.flatMap (Part.replaced env Part.kept) ∧
          ((∀ p ∈ parts, p.isIntact = true) →
            result.toList = parts.flatMap (Part.replaced env Part.spelling))) ∧
        ∀ name, env.expand text = .error name ↔
          ∃ before after, references text = before ++ name :: after ∧
            (∀ other ∈ before, ∃ value, env.value? other = some value) ∧ env.value? name = none := by
  obtain ⟨parts, h⟩ := exists_reads text.toList
  refine ⟨parts, ⟨h, fun parts' h' => h'.unique h⟩, references_eq h, fun env => ⟨?_, ?_, ?_⟩⟩
  · constructor
    · rintro ⟨result, hresult⟩
      exact ((expand_eq_ok_iff h).mp hresult).1
    · intro hset
      exact ⟨_, (expand_eq_ok_iff h).mpr ⟨hset, String.toList_ofList⟩⟩
  · intro result hresult
    have heq := ((expand_eq_ok_iff h).mp hresult).2
    refine ⟨heq, fun hintact => heq.trans ?_⟩
    exact List.flatMap_congr fun p hp => Part.replaced_of_isIntact (hintact p hp)
  · exact fun name => expand_eq_error_iff h

/-- A value that looks like a reference is left alone, and so is a `$` in front of a blank. -/
theorem expand_replaces_references_once :
    ∃ (env : Environment) (result : String),
      references "$A-$\x7bB c\x7d$ 5" = ["A", "B c"] ∧ env.expand "$A-$\x7bB c\x7d$ 5" = .ok result ∧
      result.toList = "1-$A$ 5".toList := by
  let env : Environment := fun name => if name = "A" then some "1" else some "$A"
  let parts : List Part :=
    [.bare ['A'], .char '-', .braced ['B', ' ', 'c'], .char '$', .char ' ', .char '5']
  have hreads : Reads parts "$A-$\x7bB c\x7d$ 5".toList := by
    have hletter : ∀ c ∈ ['A'], isNameChar c = true := by
      intro c hc
      rw [List.mem_singleton.mp hc]
      decide +kernel
    refine .cons (p := .bare ['A']) ⟨by decide, hletter, ?_⟩
      (.cons (p := .char '-') (fun h => absurd h (by decide))
      (.cons (p := .braced ['B', ' ', 'c']) (show _ ∉ _ by decide)
      (.cons (p := .char '$') (fun _ => ?_)
      (.cons (p := .char ' ') (fun h => absurd h (by decide))
      (.cons (p := .char '5') (fun h => absurd h (by decide)) .nil)))))
    · rintro d ⟨⟩
      decide +kernel
    · rintro d ⟨⟩
      decide +kernel
  obtain ⟨parts', ⟨-, hunique⟩, href, hexpand⟩ := expand_replaces_references "$A-$\x7bB c\x7d$ 5"
  obtain rfl := hunique parts hreads
  obtain ⟨hok, hresult, -⟩ := hexpand env
  have hnames : references "$A-$\x7bB c\x7d$ 5" = ["A", "B c"] := href.trans (by decide)
  obtain ⟨result, heq⟩ := hok.mpr (by
    rw [hnames]
    intro name hname
    rcases List.mem_cons.mp hname with rfl | hname
    · exact ⟨"1", by decide⟩
    · rw [List.mem_singleton.mp hname]
      exact ⟨"$A", by decide⟩)
  exact ⟨env, result, hnames, heq, ((hresult result heq).2 (by decide)).trans (by decide)⟩

/-- Empty braces refer to no variable, but are dropped behind their `$`; open ones are taken to be closed
at the end of the text. -/
theorem expand_drops_empty_braces :
    references "$\x7b\x7d" = [] ∧ expand (fun _ => none) "$\x7b\x7d" = .ok "$" ∧
      expand (fun name => if name = "A" then some "x" else none) "$\x7b\x7d$\x7bA" = .ok "$x" := by
  decide +kernel

end QueryExpr.Environment
