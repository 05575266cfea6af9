import Mathlib.Data.List.Chain
import QueryExpr.Sql.Comment

/-!
# The marks of a comment

A text becomes a comment by breaking up the marks in it: first those that would open a comment, then
those that would close one. A replacement of this kind puts in spaces and takes nothing out, so what the
first one has broken up the second one does not bring together again. Both of them are one pass over the
text, which puts a space between any two neighbours that make a mark (`toList_comment`), and the marks
around the text are the only ones of the comment (`front_or_back_of_mark`).
-/

namespace QueryExpr

/-! ### Spaces between neighbours -/

namespace Text

/-- The second text is the first one with spaces put in. -/
inductive Spaced : List Char → List Char → Prop where
  | nil : Spaced [] []
  | char (c : Char) {cs ds : List Char} (rest : Spaced cs ds) : Spaced (c :: cs) (c :: ds)
  | space {cs ds : List Char} (rest : Spaced cs ds) : Spaced cs (' ' :: ds)

/-- The text with a space between any two neighbours that meet. -/
def spread (meet : Char → Char → Bool) : List Char → List Char
  | [] => []
  | c :: cs =>
    if cs.head?.any (meet c) then c :: ' ' :: spread meet cs else c :: spread meet cs

theorem head?_spread (meet : Char → Char → Bool) (cs : List Char) :
    (spread meet cs).head? = cs.head? := by
  cases cs with
  | nil => rfl
  | cons c cs =>
    rw [spread]
    split <;> rfl

theorem spaced_spread (meet : Char → Char → Bool) (cs : List Char) :
    Spaced cs (spread meet cs) := by
  induction cs with
  | nil => exact .nil
  | cons c cs ih =>
    rw [spread]
    split
    · exact .char c (.space ih)
    · exact .char c ih

/-- Replacing two different characters by the same with a space between them is a pass that takes them
for neighbours that meet. -/
theorem replaceFrom_pair {a b : Char} (hab : a ≠ b) (cs : List Char) :
    replaceFrom [a, b] [a, ' ', b] 0 cs = spread (fun c d => c = a && d = b) cs := by
  induction cs using List.twoStepInduction with
  | nil => rfl
  | singleton c => simp [replaceFrom, spread, List.isPrefixOf]
  | cons_cons c d cs ih ih' =>
    rw [replaceFrom, spread]
    by_cases hmeet : c = a ∧ d = b
    · -- the match takes up both characters, and the second one begins no other match
      obtain ⟨rfl, rfl⟩ := hmeet
      simp [List.isPrefixOf, replaceFrom, spread, ih, hab.symm]
    · have hprefix : ¬[a, b].isPrefixOf (c :: d :: cs) = true := by
        rw [List.isPrefixOf_iff_prefix, List.cons_prefix_cons, List.cons_prefix_cons]
        rintro ⟨rfl, rfl, -⟩
        exact hmeet ⟨rfl, rfl⟩
      rw [if_neg hprefix, if_neg (by simpa using hmeet), ih' d]

section Meet

variable {p q : Char → Char → Bool} (hright : ∀ c, q c ' ' = false) (hleft : ∀ c, q ' ' c = false)

include hright hleft

/-- No neighbours that meet are left, since nothing meets a space. -/
theorem isChain_spread (cs : List Char) : (spread q cs).IsChain fun c d => q c d = false := by
  induction cs with
  | nil => exact .nil
  | cons c cs ih =>
    rw [spread]
    split
    · exact (ih.cons fun d _ => hleft d).cons fun d hd => by cases hd; exact hright c
    · next hmeet =>
      refine ih.cons fun d hd => ?_
      rw [head?_spread] at hd
      simpa [Option.mem_def.mp hd] using hmeet

/-- **Two passes are one**: the spaces of the first one are no neighbours that meet in the second. -/
theorem spread_spread (cs : List Char) :
    spread q (spread p cs) = spread (fun c d => p c d || q c d) cs := by
  induction cs with
  | nil => rfl
  | cons c cs ih =>
    have hblank : spread q (' ' :: spread p cs) = ' ' :: spread q (spread p cs) := by
      rw [spread, if_neg]
      cases (spread p cs).head? <;> simp [hleft]
    rw [spread, spread]
    cases hp : cs.head?.any (p c) with
    | true =>
      -- the space of the first pass stands between the two, so the second pass puts in no other
      have hany : (cs.head?.any fun d => p c d || q c d) = true := by
        cases hd : cs.head? <;> simp_all
      rw [if_pos rfl, if_pos hany, spread, if_neg (by simp [hright]), hblank, ih]
    | false =>
      have hany : (cs.head?.any fun d => p c d || q c d) = cs.head?.any (q c) := by
        cases hd : cs.head? <;> simp_all
      rw [if_neg Bool.false_ne_true, hany, spread, head?_spread, ih]

end Meet

end Text

/-! ### Marks -/

namespace Sql

/-- The two characters open a comment or close one. -/
def isMark (c d : Char) : Bool := (c = '/' && d = '*') || (c = '*' && d = '/')

/-- **A comment is its text, with a space inside of each mark, between two marks.** -/
theorem toList_comment (text : String) : (comment text).toList =
    '/' :: '*' :: ' ' :: (Text.spread isMark text.toList ++ [' ', '*', '/']) := by
  have hboth : Text.replaceFrom ['*', '/'] ['*', ' ', '/'] 0
      (Text.replaceFrom ['/', '*'] ['/', ' ', '*'] 0 text.toList) =
        Text.spread isMark text.toList := by
    rw [Text.replaceFrom_pair (by decide), Text.replaceFrom_pair (by decide)]
    exact Text.spread_spread (by simp) (by simp) _
  simp [comment, Text.replaceAll, hboth]

example : comment "*/*" = "/* * / * */" := by decide

theorem isMark_space (c : Char) : isMark c ' ' = false ∧ isMark ' ' c = false := by
  simp [isMark]

/-- There is no mark between the marks of a comment. -/
theorem isChain_body (cs : List Char) :
    (Text.spread isMark cs).IsChain fun c d => isMark c d = false :=
  Text.isChain_spread (fun c => (isMark_space c).1) (fun c => (isMark_space c).2) cs

/-- There is no mark in a comment without its first and its last character. -/
theorem isChain_inside (cs : List Char) :
    ('*' :: ' ' :: (Text.spread isMark cs ++ [' ', '*'])).IsChain fun c d => isMark c d = false := by
  have hend : (Text.spread isMark cs ++ [' ', '*']).IsChain fun c d => isMark c d = false :=
    List.isChain_append.mpr ⟨isChain_body cs, by simp [isMark], fun c _ d hd => by
      cases hd
      exact (isMark_space c).1⟩
  exact (hend.cons fun d _ => (isMark_space d).2).cons fun d hd => by cases hd; rfl

/-- **A mark in a comment** is at its front or at its end. -/
theorem front_or_back_of_mark {text : String} {front back : List Char} {c d : Char}
    (hmark : isMark c d = true) (h : (comment text).toList = front ++ c :: d :: back) :
    front = [] ∨ back = [] := by
  rcases front with _ | ⟨x, front⟩
  · exact .inl rfl
  rcases List.eq_nil_or_concat back with rfl | ⟨back, y, rfl⟩
  · exact .inr rfl
  -- otherwise it is inside
  have hinside := isChain_inside text.toList
  have hsplit : ('*' :: ' ' :: (Text.spread isMark text.toList ++ [' ', '*'])) ++ ['/'] =
      (front ++ c :: d :: back) ++ [y] := by
    rw [toList_comment] at h
    simpa using (List.cons.inj h).2
  rw [(List.append_inj' hsplit rfl).1, List.isChain_append_cons_cons, hmark] at hinside
  cases hinside.2.1

/-! ### SQL with a comment -/

/-- A comment comes after the SQL, unless it is there already. -/
theorem exists_withComment_eq (sql text : String) :
    ∃ front, withComment sql (some text) = front ++ comment text ∧
      (sql = front ++ comment text ∨ front = sql ++ " ") := by
  rw [withComment]
  split
  · next hsuffix =>
    obtain ⟨front, hfront⟩ := List.isSuffixOf_iff_suffix.mp hsuffix
    have hsql : sql = String.ofList front ++ comment text := by
      rw [← String.toList_inj, ← hfront]
      simp
    exact ⟨_, hsql, .inl hsql⟩
  · exact ⟨sql ++ " ", rfl, .inr rfl⟩

theorem withComment_append_comment (front text : String) :
    withComment (front ++ comment text) (some text) = front ++ comment text := by
  rw [withComment, if_pos]
  rw [List.isSuffixOf_iff_suffix, String.toList_append]
  exact List.suffix_append _ _

/-- **No text can close its comment, or open another one in it.** A comment begins with `/*` and ends with
`*/`; neither of them stands anywhere else in it, not even with a character of the marks at the ends; and
between them there is the text with nothing but spaces put in. SQL with the comment ends with it: it is
the SQL itself if that ends so already, and else the comment comes behind the SQL. Putting the comment
to it once more changes nothing. -/
theorem comment_closed_only_at_end (text : String) :
    (∃ body, comment text = "/* " ++ body ++ " */" ∧ Text.Spaced text.toList body.toList) ∧
    (∀ front back, comment text = front ++ "/*" ++ back → front = "") ∧
    (∀ front back, comment text = front ++ "*/" ++ back → back = "") ∧
    ∀ sql, (∃ front, withComment sql (some text) = front ++ comment text ∧
        (sql = front ++ comment text ∨ front = sql ++ " ")) ∧
      withComment (withComment sql (some text)) (some text) = withComment sql (some text) := by
  refine ⟨⟨String.ofList (Text.spread isMark text.toList), ?_, ?_⟩, fun front back h => ?_,
    fun front back h => ?_, fun sql => ?_⟩
  · rw [← String.toList_inj, toList_comment]
    simp
  · rw [String.toList_ofList]
    exact Text.spaced_spread _ _
  · have hlist : (comment text).toList = front.toList ++ '/' :: '*' :: back.toList := by simp [h]
    rcases front_or_back_of_mark rfl hlist with hfront | hback
    · simpa using hfront
    · -- the last character of a comment is no star
      rw [toList_comment, hback] at hlist
      simpa using congrArg List.reverse hlist
  · have hlist : (comment text).toList = front.toList ++ '*' :: '/' :: back.toList := by simp [h]
    rcases front_or_back_of_mark rfl hlist with hfront | hback
    · rw [toList_comment, hfront] at hlist
      simp at hlist
    · simpa using hback
  · obtain ⟨front, heq, hfront⟩ := exists_withComment_eq sql text
    refine ⟨⟨front, heq, hfront⟩, ?_⟩
    rw [heq, withComment_append_comment]

end Sql
end QueryExpr
