import QueryExpr.Compile
import QueryExpr.Proofs.Expr.Literals
import QueryExpr.Proofs.Expr.Phrases
import QueryExpr.Proofs.Term.Source

/-!
# Constants decode to what they encode

A constant that the constructors write is one token of the language, whatever the text it quotes or
the year it falls in, and reading that token gives the constant back. `Encodes t value` is this
property of a term: its source is one token that covers the whole text, and under every schema the
source compiles to the term itself, a valid constant with the value.

The property is proved once for every constant with a literal of its own (`encodes_mkConst`); strings,
colors and dates are such constants as they are, and a moment is one after its fraction of a second is
dropped.
-/

namespace QueryExpr

open Text

/-- The term is a valid constant with the value, and its source is one token that says so. -/
structure Encodes (t : Term) (value : Constant) : Prop where
  /-- The scanner finds one token, from the first byte to the last. -/
  scan : ∃ token, Token.scan t.source = .ok [⟨token, 0, byteLength t.source.toList⟩]
  /-- Whatever the names in scope are, the source is read as the term. -/
  compile : ∀ schema : Schema, compile schema t.source = .ok t
  head : t.head = .const value
  verdict : t.verdict = .valid value.dataType
  slots : t.slots = []

/-- The source of a constant is its literal. -/
theorem source_mkConst (value : Constant) : (Term.mkConst value).source = value.literal := by
  rw [Term.source, Term.mkConst, Term.sourceChars_make]
  simp [Fragment.chars]

/-- A text from end to end. -/
theorem Expr.textBetween_self (text : String) :
    textBetween text.toList 0 (byteLength text.toList) = text := by
  rw [textBetween, slice?_self, Option.getD_some, String.ofList_toList]

/-- A constant over the whole of its literal is the one that the constructor writes. -/
theorem build_const (value : Constant) :
    Expr.build value.literal.toList ⟨0, byteLength value.literal.toList⟩ (.const value) [] [] =
      Term.mkConst value := by
  rw [Expr.build, Expr.cutOut, Expr.textBetween_self, Term.mkConst]

section Literal

variable {token : Token} {spelling : List Char}

/-- A text that is one literal compiles to what the literal denotes. -/
theorem compile_of_stands {lit : Literal}
    (hstands : ∀ rest, Token.Closed rest → token.Stands spelling rest)
    (hlit : token.literal? = some lit) (schema : Schema) :
    compile schema (String.ofList spelling) =
      .ok (Expr.resolveConst spelling ⟨0, byteLength spelling⟩ lit) := by
  -- the literal as a phrase of one piece, read by the scanner and by the parser
  let p : Phrase := .atom token spelling fun place => .const place lit
  have hreads : p.Reads Phrase.primary := Phrase.reads_literal hstands hlit
  have hparse : Expr.parse (String.ofList spelling) =
      .ok (.const (.bare 0 (byteLength spelling)) lit) := by
    rw [← Phrase.text_atom token spelling fun place => .const place lit, hreads.parse,
      Phrase.text_atom]
    simp [p, Phrase.atom]
  rw [compile, hparse, String.toList_ofList]
  rfl

end Literal

/-- **Every constant with a literal of its own** is encoded by it. -/
theorem encodes_mkConst {value : Constant} (h : value.IsLiteral) :
    Encodes (Term.mkConst value) value := by
  obtain ⟨token, lit, hstands, hlit, hresolve⟩ := exists_stands_literal h
  refine ⟨⟨token, ?_⟩, fun schema => ?_, rfl, rfl, rfl⟩
  · have hscan := scan_of_stands (hstands [] trivial)
    rwa [String.ofList_toList, ← source_mkConst] at hscan
  · have hcompile := compile_of_stands hstands hlit schema
    rw [String.ofList_toList, hresolve] at hcompile
    rw [source_mkConst, hcompile]
    exact congrArg Except.ok (build_const value)

/-- **Constant literals decode to what was encoded.** The constructors write every string, every color
and every date of the calendar as one token that compiles to a valid constant with the same value. A
moment comes back without its fraction of a second, and a leap second as the second 59. -/
theorem encodes_literal :
    (∀ s : String, Encodes (Term.mkConst (.str s)) (.str s)) ∧
    (∀ c : Color, Encodes (Term.mkConst (.color c)) (.color c)) ∧
    (∀ d : Calendar.Date, Encodes (Term.mkConst (.date d)) (.date d)) ∧
    (∀ m : Calendar.DateTime, ∃ m' : Calendar.DateTime,
      Encodes (Term.mkDateTime m) (.dateTime m') ∧
      m'.date = m.date ∧ m'.time.hour = m.time.hour ∧ m'.time.minute = m.time.minute ∧
      m'.time.second = m.time.second ∧ m'.time.nanos = 0) := by
  refine ⟨fun s => encodes_mkConst trivial, fun c => encodes_mkConst trivial,
    fun d => encodes_mkConst trivial, fun m => ?_⟩
  have hwhole : (Constant.dateTime m.wholeSecond).IsLiteral :=
    Calendar.DateTime.wholeSecond_wholeSecond m
  exact ⟨m.wholeSecond, encodes_mkConst hwhole, rfl, rfl, rfl, rfl, rfl⟩

example : (Term.mkDateTime ⟨⟨-262143, 12, 31, by decide⟩, ⟨23, 59, 59, 1999999999, by decide⟩⟩).source =
    "@(-262143-12-31T23:59:59)" := by decide +kernel

end QueryExpr
