import QueryExpr.Proofs.Expr.Operands
import QueryExpr.Proofs.Expr.Placement
import QueryExpr.Proofs.Token.Spelling

/-!
# Phrases

A phrase is an expression that is written out: its pieces, and the tree that they stand for where the
first piece begins at a given byte. `Phrase.Reads p level` is what makes a phrase an operand of the
grammar: it is legible in front of whatever may follow an operand, and its tokens are read as an operand
of the level (`Operand`).

There is one combinator for each form of the grammar, and one lemma for each that builds the phrase
out of phrases for the operands.
-/

namespace QueryExpr

open Text

/-! ### Phrases -/

namespace Piece

/-- A sign as a piece. -/
def mark (s : Symbol) : Piece := .word (.symbol s) s.chars

/-- A reserved word as a piece. -/
def reserved (k : Keyword) : Piece := .word (.keyword k) k.text.toList

/-- A name as a piece. -/
def name (n : String) : Piece := .word (.ident n) n.toList

end Piece

/-- An expression that is written out. -/
structure Phrase where
  pieces : List Piece
  /-- The tree, if the first piece begins at this byte. -/
  expr : Nat → Expr

namespace Phrase

open Parse Piece Token

/-- The characters of the phrase. -/
def text (p : Phrase) : List Char := Piece.text p.pieces

/-- The number of bytes of the phrase. -/
def size (p : Phrase) : Nat := byteLength p.text

/-- The phrase is read as an operand of the level, and its tree takes up its bytes. -/
structure Reads (p : Phrase) (level : Nat) : Prop where
  legible : ∀ rest, Closed rest → Legible p.pieces rest
  present : ∀ offset, (p.expr offset).isPresent = true
  outer : ∀ offset, (p.expr offset).outer = ⟨offset, offset + p.size⟩
  /-- The word `not` after `is` would be taken for an operator, so a phrase that may begin with it is
  not read there. -/
  leads : ∀ (offset : Nat) (frames : List Frame) (opening : Opening), demand frames ≤ level →
    (opening = .identity → notLevel < demand frames) →
    ∃ fs e single,
      Leads (.want frames opening) (lexemes offset p.pieces) (.complete fs e single) ∧
      ∀ k ≤ level, close k fs e = close k frames (p.expr offset)

/-- The level of a primary. -/
def primary : Nat := 13

/-- The tokens of a phrase are an operand, wherever the phrase begins. -/
theorem Reads.operand {p : Phrase} {level : Nat} (h : p.Reads level) (offset : Nat) :
    Operand level (lexemes offset p.pieces) (p.expr offset) := h.leads offset

/-- A phrase of a tight level can stand where a looser one is demanded. -/
theorem Reads.mono {p : Phrase} {level level' : Nat} (h : p.Reads level) (hle : level' ≤ level) :
    p.Reads level' where
  legible := h.legible
  present := h.present
  outer := h.outer
  leads := fun offset => (h.operand offset).mono hle

/-- The tree has no parentheses around it. -/
def Bare (p : Phrase) : Prop := ∀ offset, (p.expr offset).place = .bare offset (offset + p.size)

/-- Without parentheses the outer place is the inner one. -/
theorem Bare.outer {p : Phrase} (h : p.Bare) (offset : Nat) :
    (p.expr offset).outer = ⟨offset, offset + p.size⟩ := by
  rw [Expr.outer, h offset]
  rfl

/-! ### Atoms and parentheses -/

/-- One token. -/
def atom (token : Token) (spelling : List Char) (node : Place → Expr) : Phrase where
  pieces := [.word token spelling]
  expr := fun offset => node (.bare offset (offset + byteLength spelling))

section Atom

variable {token : Token} {spelling : List Char} {node : Place → Expr}

/-- A token has the place of its characters. -/
theorem bare_atom (hplace : ∀ place, (node place).place = place) :
    (atom token spelling node).Bare := by
  intro offset
  rw [atom, hplace, size, text, Piece.text_cons, Piece.text_nil, List.append_nil]
  rfl

/-- A token that is an operand by itself is a primary. -/
theorem reads_atom (hstands : ∀ rest, Closed rest → token.Stands spelling rest)
    (hplace : ∀ place, (node place).place = place)
    (hpresent : ∀ place, (node place).isPresent = true)
    (hstep : ∀ (frames : List Frame) (opening : Opening) (start stop : Nat),
      stepWant frames opening ⟨token, start, stop⟩ =
        .ok (.complete frames (node (.bare start stop)) true)) :
    (atom token spelling node).Reads primary where
  legible := fun rest hrest => ⟨hstands rest hrest, trivial⟩
  present := fun _ => hpresent _
  outer := (bare_atom hplace).outer
  leads := fun _ => operand_token fun frames opening => hstep frames opening _ _

/-- A token that is a literal is a constant. -/
theorem reads_literal {lit : Literal} (hstands : ∀ rest, Closed rest → token.Stands spelling rest)
    (hlit : token.literal? = some lit) :
    (atom token spelling fun place => .const place lit).Reads primary := by
  refine reads_atom hstands (fun _ => rfl) (fun _ => rfl) fun frames opening start stop => ?_
  unfold Parse.stepWant
  rw [hlit]

/-- A name is an operand, since it is no reserved word. -/
theorem reads_name {n : String} (hname : isName n = true) :
    (atom (.ident n) n.toList fun place => .name place n).Reads primary :=
  reads_atom (fun _ => stands_name hname) (fun _ => rfl) (fun _ => rfl) fun _ _ _ _ => rfl

end Atom

/-- `(p)` -/
def paren (p : Phrase) : Phrase where
  pieces := mark .lparen :: p.pieces ++ [mark .rparen]
  expr := fun offset => (p.expr (offset + 1)).parenthesized offset (offset + 1 + p.size + 1)

/-- Parentheses add two bytes. -/
theorem size_paren (p : Phrase) : p.paren.size = p.size + 2 := by
  rw [size, text, paren, List.cons_append, Piece.text_cons, Piece.text_append, byteLength_append,
    byteLength_append, Nat.add_comm]
  rfl

/-- Parentheses make a primary of any phrase. -/
theorem reads_paren {p : Phrase} {level : Nat} (h : p.Reads level) : p.paren.Reads primary where
  legible := fun rest _ => by
    rw [paren, List.cons_append]
    refine ⟨stands_mark (by decide) _, legible_append.mpr ⟨?_, stands_mark (by decide) _, trivial⟩⟩
    exact h.legible _ (closed_of_mem (by decide) _)
  present := fun offset => by
    rw [paren, Expr.parenthesized_isPresent]
    exact h.present _
  outer := fun offset => by
    -- the tree inside is there, so the parentheses are noted in its place
    rw [size_paren, Expr.outer, paren, Expr.parenthesized_place _ _ _ (h.present _), Nat.add_assoc,
      Nat.add_assoc, Nat.add_comm 1]
  leads := fun offset => by
    rw [paren, List.cons_append]
    change Operand primary (_ :: lexemes (offset + 1) (p.pieces ++ [mark .rparen])) _
    rw [lexemes_append]
    exact operand_paren (h.operand (offset + 1)) offset _ _ _

/-! ### Attributes and calls -/

/-- `p.n` -/
def attr (p : Phrase) (n : String) : Phrase where
  pieces := p.pieces ++ [mark .dot, name n]
  expr := fun offset => .mkAttr (p.expr offset) n (offset + p.size + 1 + byteLength n.toList)

section Attr

variable {p : Phrase} {n : String}

/-- An attribute reaches from the start of its object to the end of the name. -/
theorem bare_attr (h : ∀ offset, (p.expr offset).outer = ⟨offset, offset + p.size⟩) :
    (p.attr n).Bare := by
  intro offset
  have hsize : (p.attr n).size = p.size + (1 + byteLength n.toList) := by
    rw [size, text, attr, Piece.text_append, byteLength_append]
    simp [mark, name, Piece.chars, Symbol.chars, size, text]
    rfl
  rw [hsize, ← Nat.add_assoc, ← Nat.add_assoc]
  simp [attr, Expr.mkAttr, Expr.place, h]

/-- The point behind a phrase begins no fraction. -/
theorem closed_dot_name (hn : isName n = true) (rest : List Char) :
    Closed ('.' :: (n.toList ++ rest)) := by
  -- the character after the point begins a name, so it is no digit
  refine .inr ⟨rfl, fun d hd => ?_⟩
  have hid := (Bool.and_eq_true_iff.mp hn).1
  cases hchars : n.toList with
  | nil => rw [hchars] at hid; cases hid
  | cons c cs =>
    rw [hchars] at hid hd
    obtain rfl : c = d := by simpa using hd
    cases hdigit : isAsciiDigit c with
    | false => rfl
    | true =>
      rw [isIdentifier, not_isIdentStart_of_isAsciiDigit hdigit] at hid
      cases hid

/-- **An attribute.** The object has to be a primary, and is read first, up to the point. -/
theorem reads_attr (h : p.Reads primary) (hn : isName n = true) : (p.attr n).Reads primary where
  legible := fun rest hrest => by
    -- the object ends at the point, and the name at what follows the attribute
    refine legible_append.mpr ⟨h.legible _ ?_, stands_mark (by decide) _, ?_, trivial⟩
    · simpa [mark, name, Piece.chars, Symbol.chars] using closed_dot_name hn rest
    · simpa using stands_name hn hrest
  present := fun _ => rfl
  outer := (bare_attr h.outer).outer
  leads := fun offset => by
    rw [attr, lexemes_append]
    exact operand_attr (h.operand offset) n _ _ _ _

end Attr

/-! ### Items between commas -/

/-- The pieces of several phrases with commas between them. -/
def items : List Phrase → List Piece
  | [] => []
  | [p] => p.pieces
  | p :: q :: ps => p.pieces ++ mark .comma :: .space :: items (q :: ps)

/-- The trees of several phrases with commas between them. -/
def itemExprs : Nat → List Phrase → List Expr
  | _, [] => []
  | offset, p :: ps => p.expr offset :: itemExprs (offset + p.size + 2) ps

/-- The tokens and the trees of several phrases with commas between them. -/
def itemParts : Nat → List Phrase → List (List Lexeme × Expr)
  | _, [] => []
  | offset, p :: ps =>
    (lexemes offset p.pieces, p.expr offset) :: itemParts (offset + p.size + 2) ps

/-- The trees among the parts. -/
theorem map_snd_itemParts (offset : Nat) (ps : List Phrase) :
    (itemParts offset ps).map Prod.snd = itemExprs offset ps := by
  induction ps generalizing offset with
  | nil => rfl
  | cons p ps ih => rw [itemParts, itemExprs, List.map_cons, ih]

/-- The tokens of the items are their own tokens with one comma between each two. -/
theorem separated_items (offset : Nat) (ps : List Phrase) :
    Separated (fun l => l.token = .symbol .comma) ((itemParts offset ps).map Prod.fst)
      (lexemes offset (items ps)) := by
  induction ps generalizing offset with
  | nil => exact .nil
  | cons p ps ih =>
    cases ps with
    | nil => exact .last _
    | cons q ps =>
      -- the next item begins behind the comma and a space
      rw [items, lexemes_append]
      exact .cons _ rfl (List.cons_ne_nil _ _) (ih (offset + p.size + 2))

section Items

variable {ps : List Phrase} (hps : ∀ p ∈ ps, ∃ level, p.Reads level)

include hps

/-- Each item stands in front of a comma, and the last in front of what follows. -/
theorem legible_items {rest : List Char} (hrest : Closed rest) : Legible (items ps) rest := by
  induction ps with
  | nil => exact trivial
  | cons p ps ih =>
    obtain ⟨level, hp⟩ := hps p List.mem_cons_self
    cases ps with
    | nil => exact hp.legible rest hrest
    | cons q ps =>
      refine legible_append.mpr ⟨hp.legible _ (closed_of_mem (by decide) _), ?_⟩
      exact ⟨stands_mark (by decide) _, ih fun p' hp' => hps p' (List.mem_cons_of_mem p hp')⟩

/-- Each item is an operand where it stands. -/
theorem operand_itemParts (offset : Nat) :
    ∀ q ∈ itemParts offset ps, ∃ level, Operand level q.1 q.2 := by
  induction ps generalizing offset with
  | nil => exact List.forall_mem_nil _
  | cons p ps ih =>
    obtain ⟨level, hp⟩ := hps p List.mem_cons_self
    refine List.forall_mem_cons.mpr ⟨⟨level, hp.operand offset⟩, ?_⟩
    exact ih (fun p' hp' => hps p' (List.mem_cons_of_mem p hp')) (offset + p.size + 2)

end Items

/-- `[a, b]` -/
def list (ps : List Phrase) : Phrase where
  pieces := mark .lbracket :: items ps ++ [mark .rbracket]
  expr := fun offset =>
    .list (.bare offset (offset + 1 + byteLength (Piece.text (items ps)) + 1))
      (itemExprs (offset + 1) ps)

/-- A list reaches from bracket to bracket. -/
theorem bare_list (ps : List Phrase) : (list ps).Bare := by
  intro offset
  have hsize : (list ps).size = 1 + byteLength (Piece.text (items ps)) + 1 := by
    rw [size, text, list, List.cons_append, Piece.text_cons, Piece.text_append, byteLength_append,
      byteLength_append, ← Nat.add_assoc]
    rfl
  rw [hsize, ← Nat.add_assoc, ← Nat.add_assoc]
  rfl

/-- **A list.** Its items may be of any level, since the brackets and the commas close them off. -/
theorem reads_list {ps : List Phrase} (hps : ∀ p ∈ ps, ∃ level, p.Reads level) :
    (list ps).Reads primary where
  legible := fun rest _ => by
    refine ⟨stands_mark (by decide) _, legible_append.mpr ⟨?_, stands_mark (by decide) _, trivial⟩⟩
    exact legible_items hps (closed_of_mem (by decide) _)
  present := fun _ => rfl
  outer := (bare_list ps).outer
  leads := fun offset => by
    rw [list, List.cons_append]
    -- the tokens in the brackets begin one byte later
    change Operand primary (_ :: lexemes (offset + 1) (items ps ++ [mark .rbracket]))
      (.list _ (itemExprs (offset + 1) ps))
    rw [lexemes_append, ← map_snd_itemParts]
    exact operand_list (operand_itemParts hps (offset + 1)) (separated_items (offset + 1) ps)
      offset _ _ _

/-- What stands between the braces of a set. -/
def setItems (ps : List Phrase) : List Piece := if ps.isEmpty then [mark .slash] else items ps

/-- A set in braces; the empty one has a slash in them. -/
def set (ps : List Phrase) : Phrase where
  pieces := mark .lbrace :: setItems ps ++ [mark .rbrace]
  expr := fun offset =>
    .set (.bare offset (offset + 1 + byteLength (Piece.text (setItems ps)) + 1))
      (itemExprs (offset + 1) ps)

/-- A set reaches from brace to brace. -/
theorem bare_set (ps : List Phrase) : (set ps).Bare := by
  intro offset
  have hsize : (set ps).size = 1 + byteLength (Piece.text (setItems ps)) + 1 := by
    rw [size, text, set, List.cons_append, Piece.text_cons, Piece.text_append, byteLength_append,
      byteLength_append, ← Nat.add_assoc]
    rfl
  rw [hsize, ← Nat.add_assoc, ← Nat.add_assoc]
  rfl

/-- **A set**, the empty one included: what its braces hold is legible, and is read as a set of its own form. -/
theorem reads_set {ps : List Phrase} (hps : ∀ p ∈ ps, ∃ level, p.Reads level) :
    (set ps).Reads primary where
  legible := fun rest _ => by
    refine ⟨stands_mark (by decide) _, legible_append.mpr ⟨?_, stands_mark (by decide) _, trivial⟩⟩
    unfold setItems
    split
    · -- the slash and the closing brace do not make another sign
      exact ⟨stands_sign .slash (.inr rfl) _, trivial⟩
    · exact legible_items hps (closed_of_mem (by decide) _)
  present := fun _ => rfl
  outer := (bare_set ps).outer
  leads := fun offset => by
    rw [set, List.cons_append]
    cases ps with
    | nil => exact operand_emptySet offset _ _ _ _ _
    | cons p ps =>
      change Operand primary (_ :: lexemes (offset + 1) (items (p :: ps) ++ [mark .rbrace]))
        (.set _ (itemExprs (offset + 1) (p :: ps)))
      rw [lexemes_append, ← map_snd_itemParts]
      exact operand_set (operand_itemParts hps (offset + 1)) (separated_items (offset + 1) (p :: ps))
        (List.cons_ne_nil _ _) offset _ _ _

/-- `callee(args)` -/
def call (callee : Phrase) (args : List Phrase) : Phrase where
  pieces := callee.pieces ++ (mark .lparen :: items args ++ [mark .rparen])
  expr := fun offset =>
    .mkCall (callee.expr offset)
      ((itemExprs (offset + callee.size + 1) args).map fun x => (.positional, x))
      (offset + callee.size + 1 + byteLength (Piece.text (items args)) + 1)

section Call

variable {callee : Phrase} {args : List Phrase}

/-- A call reaches from the start of the callee to the closing parenthesis. -/
theorem bare_call (h : ∀ offset, (callee.expr offset).outer = ⟨offset, offset + callee.size⟩) :
    (callee.call args).Bare := by
  intro offset
  have hsize : (callee.call args).size =
      callee.size + 1 + byteLength (Piece.text (items args)) + 1 := by
    rw [size, text, call, Piece.text_append, List.cons_append, Piece.text_cons, Piece.text_append,
      byteLength_append, byteLength_append, byteLength_append, ← Nat.add_assoc, ← Nat.add_assoc]
    rfl
  rw [hsize, ← Nat.add_assoc, ← Nat.add_assoc, ← Nat.add_assoc]
  simp [call, Expr.mkCall, Expr.place, h]

/-- **A call.** The callee has to be a primary, and the arguments may be of any level. -/
theorem reads_call (h : callee.Reads primary) (hargs : ∀ p ∈ args, ∃ level, p.Reads level) :
    (callee.call args).Reads primary where
  legible := fun rest _ => by
    refine legible_append.mpr ⟨h.legible _ (closed_of_mem (by decide) _), ?_⟩
    refine ⟨stands_mark (by decide) _, legible_append.mpr ⟨?_, stands_mark (by decide) _, trivial⟩⟩
    exact legible_items hargs (closed_of_mem (by decide) _)
  present := fun _ => rfl
  outer := (bare_call h.outer).outer
  leads := fun offset => by
    have hargs' := operand_itemParts hargs (offset + callee.size + 1)
    have hsep := separated_items (offset + callee.size + 1) args
    -- the arguments begin behind the callee and the parenthesis
    rw [call, lexemes_append, List.cons_append]
    change Operand primary (_ ++ _ :: lexemes (offset + callee.size + 1) (items args ++ _))
      (.mkCall _ ((itemExprs (offset + callee.size + 1) args).map _) _)
    rw [lexemes_append, ← map_snd_itemParts]
    exact operand_call_positional (h.operand offset) hargs' hsep _ _ _ _

end Call

/-! ### Subscripts -/

/-- `obj[index]` -/
def item (obj index : Phrase) : Phrase where
  pieces := obj.pieces ++ (mark .lbracket :: index.pieces ++ [mark .rbracket])
  expr := fun offset =>
    .mkItem (obj.expr offset) (index.expr (offset + obj.size + 1))
      (offset + obj.size + 1 + index.size + 1)

section Item

variable {obj index : Phrase}

/-- An item reaches from the start of its object to the closing bracket. -/
theorem bare_item (h : ∀ offset, (obj.expr offset).outer = ⟨offset, offset + obj.size⟩) :
    (obj.item index).Bare := by
  intro offset
  have hsize : (obj.item index).size = obj.size + 1 + index.size + 1 := by
    rw [size, text, item, Piece.text_append, List.cons_append, Piece.text_cons, Piece.text_append,
      byteLength_append, byteLength_append, byteLength_append, ← Nat.add_assoc, ← Nat.add_assoc]
    rfl
  rw [hsize, ← Nat.add_assoc, ← Nat.add_assoc, ← Nat.add_assoc]
  simp [item, Expr.mkItem, Expr.place, h]

/-- **An item.** The object has to be a primary, and the index may be of any level. -/
theorem reads_item {level : Nat} (h : obj.Reads primary) (hindex : index.Reads level) :
    (obj.item index).Reads primary where
  legible := fun rest _ => by
    refine legible_append.mpr ⟨h.legible _ (closed_of_mem (by decide) _), ?_⟩
    refine ⟨stands_mark (by decide) _, legible_append.mpr ⟨?_, stands_mark (by decide) _, trivial⟩⟩
    exact hindex.legible _ (closed_of_mem (by decide) _)
  present := fun _ => rfl
  outer := (bare_item h.outer).outer
  leads := fun offset => by
    rw [item, lexemes_append, List.cons_append]
    change Operand primary (_ ++ _ :: lexemes (offset + obj.size + 1) (index.pieces ++ _)) _
    rw [lexemes_append]
    exact operand_item (h.operand offset) (hindex.operand _) _ _ _ _

end Item

/-- The pieces of a bound that may be left out. -/
def boundPieces : Option Phrase → List Piece
  | none => []
  | some p => p.pieces

/-- The tree of a bound that may be left out. -/
def boundExpr : Option Phrase → Nat → Expr
  | none, _ => .absent
  | some p, offset => p.expr offset

/-- `obj[low:high]` -/
def slice (obj : Phrase) (low high : Option Phrase) : Phrase where
  pieces := obj.pieces ++ (mark .lbracket :: ((boundPieces low ++ [mark .colon]) ++
    (boundPieces high ++ [mark .rbracket])))
  expr := fun offset =>
    let first := offset + obj.size + 1
    let second := first + byteLength (Piece.text (boundPieces low)) + 1
    .mkSlice (obj.expr offset) (boundExpr low first) (boundExpr high second)
      (second + byteLength (Piece.text (boundPieces high)) + 1)

section Slice

variable {obj : Phrase} {low high bound : Option Phrase}

/-- A slice reaches from the start of its object to the closing bracket. -/
theorem bare_slice (h : ∀ offset, (obj.expr offset).outer = ⟨offset, offset + obj.size⟩) :
    (obj.slice low high).Bare := by
  intro offset
  have hsize : (obj.slice low high).size = obj.size + 1 +
      byteLength (Piece.text (boundPieces low)) + 1 +
      byteLength (Piece.text (boundPieces high)) + 1 := by
    simp only [size, text, slice, Piece.text_append, Piece.text_cons, byteLength_append,
      ← Nat.add_assoc]
    rfl
  rw [hsize]
  simp only [← Nat.add_assoc]
  simp [slice, Expr.mkSlice, Expr.place, h]

/-- A bound is legible in front of what closes it off, and nothing has to be legible where it is missing. -/
theorem legible_bound (hbound : ∀ p ∈ bound, ∃ level, p.Reads level) {rest : List Char}
    (hrest : Closed rest) : Legible (boundPieces bound) rest := by
  cases bound with
  | none => exact trivial
  | some p =>
    obtain ⟨level, hp⟩ := hbound p rfl
    exact hp.legible rest hrest

/-- The tokens of a bound are an operand, or there are none. -/
theorem isBound_lexemes (hbound : ∀ p ∈ bound, ∃ level, p.Reads level) (offset : Nat) :
    IsBound (lexemes offset (boundPieces bound)) (boundExpr bound offset) := by
  cases bound with
  | none => exact .inl ⟨rfl, rfl⟩
  | some p =>
    obtain ⟨level, hp⟩ := hbound p rfl
    exact .inr ⟨level, hp.operand offset⟩

/-- **A slice.** Each of its bounds may be missing, and may be of any level. -/
theorem reads_slice (h : obj.Reads primary) (hlow : ∀ p ∈ low, ∃ level, p.Reads level)
    (hhigh : ∀ p ∈ high, ∃ level, p.Reads level) : (obj.slice low high).Reads primary where
  legible := fun rest _ => by
    refine legible_append.mpr ⟨h.legible _ (closed_of_mem (by decide) _), ?_⟩
    refine ⟨stands_mark (by decide) _, legible_append.mpr ⟨?_, ?_⟩⟩
    -- the lower bound ends at the colon, the upper one at the bracket
    · refine legible_append.mpr ⟨?_, stands_mark (by decide) _, trivial⟩
      exact legible_bound hlow (closed_of_mem (by decide) _)
    · refine legible_append.mpr ⟨?_, stands_mark (by decide) _, trivial⟩
      exact legible_bound hhigh (closed_of_mem (by decide) _)
  present := fun _ => rfl
  outer := (bare_slice h.outer).outer
  leads := fun offset => by
    rw [slice, lexemes_append]
    change Operand primary (_ ++ _ :: lexemes (offset + obj.size + 1) (_ ++ _)) _
    -- the upper bound begins behind the lower one and the colon
    rw [lexemes_append, lexemes_append, lexemes_append, Piece.text_append, byteLength_append,
      ← Nat.add_assoc]
    exact operand_slice (h.operand offset) (isBound_lexemes hlow _) (isBound_lexemes hhigh _)
      _ _ _ _ _ _

end Slice

/-! ### Operators -/

/-- The pieces of an operator between its operands. -/
def operator : BinaryOp → List Piece
  | .eq => [mark .eqEq]
  | .ne => [mark .ne]
  | .lt => [mark .lt]
  | .le => [mark .le]
  | .gt => [mark .gt]
  | .ge => [mark .ge]
  | .add => [mark .plus]
  | .sub => [mark .minus]
  | .mul => [mark .star]
  | .trueDiv => [mark .slash]
  | .floorDiv => [mark .slashSlash]
  | .mod => [mark .percent]
  | .shiftLeft => [mark .shiftLeft]
  | .shiftRight => [mark .shiftRight]
  | .bitAnd => [mark .amp]
  | .bitOr => [mark .pipe]
  | .bitXor => [mark .caret]
  | .and => [reserved .and]
  | .or => [reserved .or]
  | .contains => [reserved .inside]
  | .notContains => [reserved .not, .space, reserved .inside]
  | .is => [reserved .is]
  | .isNot => [reserved .is, .space, reserved .not]
  | .item => []

/-- The pieces spell the operator as it is displayed. -/
theorem text_operator (op : BinaryOp) : Piece.text (operator op) = op.text.toList := by
  cases op <;> rfl

/-- An operator is legible in front of a space. -/
theorem legible_operator (op : BinaryOp) (rest : List Char) : Legible (operator op) (' ' :: rest) := by
  have hspace : Closed (' ' :: rest) := closed_of_mem (by decide) rest
  cases op
  case and | or | contains | is => exact ⟨stands_keyword _ hspace, trivial⟩
  case notContains | isNot =>
    -- two words: the first one ends at the space between them
    exact ⟨stands_keyword _ (closed_of_mem (by decide) _), stands_keyword _ hspace, trivial⟩
  case item => exact trivial
  all_goals exact ⟨stands_sign _ (.inl rfl) rest, trivial⟩

/-- The pieces have the tokens of the operator; the spaces have none. -/
theorem tokens_operator (op : BinaryOp) (offset : Nat) :
    (lexemes offset (operator op)).map Lexeme.token = op.tokens := by
  cases op <;> rfl

/-- `left op right` -/
def binary (op : BinaryOp) (left right : Phrase) : Phrase where
  pieces := left.pieces ++ (.space :: (operator op ++ (.space :: right.pieces)))
  expr := fun offset =>
    .mkBinary op (left.expr offset)
      (right.expr (offset + left.size + 1 + byteLength op.text.toList + 1))

section Binary

variable {op : BinaryOp} {left right : Phrase}

/-- An operator between two operands reaches from the start of the left one to the end of the right one. -/
theorem bare_binary (hleft : ∀ offset, (left.expr offset).outer = ⟨offset, offset + left.size⟩)
    (hright : ∀ offset, (right.expr offset).outer = ⟨offset, offset + right.size⟩) :
    (binary op left right).Bare := by
  intro offset
  have hsize : (binary op left right).size =
      left.size + 1 + byteLength op.text.toList + 1 + right.size := by
    simp only [size, text, binary, Piece.text_append, Piece.text_cons, byteLength_append,
      text_operator, ← Nat.add_assoc]
    rfl
  rw [hsize]
  simp only [← Nat.add_assoc]
  simp [binary, Expr.mkBinary, Expr.place, hleft, hright]

/-- **A binary operator.** The left operand may be of its level, the right one has to be tighter. -/
theorem reads_binary (hop : op ≠ .item) (hleft : left.Reads op.level)
    (hright : right.Reads (op.level + 1)) : (binary op left right).Reads op.level where
  legible := fun rest hrest => by
    refine legible_append.mpr ⟨hleft.legible _ (closed_of_mem (by decide) _), ?_⟩
    exact legible_append.mpr ⟨legible_operator op _, hright.legible rest hrest⟩
  present := fun _ => rfl
  outer := (bare_binary hleft.outer hright.outer).outer
  leads := fun offset => by
    -- the spaces around the operator have no tokens
    rw [binary, lexemes_append, lexemes, lexemes_append, text_operator, lexemes]
    exact operand_binary hop (tokens_operator op _) (hleft.operand offset) (hright.operand _)

end Binary

/-- The pieces of an operator in front of its operand. -/
def prefixed : UnaryOp → List Piece
  | .not => [reserved .not, .space]
  | .neg => [mark .minus]
  | .bitNot => [mark .tilde]

/-- The pieces spell the operator as it is displayed, with the space behind `not`. -/
theorem text_prefixed (op : UnaryOp) : Piece.text (prefixed op) = op.text.toList := by
  cases op <;> rfl

/-- `op obj` -/
def unary (op : UnaryOp) (obj : Phrase) : Phrase where
  pieces := prefixed op ++ obj.pieces
  expr := fun offset => .mkUnary op offset (obj.expr (offset + byteLength op.text.toList))

section Unary

variable {op : UnaryOp} {obj : Phrase}

/-- An operator in front of its operand adds its own bytes. -/
theorem bare_unary (h : ∀ offset, (obj.expr offset).outer = ⟨offset, offset + obj.size⟩) :
    (unary op obj).Bare := by
  intro offset
  have hsize : (unary op obj).size = byteLength op.text.toList + obj.size := by
    simp only [size, text, unary, Piece.text_append, byteLength_append, text_prefixed]
  rw [hsize, ← Nat.add_assoc]
  simp [unary, Expr.mkUnary, Expr.place, h]

/-- An operator in front of its operand is one token. -/
theorem exists_lexemes_prefixed (op : UnaryOp) (offset : Nat) :
    ∃ stop, lexemes offset (prefixed op) = [⟨op.token, offset, stop⟩] := by
  cases op <;> exact ⟨_, rfl⟩

/-- **An operator in front of its operand**, which may be of the same level. -/
theorem reads_unary (h : obj.Reads op.level) : (unary op obj).Reads op.level where
  legible := fun rest hrest => by
    refine legible_append.mpr ⟨?_, h.legible rest hrest⟩
    -- `not` needs its space to be a word of its own; a sign can stand in front of anything
    cases op with
    | not => exact ⟨stands_keyword _ (closed_of_mem (by decide) _), trivial⟩
    | neg | bitNot => exact ⟨stands_mark (by decide) _, trivial⟩
  present := fun _ => rfl
  outer := (bare_unary h.outer).outer
  leads := fun offset => by
    obtain ⟨stop, hsign⟩ := exists_lexemes_prefixed op offset
    rw [unary, lexemes_append, text_prefixed, hsign]
    exact operand_unary (h.operand _) offset stop

end Unary

/-! ### Conditionals -/

/-- `yes if test else no` -/
def cond (yes test no : Phrase) : Phrase where
  pieces := yes.pieces ++ ([.space, reserved .ifWord, .space] ++
    (test.pieces ++ ([.space, reserved .elseWord, .space] ++ no.pieces)))
  expr := fun offset =>
    .mkCond (yes.expr offset) (test.expr (offset + yes.size + 4))
      (no.expr (offset + yes.size + 4 + test.size + 6))

section Cond

variable {yes test no : Phrase}

/-- A conditional reaches from the start of the first branch to the end of the last one. -/
theorem bare_cond (hyes : ∀ offset, (yes.expr offset).outer = ⟨offset, offset + yes.size⟩)
    (hno : ∀ offset, (no.expr offset).outer = ⟨offset, offset + no.size⟩) :
    (cond yes test no).Bare := by
  intro offset
  have hsize : (cond yes test no).size = yes.size + 4 + test.size + 6 + no.size := by
    simp only [size, text, cond, Piece.text_append, byteLength_append, ← Nat.add_assoc]
    rfl
  rw [hsize]
  simp only [← Nat.add_assoc]
  simp [cond, Expr.mkCond, Expr.place, hyes, hno]

/-- **A conditional.** The first branch and the test are of the level of `or`, and a conditional in the
last branch needs no parentheses. -/
theorem reads_cond (hyes : yes.Reads orLevel) (htest : test.Reads orLevel) (hno : no.Reads condLevel) :
    (cond yes test no).Reads condLevel where
  legible := fun rest hrest => by
    -- every part but the last stands in front of a space
    refine legible_append.mpr ⟨hyes.legible _ (closed_of_mem (by decide) _), ?_⟩
    refine legible_append.mpr ⟨⟨stands_keyword _ (closed_of_mem (by decide) _), trivial⟩, ?_⟩
    refine legible_append.mpr ⟨htest.legible _ (closed_of_mem (by decide) _), ?_⟩
    refine legible_append.mpr ⟨⟨stands_keyword _ (closed_of_mem (by decide) _), trivial⟩, ?_⟩
    exact hno.legible rest hrest
  present := fun _ => rfl
  outer := (bare_cond hyes.outer hno.outer).outer
  leads := fun offset => by
    rw [cond, lexemes_append, lexemes_append, lexemes_append, lexemes_append]
    exact operand_cond (hyes.operand offset) (htest.operand _) (hno.operand _) _ _ _ _

end Cond

/-! ### The characters of a phrase -/

section Text

variable (p q r : Phrase) (ps : List Phrase)

@[simp] theorem text_atom (token : Token) (spelling : List Char) (node : Place → Expr) :
    (atom token spelling node).text = spelling := by
  simp [text, atom, Piece.chars]

@[simp] theorem text_paren : p.paren.text = '(' :: (p.text ++ [')']) := by
  simp [text, paren, mark, Piece.chars, Symbol.chars]

@[simp] theorem text_attr (n : String) : (p.attr n).text = p.text ++ '.' :: n.toList := by
  simp [text, attr, mark, name, Piece.chars, Symbol.chars]

/-- Items stand with a comma and a space between them. -/
theorem text_items : Piece.text (items ps) = [',', ' '].intercalate (ps.map text) := by
  induction ps with
  | nil => rfl
  | cons p ps ih =>
    cases ps with
    | nil => simp [items, text, List.intercalate]
    | cons q ps =>
      rw [items, Piece.text_append, Piece.text_cons, Piece.text_cons, ih]
      simp [List.intercalate, text, mark, Piece.chars, Symbol.chars]

@[simp] theorem text_list :
    (list ps).text = '[' :: ([',', ' '].intercalate (ps.map text) ++ [']']) := by
  rw [← text_items]
  simp [text, list, mark, Piece.chars, Symbol.chars]

@[simp] theorem text_set : (set ps).text =
    '\x7b' :: ((if ps.isEmpty then ['/'] else [',', ' '].intercalate (ps.map text)) ++
      ['\x7d']) := by
  rw [← text_items]
  cases ps <;> simp [text, set, setItems, mark, Piece.chars, Symbol.chars]

@[simp] theorem text_call :
    (p.call ps).text = p.text ++ '(' :: ([',', ' '].intercalate (ps.map text) ++ [')']) := by
  rw [← text_items]
  simp [text, call, mark, Piece.chars, Symbol.chars]

@[simp] theorem text_item : (p.item q).text = p.text ++ '[' :: (q.text ++ [']']) := by
  simp [text, item, mark, Piece.chars, Symbol.chars]

@[simp] theorem text_slice (low high : Option Phrase) : (p.slice low high).text =
    p.text ++ '[' :: (Piece.text (boundPieces low) ++
      ':' :: (Piece.text (boundPieces high) ++ [']'])) := by
  simp [text, slice, mark, Piece.chars, Symbol.chars]

@[simp] theorem text_binary (op : BinaryOp) :
    (binary op p q).text = p.text ++ ' ' :: (op.text.toList ++ ' ' :: q.text) := by
  simp [text, binary, Piece.chars, text_operator]

@[simp] theorem text_unary (op : UnaryOp) : (unary op p).text = op.text.toList ++ p.text := by
  simp [text, unary, text_prefixed]

@[simp] theorem text_cond :
    (cond p q r).text = p.text ++ (" if ".toList ++ (q.text ++ (" else ".toList ++ r.text))) := by
  simp [text, cond, reserved, Piece.chars, Keyword.text]

end Text

/-! ### Whole texts -/

/-- **A phrase that makes up a whole text** is parsed to its tree. -/
theorem Reads.parse {p : Phrase} {level : Nat} (h : p.Reads level) :
    Expr.parse (String.ofList p.text) = .ok (p.expr 0) := by
  -- the text is cut into the pieces, and their tokens are an operand
  rw [Expr.parse, text, Piece.scan_text (h.legible [] trivial)]
  exact Expr.ofTokens_of_operand _ ((h.operand 0).mono (Nat.zero_le level))

end Phrase
end QueryExpr
