/-!
# Byte positions in a text

Positions in a source text are byte offsets of its UTF-8 form. A text is a list of characters here,
and an offset is counted off by the sizes of the characters in front of it; an offset inside a
character, or past the end, denotes no position.
-/

namespace QueryExpr.Text

/-- The number of bytes of the UTF-8 form. -/
def byteLength : List Char → Nat
  | [] => 0
  | c :: cs => c.utf8Size + byteLength cs

@[simp] theorem byteLength_nil : byteLength [] = 0 := rfl

@[simp] theorem byteLength_cons (c : Char) (cs : List Char) :
    byteLength (c :: cs) = c.utf8Size + byteLength cs := rfl

@[simp] theorem byteLength_append (xs ys : List Char) :
    byteLength (xs ++ ys) = byteLength xs + byteLength ys := by
  induction xs with
  | nil => simp
  | cons x xs ih => simp [ih, Nat.add_assoc]

/-- What follows the first `n` bytes. -/
def dropBytes : Nat → List Char → Option (List Char)
  | 0, cs => some cs
  | _ + 1, [] => none
  | n + 1, c :: cs => if c.utf8Size ≤ n + 1 then dropBytes (n + 1 - c.utf8Size) cs else none

/-- The first `n` bytes. -/
def takeBytes : Nat → List Char → Option (List Char)
  | 0, _ => some []
  | _ + 1, [] => none
  | n + 1, c :: cs =>
    if c.utf8Size ≤ n + 1 then (takeBytes (n + 1 - c.utf8Size) cs).map (c :: ·) else none

/-- The text between two byte offsets. -/
def slice? (cs : List Char) (start stop : Nat) : Option (List Char) :=
  if start ≤ stop then (dropBytes start cs).bind (takeBytes (stop - start)) else none

/-- A front part is dropped by its length in bytes. -/
@[simp] theorem dropBytes_append (front rest : List Char) :
    dropBytes (byteLength front) (front ++ rest) = some rest := by
  induction front with
  | nil => simp [dropBytes]
  | cons c cs ih =>
    have hpos : 0 < c.utf8Size := c.utf8Size_pos
    obtain ⟨n, hn⟩ : ∃ n, c.utf8Size + byteLength cs = n + 1 :=
      ⟨c.utf8Size + byteLength cs - 1, by omega⟩
    rw [byteLength_cons, hn, List.cons_append, dropBytes, if_pos (by omega)]
    rw [show n + 1 - c.utf8Size = byteLength cs by omega, ih]

/-- A front part is taken by its length in bytes. -/
@[simp] theorem takeBytes_append (front rest : List Char) :
    takeBytes (byteLength front) (front ++ rest) = some front := by
  induction front with
  | nil => simp [takeBytes]
  | cons c cs ih =>
    have hpos : 0 < c.utf8Size := c.utf8Size_pos
    obtain ⟨n, hn⟩ : ∃ n, c.utf8Size + byteLength cs = n + 1 :=
      ⟨c.utf8Size + byteLength cs - 1, by omega⟩
    rw [byteLength_cons, hn, List.cons_append, takeBytes, if_pos (by omega)]
    rw [show n + 1 - c.utf8Size = byteLength cs by omega, ih, Option.map_some]

/-- The middle of three parts is the slice between their byte lengths. -/
theorem slice?_append (front middle rest : List Char) :
    slice? (front ++ (middle ++ rest)) (byteLength front) (byteLength front + byteLength middle) =
      some middle := by
  simp [slice?]

end QueryExpr.Text
