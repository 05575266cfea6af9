import QueryExpr.Calendar.Reading
import QueryExpr.Calendar.Writing
import QueryExpr.Proofs.Text.Classes

/-!
# Dates read back

What is written for a date, or for a moment to the second, reads back as the same value, over the
whole range of years. A field is written with leading zeros up to its width and read with at most that
many digits, so a field that fits is read exactly up to the mark behind it (`readField?_padded`). A
year outside of 0 to 9999 carries a sign and is then read as far as its digits go (`readYear?_write`).
-/

namespace QueryExpr.Calendar

/-! ### Fields -/

theorem isAsciiDigit_of_mem_padded {width n : Nat} {c : Char} (hc : c ∈ padded width n) :
    isAsciiDigit c = true := by
  rcases List.mem_append.mp hc with hc | hc
  · rw [List.eq_of_mem_replicate hc]
    decide
  · exact Nat.isDigit_of_mem_toDigits (by decide) (by decide) hc

theorem padded_ne_nil (width n : Nat) : padded width n ≠ [] := by
  simp [padded, Nat.toDigits_ne_nil]

/-- A field that fits has exactly its width. -/
theorem length_padded {width n : Nat} (hwidth : 0 < width) (hn : n < Nat.pow 10 width) :
    (padded width n).length = width := by
  have hle := (Nat.length_toDigits_le_iff (by decide) hwidth).mpr hn
  rw [padded, List.length_append, List.length_replicate]
  omega

/-- Leading zeros do not count. -/
theorem digitsValue_padded (width n : Nat) : digitsValue (padded width n) = n := by
  show Nat.ofDigitChars 10 (padded width n) 0 = n
  rw [padded, Nat.ofDigitChars_append, Nat.ofDigitChars_replicate_zero, Nat.mul_zero,
    Nat.ofDigitChars_ten_toDigits]

/-- A field begins with a digit. -/
theorem exists_padded_eq_cons (width n : Nat) :
    ∃ c cs, padded width n = c :: cs ∧ isAsciiDigit c = true := by
  cases h : padded width n with
  | nil => exact absurd h (padded_ne_nil width n)
  | cons c cs =>
    exact ⟨c, cs, rfl, isAsciiDigit_of_mem_padded (h ▸ List.mem_cons_self)⟩

/-- Digits are read up to the given number or to what is none. -/
theorem readDigits?_append {width : Nat} {ds rest : List Char} (hne : ds ≠ [])
    (hend : (((ds ++ rest).take width).takeWhile isAsciiDigit) = ds) :
    readDigits? width (ds ++ rest) = some (digitsValue ds, rest) := by
  rw [readDigits?, hend, if_neg hne, List.drop_left]

theorem trimLeft_padded (width n : Nat) (rest : List Char) :
    Text.trimLeft (padded width n ++ rest) = padded width n ++ rest := by
  obtain ⟨c, cs, hpad, hc⟩ := exists_padded_eq_cons width n
  rw [hpad, List.cons_append, Text.trimLeft, List.dropWhile_cons_of_neg]
  simp [Text.not_isBlank_of_isAsciiDigit hc]

/-- **A field reads back**, whatever follows it. -/
theorem readField?_padded {width n : Nat} (hwidth : 0 < width) (hn : n < Nat.pow 10 width)
    (rest : List Char) : readField? width (padded width n ++ rest) = some (n, rest) := by
  have hall : ∀ c ∈ padded width n, isAsciiDigit c = true := fun _ => isAsciiDigit_of_mem_padded
  have htake : (padded width n ++ rest).take width = padded width n :=
    List.take_left' (length_padded hwidth hn)
  rw [readField?, trimLeft_padded, readDigits?_append (padded_ne_nil width n),
    digitsValue_padded]
  -- the width cuts off what follows, so it does not matter whether that begins with a digit
  rw [htake, ← List.append_nil (padded width n), List.takeWhile_append_of_pos hall]
  rfl

/-- A run of digits is read up to the mark behind it. -/
theorem readDigits?_padded_mark {width n count : Nat} {mark : Char} {rest : List Char}
    (hmark : isAsciiDigit mark = false) (hcount : (padded width n ++ mark :: rest).length ≤ count) :
    readDigits? count (padded width n ++ mark :: rest) = some (n, mark :: rest) := by
  have hall : ∀ c ∈ padded width n, isAsciiDigit c = true := fun _ => isAsciiDigit_of_mem_padded
  rw [readDigits?_append (padded_ne_nil width n), digitsValue_padded]
  rw [List.take_of_length_le hcount, List.takeWhile_append_of_pos hall, List.takeWhile_cons_of_neg,
    List.append_nil]
  simp [hmark]

/-! ### Dates -/

theorem readYear?_minus (r : List Char) :
    readYear? ('-' :: r) = (readDigits? r.length r).map fun (n, rest) => (-(n : Int), rest) := rfl

theorem readYear?_plus (r : List Char) :
    readYear? ('+' :: r) = (readDigits? r.length r).map fun (n, rest) => ((n : Int), rest) := rfl

/-- **A year reads back**, with its sign if it has one. -/
theorem readYear?_write (year : Int) (rest : List Char) :
    readYear? (writeYear year ++ '-' :: rest) = some (year, '-' :: rest) := by
  have hmark : isAsciiDigit '-' = false := by decide
  unfold writeYear
  split
  · next hneg =>
    rw [List.cons_append, readYear?_minus, readDigits?_padded_mark hmark (Nat.le_refl _),
      Option.map_some]
    simp only [Option.some.injEq, Prod.mk.injEq, and_true]
    omega
  · split
    · next hneg hle =>
      -- no sign: the first character is a digit, and there are four of them
      have hlt : year.natAbs < Nat.pow 10 4 := show year.natAbs < 10000 by omega
      have hfield := readField?_padded (by decide) hlt ('-' :: rest)
      rw [readField?, trimLeft_padded] at hfield
      obtain ⟨c, cs, hpad, hc⟩ := exists_padded_eq_cons 4 year.natAbs
      rw [readYear?, trimLeft_padded]
      split
      · next heq =>
        rw [hpad] at heq
        rw [(List.cons.inj heq).1] at hc
        cases hc
      · next heq =>
        rw [hpad] at heq
        rw [(List.cons.inj heq).1] at hc
        cases hc
      · rw [hfield, Option.map_some]
        simp only [Option.some.injEq, Prod.mk.injEq, and_true]
        omega
    · next hneg hle =>
      rw [List.cons_append, readYear?_plus, readDigits?_padded_mark hmark (Nat.le_refl _),
        Option.map_some]
      simp only [Option.some.injEq, Prod.mk.injEq, and_true]
      omega

/-- The fields of a date fit into two digits. -/
theorem Date.month_day_lt (d : Date) : d.month < Nat.pow 10 2 ∧ d.day < Nat.pow 10 2 := by
  show d.month < 100 ∧ d.day < 100
  have hvalid := d.valid
  simp only [isDate, Bool.and_eq_true, decide_eq_true_eq] at hvalid
  obtain ⟨⟨-, hday⟩, hdays⟩ := hvalid
  -- a month with days is one of the twelve
  unfold daysInMonth at hdays
  split at hdays <;> first | omega | skip
  split at hdays <;> omega

theorem Date.ofParts?_self (d : Date) : Date.ofParts? d.year d.month d.day = some d := by
  rw [Date.ofParts?, dif_pos d.valid]

/-- A date at the front of a text reads back, whatever follows it. -/
theorem readDatePart?_write (d : Date) (rest : List Char) :
    readDatePart? (d.write ++ rest) = some (d, rest) := by
  obtain ⟨hmonth, hday⟩ := d.month_day_lt
  rw [readDatePart?, Date.write, List.append_assoc, List.cons_append, List.append_assoc,
    List.cons_append, readYear?_write]
  simp only [Option.bind_eq_bind, Option.bind_some, readMark?, if_true,
    readField?_padded (by decide) hmonth, readField?_padded (by decide) hday, Date.ofParts?_self]

/-- **Dates read back.** -/
theorem readDate?_write (d : Date) : readDate? d.write = some d := by
  rw [readDate?, ← List.append_nil d.write, readDatePart?_write]

/-! ### Times and moments -/

/-- A time to the second reads back. -/
theorem readTime?_write {t : Time} (ht : t.nanos = 0) : readTime? t.write = some t := by
  have hvalid := t.valid
  have hparts : Time.ofParts? t.hour t.minute t.second 0 = some t := by
    rw [← ht, Time.ofParts?, dif_pos t.valid]
  simp only [isTime, Bool.and_eq_true, decide_eq_true_eq] at hvalid
  obtain ⟨⟨⟨hhour, hminute⟩, hsecond⟩, -⟩ := hvalid
  have hwrite : t.write = padded 2 t.hour ++ ':' :: (padded 2 t.minute ++
      ':' :: (padded 2 t.second ++ [])) := by
    simp [Time.write, ht]
  rw [readTime?, hwrite]
  have hhour' : t.hour < Nat.pow 10 2 := show t.hour < 100 by omega
  have hminute' : t.minute < Nat.pow 10 2 := show t.minute < 100 by omega
  have hsecond' : t.second < Nat.pow 10 2 := show t.second < 100 by omega
  simp only [Option.bind_eq_bind, readField?_padded (by decide) hhour',
    readField?_padded (by decide) hminute', readField?_padded (by decide) hsecond',
    Option.bind_some, readMark?, if_true, readNanos?]
  rw [timeOfFields?, if_neg (by omega), hparts]

/-- **Moments to the second read back.** -/
theorem readDateTime?_write (m : DateTime) :
    readDateTime? (m.wholeSecond.write 'T') = some m.wholeSecond := by
  have htime : readTime? m.wholeSecond.time.write = some m.wholeSecond.time := readTime?_write rfl
  rw [readDateTime?, DateTime.write, readDatePart?_write]
  simp only [Option.bind_eq_bind, Option.bind_some, readMark?, if_true, htime]

theorem DateTime.wholeSecond_wholeSecond (m : DateTime) :
    m.wholeSecond.wholeSecond = m.wholeSecond := rfl

/-! ### What the texts consist of -/

/-- The characters of a written date. -/
theorem mem_write_date {d : Date} {c : Char} (hc : c ∈ d.write) :
    isAsciiDigit c = true ∨ c = '-' ∨ c = '+' := by
  -- a year before 0 or after 9999 has a sign in front
  have hyear : ∀ c ∈ writeYear d.year, isAsciiDigit c = true ∨ c = '-' ∨ c = '+' := by
    intro c hc
    unfold writeYear at hc
    split at hc
    · rcases List.mem_cons.mp hc with rfl | hc
      · exact .inr (.inl rfl)
      · exact .inl (isAsciiDigit_of_mem_padded hc)
    · split at hc
      · exact .inl (isAsciiDigit_of_mem_padded hc)
      · rcases List.mem_cons.mp hc with rfl | hc
        · exact .inr (.inr rfl)
        · exact .inl (isAsciiDigit_of_mem_padded hc)
  simp only [Date.write, List.append_assoc, List.cons_append, List.mem_append, List.mem_cons] at hc
  rcases hc with hc | rfl | hc | rfl | hc
  · exact hyear c hc
  · exact .inr (.inl rfl)
  · exact .inl (isAsciiDigit_of_mem_padded hc)
  · exact .inr (.inl rfl)
  · exact .inl (isAsciiDigit_of_mem_padded hc)

/-- The characters of a written time. -/
theorem mem_write_time {t : Time} {c : Char} (hc : c ∈ t.write) :
    isAsciiDigit c = true ∨ c = ':' := by
  simp only [Time.write, List.append_assoc, List.cons_append, List.mem_append, List.mem_cons] at hc
  rcases hc with hc | rfl | hc | rfl | hc
  · exact .inl (isAsciiDigit_of_mem_padded hc)
  · exact .inr rfl
  · exact .inl (isAsciiDigit_of_mem_padded hc)
  · exact .inr rfl
  · exact .inl (isAsciiDigit_of_mem_padded hc)

/-- The characters of a written moment. -/
theorem mem_write_dateTime {m : DateTime} {separator c : Char} (hc : c ∈ m.write separator) :
    isAsciiDigit c = true ∨ c = '-' ∨ c = '+' ∨ c = separator ∨ c = ':' := by
  rcases List.mem_append.mp hc with hc | hc
  · rcases mem_write_date hc with h | h | h
    · exact .inl h
    · exact .inr (.inl h)
    · exact .inr (.inr (.inl h))
  · rcases List.mem_cons.mp hc with h | hc
    · exact .inr (.inr (.inr (.inl h)))
    · rcases mem_write_time hc with h | h
      · exact .inl h
      · exact .inr (.inr (.inr (.inr h)))

end QueryExpr.Calendar
