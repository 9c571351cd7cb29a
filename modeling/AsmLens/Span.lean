import AsmLens.Text

/-!
# Spans

Where something stands in a line is told by a span, in columns. An editor asks with a column and is answered
with a span; memory knows neither, but counts in bytes. The spans come first, then the word at a column, then
the bytes and how they are converted.

* `extract?_of_le`, `extract?_eq_none_iff`: when a span has a text.
* `length_extract`: how long that text is.
* `wordAt?_isSome_iff`: there is a word exactly where the line has a word character.
* `contains_of_wordAt?`: the word includes the column that it was asked for.
* `columnOfByte_utf8Size_take`: the byte offset of a column leads back to that column.
* `isBoundary_iff`: the boundaries are the bytes of columns.
* `bytes_byteAt`: between the bytes of two columns stands what stands between the columns.
-/
namespace AsmLens

/-!
## Ranges of columns

A span is a half-open range `[start, stop)` of columns of one line. What a line does not have is
given the empty span at column 0. A span is meant to run forwards, but nothing enforces it: the
length of a reversed span does not exist, and neither does its text, unless the end of the line
cuts both of its columns down to one place.
-/

/-- A half-open range of columns. -/
structure Span where
  start : Nat
  stop : Nat
  deriving DecidableEq, Repr

namespace Span

/-- The span of what is absent (`EMPTY`). -/
def none : Span := ⟨0, 0⟩

/-- The number of columns, for a span that is not reversed (`len`). -/
def length? (span : Span) : Option Nat :=
  if span.start ≤ span.stop then some (span.stop - span.start) else Option.none

/-- Whether the span has no width (`is_empty`). -/
def isEmpty (span : Span) : Bool := span.start == span.stop

/-- Whether the column lies in the span (`contains`); an empty span contains nothing. -/
def contains (span : Span) (column : Nat) : Bool :=
  span.start ≤ column && column < span.stop

/-- The text that the span covers in a line, with columns past the end of the line clamped to it
(`extract`); nothing if the clamped span is reversed. -/
def extract? (span : Span) (line : Text) : Option Text :=
  if min span.start line.length ≤ min span.stop line.length then
    some (Text.slice line span.start span.stop)
  else Option.none

/-- The text that the span covers in a line; a reversed span covers nothing. -/
def extract (span : Span) (line : Text) : Text := Text.slice line span.start span.stop

/-- The span as many columns further to the right as `offset` says. -/
def shift (offset : Nat) (span : Span) : Span := ⟨span.start + offset, span.stop + offset⟩

/-- The span as `start..stop`. -/
def display (span : Span) : Text :=
  Nat.toDigits 10 span.start ++ ".." ++ Nat.toDigits 10 span.stop

theorem contains_iff {span : Span} {column : Nat} :
    span.contains column = true ↔ span.start ≤ column ∧ column < span.stop := by
  simp [contains]

theorem not_contains_of_isEmpty {span : Span} (h : span.isEmpty = true) (column : Nat) :
    span.contains column = false := by
  simp only [isEmpty, beq_iff_eq] at h
  simp only [contains, Bool.and_eq_false_iff, decide_eq_false_iff_not]
  omega

theorem extract?_of_le {span : Span} (h : span.start ≤ span.stop) (line : Text) :
    span.extract? line = some (span.extract line) := by
  unfold extract? extract
  rw [if_pos (by omega)]

theorem extract?_eq_none_iff {span : Span} {line : Text} :
    span.extract? line = Option.none ↔ span.stop < span.start ∧ span.stop < line.length := by
  unfold extract?
  split <;> simp <;> omega

theorem length_extract (span : Span) (line : Text) :
    (span.extract line).length = min span.stop line.length - span.start :=
  Text.length_slice line span.start span.stop

end Span
end AsmLens

/-!
## The word at a column

A word is a maximal run of letters, digits and underscores. The word at a column is the one that
includes the character there.
-/

namespace AsmLens.Span
open Unicode (isWordChar)

/-- How many word characters the text begins with. -/
def wordLength (text : Text) : Nat := (text.takeWhile isWordChar).length

/-- The span of the word that includes the character at the column (`word_span_at`). -/
def wordAt? (raw : Text) (column : Nat) : Option Span :=
  if raw[column]?.any isWordChar then
    some ⟨column - wordLength (raw.take column).reverse, column + wordLength (raw.drop column)⟩
  else Option.none

theorem wordAt?_isSome_iff {raw : Text} {column : Nat} :
    (wordAt? raw column).isSome = true ↔ ∃ c, raw[column]? = some c ∧ isWordChar c = true := by
  unfold wordAt?
  cases h : raw[column]? with
  | none => simp
  | some c => by_cases hc : isWordChar c = true <;> simp [hc]

theorem contains_of_wordAt? {raw : Text} {column : Nat} {span : Span}
    (h : wordAt? raw column = some span) : span.contains column = true := by
  unfold wordAt? at h
  cases hc : raw[column]? with
  | none => simp [hc] at h
  | some c =>
    by_cases hw : isWordChar c = true
    · simp only [hc, Option.any_some, hw, if_true, Option.some.injEq] at h
      obtain ⟨hlt, rfl⟩ := List.getElem?_eq_some_iff.mp hc
      have : 0 < wordLength (raw.drop column) := by
        rw [wordLength, List.drop_eq_getElem_cons hlt, List.takeWhile_cons_of_pos hw]
        simp
      subst h
      simp only [contains_iff]
      omega
    · simp [hc, hw] at h

end AsmLens.Span

/-!
## Byte offsets and columns

Editors and files count in bytes of UTF-8, spans in characters. Every character takes one to four
bytes, so a byte offset on a character boundary names exactly one column.
-/

namespace AsmLens

namespace Span

/-- The column of the character that begins at the byte offset, or the length of the line if the
offset is the line's end. -/
def columnOfByte : Text → Nat → Nat
  | [], _ => 0
  | c :: rest, byte =>
    if byte < c.utf8Size then 0 else columnOfByte rest (byte - c.utf8Size) + 1

/-- The span of the bytes from `first` up to but not including `last`, both of which must be character
boundaries of the line (`from_byte_range`). -/
def ofByteRange (line : Text) (first last : Nat) : Span :=
  ⟨columnOfByte line first, columnOfByte line last⟩

theorem columnOfByte_utf8Size_take (line : Text) (column : Nat) :
    columnOfByte line (Text.utf8Size (line.take column)) = min column line.length := by
  induction line generalizing column with
  | nil => simp [columnOfByte]
  | cons c rest ih =>
    cases column with
    | zero => simp [columnOfByte, Text.utf8Size, Char.utf8Size_pos]
    | succ column =>
      rw [List.take_succ_cons, Text.utf8Size, columnOfByte, if_neg (by omega),
        Nat.add_sub_cancel_left, ih, List.length_cons]
      omega

end Span

/-!
## Texts by bytes

In memory a text is the UTF-8 form of its characters. A search in it answers with the byte at which
something begins, and a piece of it is taken by two bytes. There is such a piece only if both bytes are
boundaries, that is the beginning of a character or the end of the text, and in order; and there is no
difference below zero. What asks for one stops with a fault.
-/

/-- What a computation with bytes stops with. -/
inductive Fault where
  /-- There is no piece of the text from `start` up to `stop`. -/
  | piece (start stop : Nat)
  /-- `b` is greater than `a`. -/
  | difference (a b : Nat)
  deriving DecidableEq, Repr

/-- The difference of two byte counts. -/
def difference (a b : Nat) : Except Fault Nat :=
  if b ≤ a then pure (a - b) else throw (.difference a b)

namespace Text

/-- The byte at which the column begins; the size of the text for a column past its end. -/
def byteAt (text : Text) (column : Nat) : Nat := utf8Size (text.take column)

/-- Whether a character of the text begins at the byte, or the text ends there. -/
def isBoundary (text : Text) (byte : Nat) : Bool := byteAt text (Span.columnOfByte text byte) == byte

/-- The bytes of the text from `start` up to but not including `stop`. -/
def bytes (text : Text) (start stop : Nat) : Except Fault Text :=
  if start ≤ stop ∧ isBoundary text start ∧ isBoundary text stop then
    pure (slice text (Span.columnOfByte text start) (Span.columnOfByte text stop))
  else throw (.piece start stop)

/-- The byte at which the first character that passes the test begins. -/
def findByte? (test : Char → Bool) (text : Text) : Option Nat :=
  (text.findIdx? test).map (byteAt text)

/-- The first byte, counted from `byte`, at which `target` begins outside literals; `quoted` says
whether the text begins inside one. -/
def unquotedByteFrom (target : Char) (quoted : Bool) (byte : Nat) : Text → Option Nat
  | [] => none
  | c :: rest =>
    if c = '\'' then unquotedByteFrom target (!quoted) (byte + c.utf8Size) rest
    else if c = target ∧ quoted = false then some byte
    else unquotedByteFrom target quoted (byte + c.utf8Size) rest

/-- The first byte at which `target` begins outside literals (`find_unquoted`). -/
def unquotedByte? (target : Char) (text : Text) : Option Nat := unquotedByteFrom target false 0 text

/-- Whether every character of the text takes one byte. -/
def isAscii (text : Text) : Bool := text.all fun c => c.toNat < 128

theorem utf8Size_append (a b : Text) : utf8Size (a ++ b) = utf8Size a + utf8Size b := by
  induction a with
  | nil => exact (Nat.zero_add _).symm
  | cons c rest ih => rw [List.cons_append, utf8Size, utf8Size, ih, Nat.add_assoc]

theorem byteAt_mono (text : Text) {a b : Nat} (h : a ≤ b) : byteAt text a ≤ byteAt text b := by
  obtain ⟨k, rfl⟩ := Nat.exists_eq_add_of_le h
  rw [byteAt, byteAt, List.take_add, utf8Size_append]
  exact Nat.le_add_right _ _

theorem columnOfByte_byteAt {text : Text} {column : Nat} (h : column ≤ text.length) :
    Span.columnOfByte text (byteAt text column) = column := by
  rw [byteAt, Span.columnOfByte_utf8Size_take, Nat.min_eq_left h]

theorem isBoundary_byteAt {text : Text} {column : Nat} (h : column ≤ text.length) :
    isBoundary text (byteAt text column) = true := by
  rw [isBoundary, columnOfByte_byteAt h, beq_self_eq_true]

theorem columnOfByte_le_length (text : Text) (byte : Nat) :
    Span.columnOfByte text byte ≤ text.length := by
  induction text generalizing byte with
  | nil => exact Nat.le_refl 0
  | cons c rest ih =>
    rw [Span.columnOfByte]
    split
    · exact Nat.zero_le _
    · exact Nat.succ_le_succ (ih _)

theorem isBoundary_iff {text : Text} {byte : Nat} :
    isBoundary text byte = true ↔ ∃ column, column ≤ text.length ∧ byteAt text column = byte := by
  constructor
  · intro h
    exact ⟨_, columnOfByte_le_length text byte, beq_iff_eq.mp h⟩
  · rintro ⟨column, hle, rfl⟩
    exact isBoundary_byteAt hle

theorem bytes_byteAt {text : Text} {start stop : Nat} (h : start ≤ stop)
    (hs : stop ≤ text.length) :
    bytes text (byteAt text start) (byteAt text stop) = pure (slice text start stop) := by
  have hstart := Nat.le_trans h hs
  rw [bytes, if_pos ⟨byteAt_mono text h, isBoundary_byteAt hstart, isBoundary_byteAt hs⟩,
    columnOfByte_byteAt hstart, columnOfByte_byteAt hs]

/-- A piece that ends inside a character, one that runs backwards, and one that exists. -/
example : bytes "né" 0 2 = .error (.piece 0 2) ∧ bytes "né" 3 1 = .error (.piece 3 1) ∧
    bytes "né" 1 3 = .ok "é" := ⟨rfl, rfl, rfl⟩

end Text
end AsmLens
