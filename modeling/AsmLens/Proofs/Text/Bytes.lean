import AsmLens.Proofs.Text.Quotes
import AsmLens.Proofs.Text.Written
import AsmLens.Span

/-!
# Texts in memory

Columns count characters and bytes count the memory they take. Here is how one is had from the other, what
becomes of both when every character is replaced by one of ASCII, and why the bytes that are counted are those
of the UTF-8 form of the text.

Results:
* `asciiImage_eq_iff`, `toUpper_asciiImage_eq_iff`: a mark is the image of itself only.
* `utf8Size_toAscii`: in the image, bytes are columns.
* `trim_toAscii`, `firstUnquoted?_toAscii`, `openingQuote?_toAscii`, `firstMatch?_toAscii`: what is
  found in the image.
* `byteAt_add_slice`, `byteAt_add_utf8Size_slice`: bytes within a piece, and the size of a piece.
* `bytes_zero`, `bytes_rest`: what stands before a column and from it on.
* `byteAt_lt_iff`, `byteAt_le_iff`: one column precedes another exactly when its byte does.
* `byteAt_of_isAscii`: in a text of ASCII characters, bytes are columns.
* `unquotedByte?_eq`: the scan by bytes finds the byte of the column that the scan by columns finds.
* `size_utf8`: the size of a text is how many bytes its encoding has.
* `isBoundary_iff_isValid`: a boundary is a valid position of the encoding.
* `utf8_slice`: between the bytes of two columns stands the encoding of what is between the columns.
* `bytes_eq_pure_iff`: a piece taken by two bytes is what these bytes cut out of the encoding.
-/
namespace AsmLens.Text
open Unicode (isBlank)

/-!
## A text in ASCII

Columns count characters, so it should not matter to a column how wide the characters before it are.
The ASCII image of a text puts an ASCII character in the place of every other one, a space for a
blank and a `#` for the rest. It has the same columns, and a byte is a column in it. Whatever is read
off a text by looking for blanks and for the marks of the language (all of which are ASCII, and
neither a space nor a `#`) is read off the image alike; letters are no exception, since upper case
leaves everything beyond ASCII alone.
-/

/-- The character if it is ASCII, and otherwise a space or a `#`, as it is blank or not. -/
def asciiImage (c : Char) : Char :=
  if c.toNat < 128 then c else if isBlank c then ' ' else '#'

/-- The text with every character replaced by its ASCII image. -/
def toAscii (text : Text) : Text := text.map asciiImage

/-- The character is ASCII and stands for no other one. -/
def IsMark (a : Char) : Prop := a.toNat < 128 ∧ a ≠ ' ' ∧ a ≠ '#'

instance (a : Char) : Decidable (IsMark a) := inferInstanceAs (Decidable (_ ∧ _))

/-! ### Characters -/

section
variable {a c : Char}

theorem asciiImage_of_ascii (h : c.toNat < 128) : asciiImage c = c := if_pos h

theorem asciiImage_of_not_ascii (h : ¬ c.toNat < 128) :
    asciiImage c = ' ' ∧ isBlank c = true ∨ asciiImage c = '#' ∧ isBlank c = false := by
  rw [asciiImage, if_neg h]
  cases hb : isBlank c with
  | true => exact Or.inl ⟨if_pos rfl, rfl⟩
  | false => exact Or.inr ⟨if_neg Bool.false_ne_true, rfl⟩

theorem toNat_asciiImage_lt (c : Char) : (asciiImage c).toNat < 128 := by
  by_cases h : c.toNat < 128
  · rwa [asciiImage_of_ascii h]
  · rcases asciiImage_of_not_ascii h with ⟨e, -⟩ | ⟨e, -⟩ <;> rw [e] <;> decide

theorem isBlank_asciiImage (c : Char) : isBlank (asciiImage c) = isBlank c := by
  by_cases h : c.toNat < 128
  · rw [asciiImage_of_ascii h]
  · rcases asciiImage_of_not_ascii h with ⟨e, hb⟩ | ⟨e, hb⟩ <;> rw [e, hb] <;> decide

theorem toUpper_asciiImage_eq_iff (ha : IsMark a) : (asciiImage c).toUpper = a ↔ c.toUpper = a := by
  by_cases h : c.toNat < 128
  · rw [asciiImage_of_ascii h]
  · obtain ⟨hascii, hspace, hhash⟩ := ha
    have hne : c.toUpper ≠ a := by
      rw [toUpper_of_not_ascii h]
      rintro rfl
      exact h hascii
    refine iff_of_false ?_ hne
    rcases asciiImage_of_not_ascii h with ⟨e, -⟩ | ⟨e, -⟩
    · rw [e]; exact hspace.symm
    · rw [e]; exact hhash.symm

theorem asciiImage_eq_iff (ha : IsMark a) : asciiImage c = a ↔ c = a := by
  by_cases h : c.toNat < 128
  · rw [asciiImage_of_ascii h]
  · obtain ⟨hascii, hspace, hhash⟩ := ha
    refine iff_of_false ?_ (by rintro rfl; exact h hascii)
    rcases asciiImage_of_not_ascii h with ⟨e, -⟩ | ⟨e, -⟩
    · rw [e]; exact hspace.symm
    · rw [e]; exact hhash.symm

/-- What is ASCII in upper case is ASCII. -/
theorem ascii_of_toUpper (h : c.toUpper.toNat < 128) : c.toNat < 128 := by
  by_cases hc : c.toNat < 128
  · exact hc
  · rwa [toUpper_of_not_ascii hc] at h

end

/-! ### Pieces of a text -/

variable {text word : Text}

@[simp] theorem length_toAscii (text : Text) : (toAscii text).length = text.length :=
  List.length_map _

theorem getElem?_toAscii (text : Text) (column : Nat) :
    (toAscii text)[column]? = text[column]?.map asciiImage := List.getElem?_map

theorem take_toAscii (text : Text) (n : Nat) : (toAscii text).take n = toAscii (text.take n) :=
  List.map_take.symm

theorem drop_toAscii (text : Text) (n : Nat) : (toAscii text).drop n = toAscii (text.drop n) :=
  List.map_drop.symm

theorem slice_toAscii (text : Text) (start stop : Nat) :
    slice (toAscii text) start stop = toAscii (slice text start stop) := by
  rw [slice, take_toAscii, drop_toAscii, slice]

theorem isEmpty_toAscii (text : Text) : (toAscii text).isEmpty = text.isEmpty := by
  cases text <;> rfl

theorem mem_toAscii_iff {a : Char} (ha : IsMark a) : a ∈ toAscii text ↔ a ∈ text := by
  simp only [toAscii, List.mem_map, asciiImage_eq_iff ha, exists_eq_right]

theorem toAscii_eq_self (h : ∀ c ∈ text, c.toNat < 128) : toAscii text = text := by
  rw [toAscii, List.map_congr_left fun c hc => asciiImage_of_ascii (h c hc), List.map_id']

/-- In the image, bytes are columns. -/
theorem utf8Size_toAscii (text : Text) : utf8Size (toAscii text) = text.length := by
  induction text with
  | nil => rfl
  | cons c rest ih =>
    have hsize : (asciiImage c).utf8Size = 1 := by
      rw [Char.utf8Size_eq_one_iff, UInt32.le_iff_toNat_le]
      exact Nat.le_of_lt_succ (toNat_asciiImage_lt c)
    rw [toAscii, List.map_cons, utf8Size, hsize, ← toAscii, ih, List.length_cons, Nat.add_comm]

/-! ### Spellings -/

theorem toAscii_eq_iff (h : ∀ a ∈ word, IsMark a) : toAscii text = word ↔ text = word := by
  induction word generalizing text with
  | nil => exact List.map_eq_nil_iff
  | cons a word ih =>
    cases text with
    | nil => exact iff_of_false (List.cons_ne_nil a word).symm (List.cons_ne_nil a word).symm
    | cons c rest =>
      rw [toAscii, List.map_cons, List.cons.injEq, List.cons.injEq, ← toAscii,
        asciiImage_eq_iff (h a List.mem_cons_self),
        ih fun b hb => h b (List.mem_cons_of_mem _ hb)]

theorem asciiUpper_toAscii_eq_iff (h : ∀ a ∈ word, IsMark a) :
    asciiUpper (toAscii text) = word ↔ asciiUpper text = word := by
  induction word generalizing text with
  | nil => simp only [asciiUpper, toAscii, List.map_eq_nil_iff]
  | cons a word ih =>
    cases text with
    | nil => exact iff_of_false (List.cons_ne_nil a word).symm (List.cons_ne_nil a word).symm
    | cons c rest =>
      have hrest : asciiUpper (toAscii rest) = word ↔ asciiUpper rest = word :=
        ih fun b hb => h b (List.mem_cons_of_mem _ hb)
      simp only [asciiUpper, toAscii, List.map_cons, List.cons.injEq] at hrest ⊢
      rw [toUpper_asciiImage_eq_iff (h a List.mem_cons_self), hrest]

/-- A text that spells a word of marks in any case is its own image. -/
theorem toAscii_of_asciiUpper (h : ∀ a ∈ word, IsMark a) (e : asciiUpper text = word) :
    toAscii text = text := by
  refine toAscii_eq_self fun c hc => ascii_of_toUpper (h _ ?_).1
  rw [← e]
  exact List.mem_map_of_mem hc

/-! ### Trimming -/

theorem trimStart_toAscii (text : Text) : trimStart (toAscii text) = toAscii (trimStart text) := by
  simp only [trimStart, toAscii, List.dropWhile_map, Function.comp_def, isBlank_asciiImage]

theorem indentation_toAscii (text : Text) : indentation (toAscii text) = indentation text := by
  simp only [indentation, toAscii, List.takeWhile_map, Function.comp_def, isBlank_asciiImage,
    List.length_map]

theorem trimEnd_toAscii (text : Text) : trimEnd (toAscii text) = toAscii (trimEnd text) := by
  simp only [trimEnd, toAscii, ← List.map_reverse, List.dropWhile_map, Function.comp_def,
    isBlank_asciiImage]

theorem trim_toAscii (text : Text) : trim (toAscii text) = toAscii (trim text) := by
  rw [trim, trimStart_toAscii, trimEnd_toAscii, trim]

theorem all_isBlank_toAscii (text : Text) : (toAscii text).all isBlank = text.all isBlank := by
  simp only [toAscii, List.all_map, Function.comp_def, isBlank_asciiImage]

/-! ### Searches -/

section
variable {target : Char}

theorem unquotedFrom_toAscii (ht : IsMark target) (quoted : Bool) (column : Nat) (text : Text) :
    unquotedFrom target quoted column (toAscii text) = unquotedFrom target quoted column text := by
  induction text generalizing quoted column with
  | nil => rfl
  | cons c rest ih =>
    rw [toAscii, List.map_cons, ← toAscii]
    simp only [unquotedFrom, asciiImage_eq_iff ht, asciiImage_eq_iff (show IsMark '\'' by decide), ih]

theorem firstUnquoted?_toAscii (ht : IsMark target) (text : Text) :
    firstUnquoted? target (toAscii text) = firstUnquoted? target text :=
  unquotedFrom_toAscii ht false 0 text

end

theorem openQuoteAfter_toAscii (opening : Option Nat) (column : Nat) (text : Text) :
    openQuoteAfter opening column (toAscii text) = openQuoteAfter opening column text := by
  induction text generalizing opening column with
  | nil => rfl
  | cons c rest ih =>
    rw [toAscii, List.map_cons, ← toAscii]
    simp only [openQuoteAfter, asciiImage_eq_iff (show IsMark '\'' by decide), ih]

theorem openingQuote?_toAscii (text : Text) (column : Nat) :
    openingQuote? (toAscii text) column = openingQuote? text column := by
  rw [openingQuote?, take_toAscii, openQuoteAfter_toAscii, openingQuote?]

/-- A look-up that does not see the difference is not seen to differ in a search. -/
theorem firstMatch?_toAscii {α : Type} {look : Text → Option α}
    (h : ∀ text, look (toAscii text) = look text) (text : Text) :
    firstMatch? look (toAscii text) = firstMatch? look text := by
  have hfrom : ∀ column, firstMatchFrom look column (toAscii text) =
      firstMatchFrom look column text := by
    induction text with
    | nil => exact fun column => rfl
    | cons c rest ih =>
      intro column
      have hhere := h (c :: rest)
      rw [toAscii, List.map_cons, ← toAscii] at hhere ⊢
      rw [firstMatchFrom, firstMatchFrom, hhere, ih]
  exact hfrom 0

end AsmLens.Text

/-!
## Bytes of columns

What is done by bytes is to be compared with what is done by columns, and `byteAt` is the map between
the two. It keeps the order of columns, and it takes a column of a piece to the byte of the column in
the whole text when the byte of the piece is added.
-/

namespace AsmLens

theorem difference_add (a b : Nat) : difference (a + b) a = pure b := by
  rw [difference, if_pos (Nat.le_add_right a b), Nat.add_sub_cancel_left]

namespace Text
variable {text : Text} {a b column : Nat}

/-! ### The bytes of columns -/

theorem byteAt_zero (text : Text) : byteAt text 0 = 0 := rfl

theorem byteAt_length (text : Text) : byteAt text text.length = utf8Size text := by
  rw [byteAt, List.take_length]

/-- A column past the end has the byte of the end. -/
theorem byteAt_min (text : Text) (column : Nat) :
    byteAt text (min column text.length) = byteAt text column := by
  rw [byteAt, byteAt, ← List.take_eq_take_min]

theorem byteAt_add (text : Text) (a b : Nat) :
    byteAt text (a + b) = byteAt text a + byteAt (text.drop a) b := by
  rw [byteAt, List.take_add, utf8Size_append, byteAt, byteAt]

theorem byteAt_of_isPrefix {part : Text} (h : part <+: text) (hc : column ≤ part.length) :
    byteAt part column = byteAt text column := by
  obtain ⟨rest, rfl⟩ := h
  rw [byteAt, byteAt, List.take_append_of_le_length hc]

theorem byteAt_take (text : Text) {n : Nat} (h : column ≤ n) :
    byteAt (text.take n) column = byteAt text column := by
  rw [byteAt, byteAt, List.take_take, Nat.min_eq_left h]

theorem le_length_slice {k : Nat} (h : a + k ≤ b) (hb : b ≤ text.length) :
    k ≤ (slice text a b).length := by
  rw [length_slice]
  omega

theorem byteAt_add_slice (hb : b ≤ text.length) {k : Nat} (h : a + k ≤ b) :
    byteAt text (a + k) = byteAt text a + byteAt (slice text a b) k := by
  have hprefix : slice text a b <+: text.drop a := drop_prefix_drop (List.take_prefix b text) a
  rw [byteAt_add, byteAt_of_isPrefix hprefix (le_length_slice h hb)]

theorem byteAt_slice (ha : a ≤ column) (hb : column ≤ b) (hl : b ≤ text.length) :
    byteAt text column = byteAt text a + byteAt (slice text a b) (column - a) := by
  rw [← byteAt_add_slice hl (by omega), Nat.add_sub_cancel' ha]

theorem byteAt_add_utf8Size_slice (h : a ≤ b) (hb : b ≤ text.length) :
    byteAt text a + utf8Size (slice text a b) = byteAt text b := by
  have hlength : (slice text a b).length = b - a := by rw [length_slice, Nat.min_eq_left hb]
  have e := byteAt_add_slice (a := a) hb (show a + (b - a) ≤ b by omega)
  rw [Nat.add_sub_cancel' h] at e
  rw [e, ← byteAt_length, hlength]

theorem byteAt_lt_byteAt (h : a < b) (hb : b ≤ text.length) : byteAt text a < byteAt text b := by
  obtain ⟨k, rfl⟩ := Nat.exists_eq_add_of_lt h
  have ha : a < text.length := by omega
  rw [Nat.add_assoc, byteAt_add, List.drop_eq_getElem_cons ha, byteAt, byteAt,
    List.take_succ_cons, utf8Size]
  have := Char.utf8Size_pos text[a]
  omega

theorem byteAt_lt_iff (hb : b ≤ text.length) :
    byteAt text a < byteAt text b ↔ a < b :=
  ⟨fun h => Nat.lt_of_not_le fun hle => Nat.not_lt.mpr (byteAt_mono text hle) h,
    fun h => byteAt_lt_byteAt h hb⟩

theorem byteAt_le_iff (ha : a ≤ text.length) : byteAt text a ≤ byteAt text b ↔ a ≤ b :=
  ⟨fun h => Nat.le_of_not_lt fun hlt => Nat.not_lt.mpr h (byteAt_lt_byteAt hlt ha), byteAt_mono text⟩

theorem byteAt_eq_zero_iff (ha : a ≤ text.length) : byteAt text a = 0 ↔ a = 0 := by
  have := byteAt_lt_iff (a := 0) ha
  rw [byteAt_zero] at this
  omega

/-- The blanks at the beginning are what trimming takes away. -/
theorem difference_trimStart (text : Text) :
    difference (utf8Size text) (utf8Size (trimStart text)) = pure (byteAt text (indentation text)) := by
  have h : utf8Size text = utf8Size (trimStart text) + byteAt text (indentation text) := by
    rw [← drop_indentation, byteAt, Nat.add_comm, ← utf8Size_append, List.take_append_drop]
  rw [h, difference_add]

/-- In a text of ASCII characters, bytes are columns. -/
theorem byteAt_of_isAscii (h : isAscii text = true) (hc : column ≤ text.length) :
    byteAt text column = column := by
  have hascii : ∀ c ∈ text.take column, c.toNat < 128 := fun c hc =>
    of_decide_eq_true (List.all_eq_true.mp h c (List.mem_of_mem_take hc))
  rw [byteAt, ← toAscii_eq_self hascii, utf8Size_toAscii, List.length_take_of_le hc]

theorem isAscii_toAscii (text : Text) : isAscii (toAscii text) = true := by
  rw [isAscii, List.all_eq_true]
  intro c hc
  obtain ⟨d, -, rfl⟩ := List.mem_map.mp hc
  exact decide_eq_true (toNat_asciiImage_lt d)

/-! ### Pieces -/

theorem bytes_zero (h : column ≤ text.length) :
    bytes text 0 (byteAt text column) = pure (text.take column) :=
  bytes_byteAt (Nat.zero_le column) h

theorem bytes_rest (h : column ≤ text.length) :
    bytes text (byteAt text column) (utf8Size text) = pure (text.drop column) := by
  rw [← byteAt_length, bytes_byteAt h (Nat.le_refl _), slice, List.take_length]

section
variable {k : Nat}

theorem bytes_slice_zero (hk : a + k ≤ b) (hl : b ≤ text.length) :
    bytes (slice text a b) 0 (byteAt (slice text a b) k) = pure (slice text a (a + k)) := by
  rw [bytes_zero (le_length_slice hk hl), slice, slice, List.take_drop, List.take_take,
    Nat.min_eq_left hk]

theorem bytes_slice_rest (hk : a + k ≤ b) (hl : b ≤ text.length) :
    bytes (slice text a b) (byteAt (slice text a b) k) (utf8Size (slice text a b)) =
      pure (slice text (a + k) b) := by
  rw [bytes_rest (le_length_slice hk hl), slice, slice, List.drop_drop]

end

/-! ### Searches -/

/-- What stands before the first character that passes the test, or all of the text. -/
theorem bytes_findByte? (test : Char → Bool) (text : Text) :
    (match findByte? test text with
      | some byte => bytes text 0 byte
      | none => pure text) = pure (text.takeWhile fun c => !test c) := by
  unfold findByte?
  rw [List.takeWhile_eq_take_findIdx_not]
  simp only [Bool.not_not]
  cases hfind : text.findIdx? test with
  | none =>
    rw [List.findIdx?_eq_none_iff_findIdx_eq.mp hfind, List.take_length]
    rfl
  | some column =>
    obtain ⟨hlt, heq⟩ := List.findIdx?_eq_some_iff_findIdx_eq.mp hfind
    rw [heq]
    exact bytes_zero (Nat.le_of_lt hlt)

theorem unquotedByteFrom_eq {target : Char} (quoted : Bool) (before rest : Text) :
    unquotedByteFrom target quoted (utf8Size before) rest =
      (unquotedFrom target quoted before.length rest).map (byteAt (before ++ rest)) := by
  induction rest generalizing quoted before with
  | nil => rfl
  | cons c rest ih =>
    have hsize : utf8Size before + c.utf8Size = utf8Size (before ++ [c]) :=
      (utf8Size_append before [c]).symm
    have hlength : before.length + 1 = (before ++ [c]).length := by
      rw [List.length_append, List.length_singleton]
    have htext : before ++ c :: rest = before ++ [c] ++ rest := by
      rw [List.append_assoc, List.singleton_append]
    have hhere : byteAt (before ++ c :: rest) before.length = utf8Size before := by
      rw [byteAt, List.take_left]
    rw [unquotedByteFrom, unquotedFrom, hsize, hlength, ih, ih, ← htext]
    split
    · rfl
    · split
      · rw [Option.map_some, hhere]
      · rfl

/-- The scan by bytes finds the byte of the column that the scan by columns finds. -/
theorem unquotedByte?_eq (target : Char) (text : Text) :
    unquotedByte? target text = (firstUnquoted? target text).map (byteAt text) :=
  unquotedByteFrom_eq false [] text

end Text
end AsmLens

/-!
## The UTF-8 form of a text

The bytes of a text are counted without ever being written down: a column has the byte that the sizes of
the characters before it add up to, and a piece that is taken by two bytes is given by their columns. That
this is what UTF-8 makes of it is a fact about the encoding. The encodings of the characters stand one
behind the other, so a column is a place where the encoding can be cut, there are no other such places, and
what is cut out is the encoding of the characters between two columns.
-/

namespace AsmLens.Text
variable {text piece : Text} {start stop byte : Nat}

/-- The bytes of the text. -/
def utf8 (text : Text) : ByteArray := (String.ofList text).toUTF8

theorem utf8_append (a b : Text) : utf8 (a ++ b) = utf8 a ++ utf8 b := by
  simp only [utf8, String.ofList_append, String.toUTF8_eq_toByteArray, String.toByteArray_append]

theorem utf8_injective {a b : Text} (h : utf8 a = utf8 b) : a = b := by
  simp only [utf8, String.toUTF8_eq_toByteArray, String.toByteArray_inj] at h
  simpa using congrArg String.toList h

theorem size_utf8 (text : Text) : (utf8 text).size = utf8Size text := by
  induction text with
  | nil => rfl
  | cons c rest ih =>
    have hchar : (utf8 [c]).size = c.utf8Size := by
      simp only [utf8, String.toUTF8_eq_toByteArray, String.size_toByteArray,
        ← String.singleton_eq_ofList, String.utf8ByteSize_singleton]
    rw [utf8Size, ← List.singleton_append, utf8_append, ByteArray.size_append, hchar, ih]

/-! ### Boundaries -/

/-- A character begins at the byte, or the text ends there, exactly if the byte is a valid position of the
encoded text. -/
theorem isBoundary_iff_isValid :
    isBoundary text byte = true ↔ String.Pos.Raw.IsValid (String.ofList text) ⟨byte⟩ := by
  have hsize : ∀ i, (String.ofList (text.take i)).utf8ByteSize = byteAt text i := by
    intro i
    rw [byteAt, ← size_utf8, utf8, String.toUTF8_eq_toByteArray, String.size_toByteArray]
  rw [isBoundary_iff, String.Pos.Raw.isValid_ofList]
  simp only [hsize]
  constructor
  · intro h
    obtain ⟨column, -, rfl⟩ := h
    exact ⟨column, rfl⟩
  · intro h
    obtain ⟨column, rfl⟩ := h
    exact ⟨min column text.length, Nat.min_le_right _ _, byteAt_min text column⟩

/-- Two valid positions in order are the bytes of two columns in order. -/
theorem exists_columns (h : start ≤ stop) (hstart : String.Pos.Raw.IsValid (String.ofList text) ⟨start⟩)
    (hstop : String.Pos.Raw.IsValid (String.ofList text) ⟨stop⟩) :
    ∃ a b, a ≤ b ∧ b ≤ text.length ∧ byteAt text a = start ∧ byteAt text b = stop := by
  obtain ⟨a, ha, rfl⟩ := isBoundary_iff.mp (isBoundary_iff_isValid.mpr hstart)
  obtain ⟨b, hb, rfl⟩ := isBoundary_iff.mp (isBoundary_iff_isValid.mpr hstop)
  exact ⟨a, b, (byteAt_le_iff ha).mp h, hb, rfl, rfl⟩

/-! ### Pieces -/

theorem utf8_take (text : Text) (column : Nat) :
    utf8 (text.take column) = (utf8 text).extract 0 (byteAt text column) := by
  have h := utf8_append (text.take column) (text.drop column)
  rw [List.take_append_drop] at h
  rw [h, ByteArray.extract_append_eq_left]
  rw [size_utf8, byteAt]

theorem utf8_drop (text : Text) (column : Nat) :
    utf8 (text.drop column) = (utf8 text).extract (byteAt text column) (utf8 text).size := by
  have h := utf8_append (text.take column) (text.drop column)
  rw [List.take_append_drop] at h
  rw [h, ByteArray.extract_append_eq_right]
  · rw [size_utf8, byteAt]
  · rw [ByteArray.size_append]

/-- Between the bytes of two columns stands the encoding of what is between the columns. -/
theorem utf8_slice (h : start ≤ stop) (text : Text) :
    utf8 (slice text start stop) = (utf8 text).extract (byteAt text start) (byteAt text stop) := by
  have hsize : (utf8 (text.take stop)).size = byteAt text stop := by rw [size_utf8, byteAt]
  rw [slice, utf8_drop, byteAt_take text h, hsize, utf8_take, ByteArray.extract_extract, Nat.zero_add,
    Nat.zero_add, Nat.min_self]

/-- A piece that is taken by two bytes is what these bytes cut out of the encoded text, and there is one
exactly if both are valid positions, in order. -/
theorem bytes_eq_pure_iff :
    bytes text start stop = pure piece ↔
      start ≤ stop ∧ String.Pos.Raw.IsValid (String.ofList text) ⟨start⟩ ∧
        String.Pos.Raw.IsValid (String.ofList text) ⟨stop⟩ ∧
        utf8 piece = (utf8 text).extract start stop := by
  by_cases h : start ≤ stop ∧ String.Pos.Raw.IsValid (String.ofList text) ⟨start⟩ ∧
    String.Pos.Raw.IsValid (String.ofList text) ⟨stop⟩
  · obtain ⟨hle, hstart, hstop⟩ := h
    obtain ⟨a, b, hab, hb, rfl, rfl⟩ := exists_columns hle hstart hstop
    rw [bytes_byteAt hab hb, ← utf8_slice hab]
    constructor
    · intro e
      cases e
      exact ⟨hle, hstart, hstop, rfl⟩
    · intro hcut
      rw [utf8_injective hcut.2.2.2]
  · rw [bytes, if_neg (by rwa [isBoundary_iff_isValid, isBoundary_iff_isValid])]
    constructor
    · intro e
      cases e
    · intro hcut
      exact absurd ⟨hcut.1, hcut.2.1, hcut.2.2.1⟩ h

end AsmLens.Text
