import AsmLens.Line.Bytes
import AsmLens.Proofs.Line.Kinds
import AsmLens.Proofs.Text.Bytes

/-!
# Spans and registers in bytes

How what is read by bytes is compared with what is read by columns, for the pieces of a line and for the
registers in its data.

Results:
* `Field.ofPiece_slice`, `Field.ofHead_slice`: what is cut out by bytes is what is cut out by columns.
* `Line.reading_of_none`, `Line.reading_of_assignment`, `Line.reading_of_instruction`: what is shown of
  a line, by its content.
* `Reading.inBytes_of_isAscii`: in a line of ASCII characters, the bytes are the columns.
* `Reading.toColumns_inBytes`: in every line, the bytes lead back to the columns.
* `ofToken_eq`: the register between the bytes of two columns.
* `scanBytes_eq`: reading by bytes finds what reading by columns finds.
-/
namespace AsmLens
open Text (BlankBetween slice utf8Size)
open Unicode (isBlank)

/-!
## Spans in bytes

Reading by bytes and reading by columns meet in `inBytes`, which gives each span of a line the bytes of
its columns. What is put together from spans is put together alike from their bytes, so it is enough to
look at the pieces; and since all spans of a line run forwards and end within it, the columns are found
again from the bytes.
-/

/-- The span with the bytes of its columns. -/
def Span.inBytes (line : Text) (span : Span) : Span :=
  ⟨line.byteAt span.start, line.byteAt span.stop⟩

/-- The gaps in bytes. -/
def Gaps.inBytes (line : Text) (gaps : Gaps) : Gaps where
  beforeLabel := gaps.beforeLabel.inBytes line
  labelToInstruction := gaps.labelToInstruction.inBytes line
  instructionToData := gaps.instructionToData.inBytes line
  dataToComment := gaps.dataToComment.inBytes line

/-- The field with its span in bytes. -/
def Field.inBytes (line : Text) (field : Field) : Field :=
  { field with span := field.span.inBytes line }

/-- The reading with all its spans in bytes. -/
def Reading.inBytes (line : Text) (reading : Reading) : Reading :=
  { reading with
    part := fun p => (reading.part p).inBytes line
    gaps := reading.gaps.inBytes line }

/-! ### Fields -/

namespace Field
variable {raw : Text} {start stop : Nat}

/-- The field, if the line has it. -/
def present? (field : Field) : Option Field := if field.isAbsent then none else some field

theorem Cut.getD_present? {field : Field} (h : Cut raw start stop field) (hs : stop ≤ raw.length) :
    field.present?.getD Field.absent = field := by
  cases h with
  | absent => rfl
  | present h1 h2 h3 =>
    rw [Field.present?, isAbsent_slice h2 (Nat.le_trans h3 hs)]
    rfl

theorem inBytes_of_extract {text : Text} {first : Nat} (hl : first + text.length ≤ raw.length)
    (h : (⟨first, first + text.length⟩ : Span).extract raw = text) :
    (⟨text, ⟨first, first + text.length⟩⟩ : Field).inBytes raw =
      ⟨text, ⟨raw.byteAt first, raw.byteAt first + utf8Size text⟩⟩ := by
  have e := Text.byteAt_add_utf8Size_slice (Nat.le_add_right first text.length) hl
  rw [Span.extract] at h
  rw [h] at e
  rw [inBytes, Span.inBytes, ← e]

theorem ofPiece_slice (h : start ≤ stop) (hs : stop ≤ raw.length) :
    ofPiece (slice raw start stop) (raw.byteAt start) =
      pure ((trimmed raw start stop).inBytes raw) := by
  have hext := extract_trimmed raw start stop
  have hle := stop_trimmed_le raw start stop
  simp only [trimmed] at hext hle ⊢
  rw [ofPiece]
  split
  case isTrue => rfl
  case isFalse hne =>
    rw [if_neg hne] at hext hle
    have hind : start + Text.indentation (slice raw start stop) ≤ stop := by
      have := Text.indentation_le_length (slice raw start stop)
      rw [Text.length_slice] at this
      omega
    rw [Text.difference_trimStart, pure_bind, ← Text.byteAt_add_slice hs hind,
      inBytes_of_extract hle hext]

theorem ofHead_slice (h : start < stop) {c : Char} (hc : raw[start]? = some c)
    (hb : isBlank c = false) :
    ofHead (slice raw start stop) (raw.byteAt start) = (trimmed raw start stop).inBytes raw := by
  have hblank : ¬ BlankBetween raw start stop := fun blank => by
    have := blank.stop_le (Nat.le_refl start) hc hb
    omega
  have hindent : Text.indentation (slice raw start stop) = 0 := by
    have hc0 : (slice raw start stop)[0]? = some c := by
      rw [Text.getElem?_slice, Nat.add_zero, if_pos h, hc]
    exact (Text.indentation_eq_iff hc0 hb).mpr (Text.blankBetween_of_le _ (Nat.le_refl 0))
  have htrim : Text.trim (slice raw start stop) = Text.trimEnd (slice raw start stop) := by
    rw [Text.trim_eq_drop, hindent, List.drop_zero]
  have hne : ¬ (Text.trim (slice raw start stop)).isEmpty = true := by
    rw [List.isEmpty_iff, trim_eq_nil_iff, ← Text.blankBetween_iff_slice]
    exact hblank
  have hext := extract_trimmed raw start stop
  have hle := stop_trimmed_le raw start stop
  simp only [trimmed, if_neg hne, hindent, Nat.add_zero] at hext hle ⊢
  rw [inBytes_of_extract hle hext, ofHead, htrim]

end Field

/-! ### What is put together from fields -/

/-- What the assignment shows. -/
def Assignment.shown (a : Assignment) : Shown := ⟨a.variableName, a.operator, a.value⟩

/-- What the assignment shows, in bytes. -/
def Assignment.Shown.inBytes (line : Text) (a : Shown) : Shown :=
  ⟨a.variableName.inBytes line, a.operator.inBytes line, a.value.inBytes line⟩

theorem Reading.inBytes_bare (raw : Text) (kind : LineKind) (beforeLabel : Span) (comment : Field) :
    (bare kind beforeLabel comment).inBytes raw =
      bare kind (beforeLabel.inBytes raw) (comment.inBytes raw) := by
  rw [bare, bare, inBytes]
  congr 1
  funext p
  cases p <;> rfl

theorem Assignment.Shown.inBytes_reading (raw : Text) (a : Shown) (leading : Nat)
    (comment : Field) :
    (a.reading leading comment).inBytes raw =
      (a.inBytes raw).reading (raw.byteAt leading) (comment.inBytes raw) := by
  rw [reading, reading, Reading.inBytes]
  congr 1
  funext p
  cases p <;> rfl

theorem Instruction.inBytes_shown (raw : Text) (leading : Nat) (semicolon : Option Nat)
    (before declared : Option Field) (keyword data comment : Field) :
    (shown leading semicolon before declared keyword data comment).inBytes raw =
      shown (raw.byteAt leading) (semicolon.map raw.byteAt) (before.map (Field.inBytes raw))
        (declared.map (Field.inBytes raw)) (keyword.inBytes raw) (data.inBytes raw)
        (comment.inBytes raw) := by
  have hdata : (data.inBytes raw).isAbsent = data.isAbsent := rfl
  simp only [shown, Reading.inBytes, Gaps.inBytes, Option.isSome_map, hdata]
  congr 2
  · funext p
    cases p with
    | label => cases declared <;> cases before <;> rfl
    | _ => rfl
  · cases before <;> rfl
  · split <;> rfl
  · cases semicolon with
    | none => rfl
    | some byte => simp only [Option.map_some]; split <;> rfl

/-! ### Readings by content -/

theorem Mnemonic.stripCondition_spelling (m : Mnemonic) : stripCondition m.spelling = m.spelling := by
  cases m <;> decide

theorem Mnemonic.ofInstructionText?_spelling (m : Mnemonic) :
    ofInstructionText? m.spelling = some m := by
  rw [ofInstructionText?, stripCondition_spelling]
  exact Keyword.parse?_spelling m

namespace Line
variable {line : Line}

theorem reading_of_none (hi : line.instruction? = none) (ha : line.assignment? = none) :
    line.reading = Reading.bare line.kind line.gaps.beforeLabel line.comment := by
  rw [reading, part_of_none hi ha, gaps_of_none hi, isJump, hi]
  rfl

theorem reading_of_unrecognised (hc : line.content = .unrecognised) :
    line.reading = Reading.bare .other ⟨0, Text.indentation line.raw⟩ line.comment := by
  rw [reading_of_none (by rw [instruction?, hc]) (by rw [assignment?, hc]), kind, gaps, hc]

theorem reading_of_assignment {a : Assignment} (hc : line.content = .assignment a) :
    line.reading = a.shown.reading (Text.indentation line.raw) line.comment := by
  have hi : line.instruction? = none := by rw [instruction?, hc]
  rw [reading, part_of_assignment hc, gaps, kind, isJump, hi, hc]
  rfl

theorem reading_of_instruction {i : Instruction} (hc : line.content = .instruction i)
    (hb : i.before.present?.getD Field.absent = i.before) :
    line.reading = Instruction.shown (Text.indentation line.raw)
      (line.comment.present?.map fun comment => comment.span.start) i.before.present? i.declared
      i.keyword i.data line.comment := by
  have hi : line.instruction? = some i := by rw [instruction?, hc]
  have hjump : (Mnemonic.ofInstructionText? i.keyword.text).any Mnemonic.isJump =
      i.mnemonic.isJump := by
    rw [Instruction.keyword, Mnemonic.ofInstructionText?_spelling, Option.any_some]
  rw [reading, part_of_instruction hc, gaps_of_instruction hc, kind, isJump, hi, hc]
  simp only [Instruction.shown, hjump, hb]
  congr 2
  · rw [Field.present?]
    split <;> rfl
  · rw [Field.present?]
    split <;> rfl

end Line

/-! ### Columns again -/

namespace Span
variable {line : Text} {span : Span}

theorem inBytes_of_isAscii (h : Text.isAscii line = true) (hw : span.Within line) :
    span.inBytes line = span := by
  rw [inBytes, Text.byteAt_of_isAscii h (Nat.le_trans hw.1 hw.2), Text.byteAt_of_isAscii h hw.2]

theorem toColumns_inBytes (hw : span.Within line) : (span.inBytes line).toColumns line = pure span := by
  have hstart := Nat.le_trans hw.1 hw.2
  rw [toColumns, inBytes, if_pos ⟨Text.isBoundary_byteAt hstart, Text.isBoundary_byteAt hw.2⟩,
    ofByteRange, Text.columnOfByte_byteAt hstart, Text.columnOfByte_byteAt hw.2]

end Span

theorem Field.toColumns_inBytes {line : Text} {field : Field} (hw : field.span.Within line) :
    (field.inBytes line).toColumns line = pure field := by
  rw [toColumns, inBytes, Span.toColumns_inBytes hw, pure_bind]

/-- All spans of the reading run forwards and end within the line. -/
structure Reading.Within (line : Text) (reading : Reading) : Prop where
  part : ∀ p, (reading.part p).span.Within line
  beforeLabel : reading.gaps.beforeLabel.Within line
  labelToInstruction : reading.gaps.labelToInstruction.Within line
  instructionToData : reading.gaps.instructionToData.Within line
  dataToComment : reading.gaps.dataToComment.Within line

theorem Line.reading_within (raw : Text) (number : Nat) : (ofText raw number).reading.Within raw where
  part p := by
    by_cases hp : p = .operator
    · rw [hp]
      exact (operator_within raw number).1
    · exact (part_on raw number hp).within
  beforeLabel := beforeLabel_within raw number
  labelToInstruction := (gaps_within raw number).1
  instructionToData := (gaps_within raw number).2.1
  dataToComment := (gaps_within raw number).2.2

namespace Reading
variable {line : Text} {reading : Reading}

theorem inBytes_of_isAscii (h : Text.isAscii line = true) (hw : reading.Within line) :
    reading.inBytes line = reading := by
  have hpart : (fun p => (reading.part p).inBytes line) = reading.part := by
    funext p
    rw [Field.inBytes, Span.inBytes_of_isAscii h (hw.part p)]
  rw [inBytes, hpart, Gaps.inBytes, Span.inBytes_of_isAscii h hw.beforeLabel,
    Span.inBytes_of_isAscii h hw.labelToInstruction, Span.inBytes_of_isAscii h hw.instructionToData,
    Span.inBytes_of_isAscii h hw.dataToComment]

theorem toColumns_inBytes (hw : reading.Within line) :
    (reading.inBytes line).toColumns line = pure reading := by
  have hpart : ∀ p, ((reading.inBytes line).part p).toColumns line = pure (reading.part p) :=
    fun p => Field.toColumns_inBytes (hw.part p)
  have hbefore : (reading.inBytes line).gaps.beforeLabel.toColumns line =
      pure reading.gaps.beforeLabel := Span.toColumns_inBytes hw.beforeLabel
  have hlabel : (reading.inBytes line).gaps.labelToInstruction.toColumns line =
      pure reading.gaps.labelToInstruction := Span.toColumns_inBytes hw.labelToInstruction
  have hdata : (reading.inBytes line).gaps.instructionToData.toColumns line =
      pure reading.gaps.instructionToData := Span.toColumns_inBytes hw.instructionToData
  have hcomment : (reading.inBytes line).gaps.dataToComment.toColumns line =
      pure reading.gaps.dataToComment := Span.toColumns_inBytes hw.dataToComment
  simp only [toColumns, hpart, hbefore, hlabel, hdata, hcomment, pure_bind]
  congr 2
  funext p
  cases p <;> rfl

end Reading

end AsmLens

/-!
## Registers by bytes

The registers of operands are found by bytes too, and each is taken out of the text by its bytes. The
columns are counted in the text, and the column is added at which the text begins in the line.
-/

namespace AsmLens.Register
open Text (slice utf8Size)

theorem length_spelling_le {text : Text} {register : Register} (h : at? text = some register) :
    register.spelling.length ≤ text.length := by
  have fits := Keyword.fits_of_longest? h
  rw [Keyword.beginsAnyCase, beq_iff_eq] at fits
  have e := congrArg List.length fits
  rw [Text.asciiUpper, List.length_map, List.length_take] at e
  simp only [Keyword.spelling] at e
  omega

/-- The register that stands in a text behind `before`. -/
theorem ofToken_eq (before rest : Text) (column : Nat) {width : Nat} (h : width ≤ rest.length) :
    ofToken (before ++ rest) column
        ⟨utf8Size before, utf8Size before + utf8Size (rest.take width)⟩ =
      pure ⟨rest.take width, ⟨column + before.length, column + before.length + width⟩⟩ := by
  have hlength : before.length + width ≤ (before ++ rest).length := by
    rw [List.length_append]
    omega
  have hstart : (before ++ rest).byteAt before.length = utf8Size before := by
    rw [Text.byteAt, List.take_left]
  have hstop : (before ++ rest).byteAt (before.length + width) =
      utf8Size before + utf8Size (rest.take width) := by
    rw [Text.byteAt_add, hstart, List.drop_left, Text.byteAt]
  have htoken : Span.inBytes (before ++ rest) ⟨before.length, before.length + width⟩ =
      ⟨utf8Size before, utf8Size before + utf8Size (rest.take width)⟩ := by
    rw [Span.inBytes, hstart, hstop]
  have hpiece : slice (before ++ rest) before.length (before.length + width) = rest.take width := by
    rw [slice, List.drop_take, List.drop_left, Nat.add_sub_cancel_left]
  have within : Span.Within (before ++ rest) ⟨before.length, before.length + width⟩ :=
    ⟨Nat.le_add_right _ _, hlength⟩
  rw [← htoken, ofToken, Span.toColumns_inBytes within, pure_bind, Span.inBytes,
    Text.bytes_byteAt within.1 within.2, pure_bind, hpiece, Span.shift, Nat.add_comm column,
    Nat.add_right_comm]

theorem tokensFrom_eq (column skip : Nat) (before rest : Text) :
    (tokensFrom (utf8Size before) skip rest).mapM (ofToken (before ++ rest) column) =
      pure (scanFrom (column + before.length) skip rest) := by
  induction rest generalizing skip before with
  | nil => rfl
  | cons c rest ih =>
    have hsize : utf8Size before + c.utf8Size = utf8Size (before ++ [c]) :=
      (Text.utf8Size_append before [c]).symm
    have htext : before ++ c :: rest = before ++ [c] ++ rest := by
      rw [List.append_assoc, List.singleton_append]
    have hlength : column + before.length + 1 = column + (before ++ [c]).length := by
      rw [List.length_append, List.length_singleton, Nat.add_assoc]
    have hnext : ∀ skip, (tokensFrom (utf8Size before + c.utf8Size) skip rest).mapM
        (ofToken (before ++ c :: rest) column) =
          pure (scanFrom (column + before.length + 1) skip rest) := fun skip => by
      rw [hsize, htext, hlength]
      exact ih skip (before ++ [c])
    cases skip with
    | succ skip => exact hnext skip
    | zero =>
      simp only [tokensFrom, scanFrom]
      cases h : at? (c :: rest) with
      | none => exact hnext 0
      | some register =>
        simp only [List.mapM_cons, ofToken_eq before (c :: rest) column (length_spelling_le h),
          hnext, pure_bind]

/-- Reading by bytes finds the registers that reading by columns finds. -/
theorem scanBytes_eq (text : Text) (column : Nat) : scanBytes text column = pure (scan text column) :=
  tokensFrom_eq column 0 [] text

end AsmLens.Register
