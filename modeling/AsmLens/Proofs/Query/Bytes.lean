import AsmLens.Proofs.Line.Bytes
import AsmLens.Query

/-!
# Queries by bytes never fault

A query takes its columns from the spans of the line, from the open quote and from whoever asks, and
hands them on as they are. That the pieces exist all the same has three reasons. Spans run forwards, and
a column past the end of the line counts as its end. A column that is asked about is looked at first:
there is a word only at a character of the line, and a constant only inside its field. And the quote that
is open at a column precedes that column.

The code of a line is cut by positions of two searches, one of which runs over the whole line; its
colon lies in the code because it is no blank and precedes the comment.

Results:
* `Span.extractBytes_of_le`: the text of a span that runs forwards.
* `Span.wordBetween?_eq`, `Hover.atBytes?_eq`, `Document.definitionAtBytes?_eq`: each query gives what
  is read by columns.
* `Line.colon_le`: the colon, counted from where the code begins.
* `Line.never_faults`: all of them for every text, column, manual and document.
-/
namespace AsmLens
open Text (slice utf8Size)

/-! ## Spans and words -/

namespace Text

theorem slice_min (text : Text) (start stop : Nat) :
    slice text (min start text.length) (min stop text.length) = slice text start stop := by
  apply List.ext_getElem?
  intro k
  rw [getElem?_slice, getElem?_slice]
  by_cases hk : start + k < text.length
  · have h : start + k < min stop text.length ↔ start + k < stop := by omega
    have hstart : min start text.length = start := by omega
    rw [hstart]
    simp only [h]
  · have h : ¬ min start text.length + k < min stop text.length := by omega
    have hnone : text[start + k]? = none := List.getElem?_eq_none (Nat.le_of_not_lt hk)
    rw [if_neg h, hnone]
    split <;> rfl

theorem columns_of_le {text : Text} {start stop : Nat} (h : start ≤ stop)
    (hs : stop ≤ text.length) : columns text start stop = pure (slice text start stop) := by
  unfold columns
  rw [if_pos ⟨h, hs⟩]

end Text

namespace Span
open Unicode (isWordChar)

/-- A span that runs forwards has a text, on the line or past its end. -/
theorem extractBytes_of_le {span : Span} (h : span.start ≤ span.stop) (line : Text) :
    span.extractBytes line = pure (span.extract line) := by
  unfold extractBytes extract
  rw [← Text.byteAt_min line span.start, ← Text.byteAt_min line span.stop,
    Text.bytes_byteAt (by omega) (Nat.min_le_right _ _), Text.slice_min]

theorem wordLength_eq_findIdx (text : Text) :
    wordLength text = text.findIdx fun c => !isWordChar c := by
  unfold wordLength
  rw [List.takeWhile_eq_take_findIdx_not, List.length_take]
  exact Nat.min_eq_left List.findIdx_le_length

theorem wordStart_eq (before : Text) :
    wordStart before = before.length - wordLength before.reverse := by
  unfold wordStart Text.lastColumn?
  rw [wordLength_eq_findIdx]
  cases hfind : before.reverse.findIdx? fun c => !isWordChar c with
  | none =>
    rw [List.findIdx?_eq_none_iff_findIdx_eq.mp hfind, List.length_reverse, Nat.sub_self]
    rfl
  | some behind =>
    obtain ⟨hlt, heq⟩ := List.findIdx?_eq_some_iff_findIdx_eq.mp hfind
    rw [List.length_reverse] at hlt
    rw [heq, Option.map_some]
    show before.length - (behind + 1) + 1 = before.length - behind
    omega

theorem wordStop_eq {raw : Text} {column : Nat} (h : column ≤ raw.length) :
    wordStop raw column (raw.drop column) = column + wordLength (raw.drop column) := by
  unfold wordStop
  rw [wordLength_eq_findIdx]
  cases hfind : (raw.drop column).findIdx? fun c => !isWordChar c with
  | none =>
    rw [List.findIdx?_eq_none_iff_findIdx_eq.mp hfind, List.length_drop]
    show raw.length = column + (raw.length - column)
    omega
  | some first => rw [(List.findIdx?_eq_some_iff_findIdx_eq.mp hfind).2]

/-- The search for the ends of the word never leaves the line, whatever the column, and finds the word
that is counted. -/
theorem wordBetween?_eq (raw : Text) (column : Nat) :
    wordBetween? raw column = pure (wordAt? raw column) := by
  unfold wordBetween? wordAt?
  by_cases h : raw[column]?.any isWordChar = true
  · have hlt : column < raw.length := WordCharAt.lt_length h
    have hle : column ≤ raw.length := Nat.le_of_lt hlt
    have hbefore : slice raw 0 column = raw.take column := List.drop_zero
    have hafter : slice raw column raw.length = raw.drop column := by
      rw [slice, List.take_length]
    simp only [if_pos h, Text.columns_of_le (Nat.zero_le column) hle,
      Text.columns_of_le hle (Nat.le_refl _), pure_bind, hbefore, hafter, wordStart_eq,
      wordStop_eq hle, List.length_take_of_le hle]
  · rw [if_neg h, if_neg h]

end Span

/-! ## Conditions and registers -/

theorem Mnemonic.stripConditionBytes_eq (text : Text) :
    stripConditionBytes text = pure (stripCondition text) :=
  Text.bytes_findByte? (· == '.') text

theorem Line.registersBytes_eq (line : Line) : line.registersBytes = pure line.registers := by
  unfold registersBytes registers
  simp only
  split
  case isTrue h =>
    unfold Field.isAbsent at h
    rw [List.isEmpty_iff.mp h]
    rfl
  case isFalse => exact Register.scanBytes_eq _ _

/-! ## Hover text -/

namespace Hover
variable {raw : Text} {field : Span} {column : Nat}

theorem literalEndBytes_eq {opening : Nat} (h : opening + 1 ≤ field.stop) :
    literalEndBytes raw field opening = pure (literalEnd raw field opening) := by
  unfold literalEndBytes
  rw [Span.extractBytes_of_le h, pure_bind]
  rfl

theorem lt_literalEnd {opening : Nat} (h : opening + 1 ≤ field.stop) :
    opening < literalEnd raw field opening := by
  unfold literalEnd
  split <;> omega

theorem isSignedBytes_eq (raw : Text) (field word : Span) :
    isSignedBytes raw field word =
      pure (decide (field.start < word.start ∧ raw[word.start - 1]? = some '-')) := by
  unfold isSignedBytes
  by_cases h : field.start < word.start
  · obtain ⟨before, hbefore⟩ : ∃ before, word.start = 1 + before :=
      Nat.exists_eq_add_of_le (by omega)
    have hspan : (⟨before, 1 + before⟩ : Span).extractBytes raw = pure raw[before]?.toList := by
      rw [Span.extractBytes_of_le (Nat.le_add_left before 1), ← Text.slice_succ, Nat.add_comm 1]
      rfl
    rw [if_pos h, hbefore, difference_add, pure_bind, hspan, pure_bind, Nat.add_sub_cancel_left]
    rw [hbefore] at h
    cases hc : raw[before]? with
    | none => simp
    | some c => simp [h, Bool.beq_eq_decide_eq]
  · rw [if_neg h]
    simp [h]

theorem unquotedTextBytes?_eq (h : field.start ≤ field.stop) :
    unquotedTextBytes? raw field column =
      pure (if looksLiteral (field.extract raw) then some (field.extract raw)
        else (signedWordAt? raw field column).map fun span => span.extract raw) := by
  unfold unquotedTextBytes? signedWordAt?
  rw [Span.extractBytes_of_le h, pure_bind]
  split
  case isTrue => rfl
  case isFalse =>
    rw [Span.wordBetween?_eq, pure_bind]
    cases hword : Span.wordAt? raw column with
    | none => rfl
    | some word =>
      have hlt : word.start < word.stop := (Span.isWord_of_wordAt? hword).lt
      simp only [isSignedBytes_eq, pure_bind, Option.map_some, decide_eq_true_eq]
      split
      case isTrue hsigned =>
        obtain ⟨before, hbefore⟩ : ∃ before, word.start = 1 + before :=
          Nat.exists_eq_add_of_le (by omega)
        have hsign : (⟨before, word.stop⟩ : Span).start ≤ word.stop := by
          show before ≤ word.stop
          omega
        rw [hbefore, difference_add, pure_bind, Nat.add_sub_cancel_left,
          Span.extractBytes_of_le hsign, pure_bind]
      case isFalse => rw [Span.extractBytes_of_le (Nat.le_of_lt hlt), pure_bind]

/-- At a column of the field, the quote that is open opens before the field ends. -/
theorem opening_lt_stop {opening : Nat} (hc : field.contains column = true)
    (h : Text.openingQuote? raw column = some opening) : opening + 1 ≤ field.stop := by
  have hlt : opening < column := (Text.isGreatest_of_openingQuote? h).1.1
  have hstop : column < field.stop := (Span.contains_iff.mp hc).2
  omega

/-- The constant at a column of the field is taken out of the line as a piece that exists. -/
theorem constantTextBytes?_eq (hc : field.contains column = true) :
    constantTextBytes? raw field column =
      pure ((constantSpanAt? raw field column).map fun span => span.extract raw) := by
  have hle : field.start ≤ field.stop := by
    have := Span.contains_iff.mp hc
    omega
  have hunquoted : unquotedTextBytes? raw field column = _ := unquotedTextBytes?_eq hle
  unfold constantTextBytes? constantSpanAt?
  cases hopen : Text.openingQuote? raw column with
  | none =>
    simp only [hunquoted]
    split <;> rfl
  | some opening =>
    have hstop := opening_lt_stop hc hopen
    simp only
    split
    · rw [literalEndBytes_eq hstop, pure_bind,
        Span.extractBytes_of_le (Nat.le_of_lt (lt_literalEnd hstop)), pure_bind]
      rfl
    · rw [hunquoted]
      split <;> rfl

theorem constantParagraphsBytes?_eq (hc : field.contains column = true) :
    constantParagraphsBytes? raw field column = pure (constantParagraphs? raw field column) := by
  unfold constantParagraphsBytes? constantParagraphs? constantAt?
  rw [constantTextBytes?_eq hc, pure_bind]
  cases hspan : constantSpanAt? raw field column with
  | none => rfl
  | some span =>
    simp only [Option.map_some, Option.bind_eq_bind, Option.bind_some]
    cases hvalues : Constant.evaluate (span.extract raw) with
    | none => rfl
    | some values => cases values <;> rfl

/-- The mnemonic is what the manual is asked for: it has no condition. -/
theorem stripConditionBytes_instruction (line : Line) :
    Mnemonic.stripConditionBytes (line.part .instruction).text =
      pure (line.part .instruction).text := by
  rw [Mnemonic.stripConditionBytes_eq, Line.part]
  cases line.instruction? with
  | none => rfl
  | some i => exact congrArg pure (Mnemonic.stripCondition_spelling i.mnemonic)

theorem contains_instruction_iff {line : Line} :
    (¬ (line.part .instruction).isAbsent = true ∧
        (line.part .instruction).span.contains column = true) ↔
      (line.part .instruction).span.contains column = true := by
  rw [and_iff_right_iff_imp, Line.part]
  cases line.instruction? with
  | none => exact fun h => absurd h (by simp [Field.absent, Span.none, Span.contains])
  | some i => exact fun _ => Bool.eq_false_iff.mp (Instruction.keyword_isAbsent i)

/-- Hover text is put together without a fault for every line, at every column. -/
theorem atBytes?_eq (line : Line) (column : Nat) (manual : Manual) :
    atBytes? line column manual = pure (at? line column manual) := by
  unfold atBytes? at?
  simp only [contains_instruction_iff]
  split
  case isTrue => rw [stripConditionBytes_instruction, pure_bind]
  case isFalse =>
    split
    case isTrue hdata =>
      rw [Line.registersBytes_eq, pure_bind]
      unfold registerEntryAt?
      cases (line.registers.filter fun register => register.span.contains column).findSome?
          fun register => manual.register? register.text with
      | some entry => rfl
      | none => exact constantParagraphsBytes?_eq hdata
    case isFalse =>
      split
      case isTrue hvalue => exact constantParagraphsBytes?_eq hvalue
      case isFalse => rfl

end Hover

/-! ## Definitions -/

theorem Document.definitionAtBytes?_eq (document : Document) (number column : Nat) :
    document.definitionAtBytes? number column = pure (document.definitionAt? number column) := by
  unfold definitionAtBytes? definitionAt?
  cases document.line? number with
  | none => rfl
  | some line =>
    simp only [Span.wordBetween?_eq, pure_bind, Option.bind_eq_bind, Option.bind_some]
    cases hword : Span.wordAt? line.raw column with
    | none => rfl
    | some word =>
      have hlt : word.start < word.stop := (Span.isWord_of_wordAt? hword).lt
      simp only [Span.extractBytes_of_le (Nat.le_of_lt hlt), pure_bind, Option.bind_some]

/-! ## Where a line is cut -/

namespace Instruction

/-- The search for the mnemonic starts within the code. -/
theorem searchByte_le (code : Text) (leading : Nat) :
    ∃ start, searchByte code leading = pure start ∧ start ≤ utf8Size code := by
  unfold searchByte
  split
  · exact ⟨0, rfl, Nat.zero_le _⟩
  · unfold Text.findByte?
    cases hfind : code.findIdx? Unicode.isBlank with
    | none => exact ⟨0, rfl, Nat.zero_le _⟩
    | some column =>
      have hlt := (List.findIdx?_eq_some_iff_findIdx_eq.mp hfind).1
      have hle : code.byteAt column ≤ utf8Size code := by
        rw [← Text.byteAt_length]
        exact Text.byteAt_mono code (Nat.le_of_lt hlt)
      simp only [Option.map_some, Text.bytes_zero (Nat.le_of_lt hlt), pure_bind]
      split
      · exact ⟨0, rfl, Nat.zero_le _⟩
      · exact ⟨code.byteAt column, rfl, hle⟩

end Instruction

namespace Line
variable {raw : Text}

/-- A colon that precedes the comment lies in the code without the blanks at its ends, as it is none of
them. -/
theorem colon_le {colon : Nat} (h : Text.unquotedByte? ':' raw = some colon)
    (hlt : raw.byteAt (Text.indentation raw) < colon)
    (hcode : (Text.unquotedByte? ';' raw).all (colon < ·) = true) :
    ∃ width, difference colon (raw.byteAt (Text.indentation raw)) = pure width ∧
      width ≤ utf8Size (Text.trim (raw.take (codeStop raw))) := by
  rw [Text.unquotedByte?_eq] at h hcode
  obtain ⟨column, hfirst, rfl⟩ := Option.map_eq_some_iff.mp h
  have hunquoted := ((Text.firstUnquoted?_eq_some_iff (by decide)).mp hfirst).1
  have hlength := hunquoted.lt_length
  have hcolumn : Text.indentation raw < column :=
    (Text.byteAt_lt_iff (Nat.le_of_lt hlength)).mp hlt
  have hstop : column < codeStop raw := (Instruction.all_lt_byteAt_iff hlength).mp hcode
  have hb : (raw.take (codeStop raw)).all Unicode.isBlank = false := by
    rw [Bool.eq_false_iff]
    intro hall
    have hmem : ':' ∈ raw.take (codeStop raw) := by
      refine List.mem_of_getElem? (i := column) ?_
      rw [List.getElem?_take_of_lt hstop, hunquoted.1]
    exact absurd (List.all_eq_true.mp hall _ hmem) (by decide)
  obtain ⟨last, -, hlast, after, htrim⟩ := Text.trim_take_of_not_blank (codeStop_le raw) hb
  have hle : column < last := Nat.lt_of_not_le fun hle => by
    have := after.stop_le hle hunquoted.1 (by decide)
    omega
  have hend : last ≤ raw.length := Nat.le_trans hlast (codeStop_le raw)
  obtain ⟨width, rfl⟩ := Nat.exists_eq_add_of_le (Nat.le_of_lt hcolumn)
  rw [htrim, Text.byteAt_add_slice hend (Nat.le_of_lt hle), difference_add]
  refine ⟨_, rfl, ?_⟩
  rw [← Text.byteAt_length]
  exact Text.byteAt_mono _ (Text.le_length_slice (Nat.le_of_lt hle) hend)

/-- Where the code of a line, which begins at the byte `leading` without the blanks at its ends, is
cut: the search for the mnemonic starts in it, and a colon that declares a label lies in it. -/
structure CutsFit (raw code : Text) (leading : Nat) : Prop where
  search : ∃ start, Instruction.searchByte (Text.trim code) leading = pure start ∧
    start ≤ utf8Size (Text.trim code)
  colon : ∀ colon, Text.unquotedByte? ':' raw = some colon → leading < colon →
    (Text.unquotedByte? ';' raw).all (colon < ·) = true →
      ∃ width, difference colon leading = pure width ∧ width ≤ utf8Size (Text.trim code)

theorem cutsFit (raw : Text) :
    CutsFit raw (raw.take (codeStop raw)) (raw.byteAt (Text.indentation raw)) where
  search := Instruction.searchByte_le _ _
  colon _ h hlt hcode := colon_le h hlt hcode

/-- Nothing that is computed with bytes for a line and a column stops with a fault, whatever the text,
the column, the manual and the document: reading the line, its registers, the word at the column, the
hover text and the definition. The code is cut within its bounds, a quote that is open at a column of
a part opens before the part ends, and a word that begins behind the start of a field has a column
before it. -/
theorem never_faults (raw : Text) (number column : Nat) (manual : Manual) (document : Document) :
    let line := ofText raw number
    (read raw = pure line.reading ∧ line.registersBytes = pure line.registers ∧
        (∀ text, Mnemonic.stripConditionBytes text = pure (Mnemonic.stripCondition text)) ∧
        Span.wordBetween? raw column = pure (Span.wordAt? raw column) ∧
        Hover.atBytes? line column manual = pure (Hover.at? line column manual) ∧
        document.definitionAtBytes? number column = pure (document.definitionAt? number column)) ∧
      (∃ leading code comment,
        difference (utf8Size raw) (utf8Size (Text.trimStart raw)) = pure leading ∧
          cutBytes raw (Text.unquotedByte? ';' raw) = pure (code, comment) ∧
          CutsFit raw code leading) ∧
      (∀ p opening, (line.part p).span.contains column = true →
        line.openingQuote? column = some opening → opening + 1 ≤ (line.part p).span.stop) ∧
      ∀ word field : Span, Span.wordAt? raw column = some word → field.start < word.start →
        difference word.start 1 = pure (word.start - 1) := by
  intro line
  refine ⟨⟨read_eq raw number, registersBytes_eq line, Mnemonic.stripConditionBytes_eq,
    Span.wordBetween?_eq raw column, Hover.atBytes?_eq line column manual,
    document.definitionAtBytes?_eq number column⟩, ?_, ?_, ?_⟩
  · have hcut := cutBytes_eq raw number
    rw [← Text.unquotedByte?_eq] at hcut
    exact ⟨_, _, _, Text.difference_trimStart raw, hcut, cutsFit raw⟩
  · intro p opening hc hopen
    exact Hover.opening_lt_stop hc hopen
  · intro word field _ hlt
    unfold difference
    rw [if_pos (by omega)]

/-- A label, a literal in the data and a comment, none of them ASCII. -/
theorem never_faults_in_literal :
    let raw : Text := "é: MOV R1, 'ä' ; ç"
    let line := ofText raw 0
    (Text.unquotedByte? ':' raw = some 2 ∧ (line.part .data).span.contains 12 = true ∧
        line.openingQuote? 12 = some 11 ∧ Span.wordAt? raw 12 = some ⟨12, 13⟩) ∧
      read raw = pure line.reading ∧
      Hover.atBytes? line 12 Manual.empty = pure (Hover.at? line 12 Manual.empty) ∧
      11 + 1 ≤ (line.part .data).span.stop ∧ difference 12 1 = pure 11 ∧
      ∃ leading code width, difference 2 leading = pure width ∧ width ≤ utf8Size (Text.trim code) := by
  intro raw line
  obtain ⟨⟨hread, -, -, -, hhover, -⟩, ⟨leading, code, comment, hleading, -, fits⟩, h, hword⟩ :=
    never_faults raw 0 12 Manual.empty Document.empty
  have hquote : ∀ p opening, (line.part p).span.contains 12 = true →
      line.openingQuote? 12 = some opening → opening + 1 ≤ (line.part p).span.stop := h
  have hcolon : Text.unquotedByte? ':' raw = some 2 := by decide
  have hdata : (line.part .data).span.contains 12 = true := by decide
  have hopen : line.openingQuote? 12 = some 11 := by decide
  have hat : Span.wordAt? raw 12 = some ⟨12, 13⟩ := by decide
  have hstart : (line.part .data).span.start < 12 := by decide
  have hzero : leading = 0 := by
    rw [Text.difference_trimStart] at hleading
    cases hleading
    decide
  obtain ⟨width, hwidth, hle⟩ := fits.colon 2 hcolon (by omega) (by decide)
  exact ⟨⟨hcolon, hdata, hopen, hat⟩, hread, hhover, hquote .data 11 hdata hopen,
    hword ⟨12, 13⟩ (line.part .data).span hat hstart, leading, code, width, hwidth, hle⟩

end Line
end AsmLens
