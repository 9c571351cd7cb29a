import AsmLens.Proofs.Line.InBytes
import AsmLens.Proofs.Vocabulary

/-!
# Reading by bytes is reading by columns

The two readings of a line agree, and reading by bytes never faults. Assignments are short work; an
instruction is searched for in a piece of a piece of the line, by bytes of either.

Results:
* `exists_region`: the search region, and the mnemonic that is found in it.
* `declaredBytes_eq`: the label that a colon declares.
* `readBytes_eq`: what is shown of a line that is no assignment.
* `Assignment.ofBytes_eq`: the assignment of the code, in bytes.
* `Line.readBytes_eq`: what is shown of every line, in bytes.
* `Line.read_eq`: what is shown of every line.
-/
namespace AsmLens
open Text (BlankBetween slice bytes utf8Size firstUnquoted?)
open Unicode (isBlank)

/-!
## Instructions by bytes

The search for an instruction by bytes goes on in the code without the blanks at its ends: where the
search starts, where the quote stands that ends the region, where the mnemonic is and what precedes and
follows it are all bytes of that piece, to which the byte is added at which the piece begins in the
line. The colon alone is searched in the whole line, and its byte is taken back into the piece. That
it lies in the piece rests on what it is: a colon is no blank, so one that precedes the comment does not
stand among the blanks at the end of the code.
-/

/-- Code that is not blank, without the blanks at its ends, is the line from the indentation on. -/
theorem Text.trim_take_of_not_blank {raw : Text} {n : Nat} (hn : n ≤ raw.length)
    (h : (raw.take n).all isBlank = false) :
    ∃ last, Text.indentation raw < last ∧ last ≤ n ∧ BlankBetween raw last n ∧
      Text.trim (raw.take n) = slice raw (Text.indentation raw) last := by
  have hslice : slice raw 0 n = raw.take n := List.drop_zero
  have hblank : ¬ BlankBetween raw 0 n := by
    rw [Text.blankBetween_iff_slice, hslice, ← List.all_eq_true, h]
    exact Bool.false_ne_true
  obtain ⟨first, last, hfirst, -, hlt, e⟩ := Field.trimmed_of_not_blank hblank
  have hcut := Field.cut_trimmed (Nat.zero_le n) hn
  have htext := Field.text_trimmed raw 0 n
  rw [e] at hcut htext
  rw [hslice, Text.indentation_take h, Nat.zero_add] at hfirst
  rw [hslice] at htext
  subst hfirst
  have hpresent := Field.isAbsent_slice hlt (Nat.le_trans hcut.bounds.2 hn)
  exact ⟨last, hlt, hcut.bounds.2, hcut.blank_after hpresent, htext.symm⟩

namespace Instruction
variable {code : Text}

theorem searchByte_eq (h : Text.indentation code = 0) :
    searchByte code 0 = pure (code.byteAt (searchStart code)) := by
  rw [searchByte, searchStart, h, Text.findByte?, if_neg (not_not_intro rfl)]
  cases hfind : code.findIdx? isBlank with
  | none => rfl
  | some column =>
    have hlt := (List.findIdx?_eq_some_iff_findIdx_eq.mp hfind).1
    simp only [Option.map_some, Text.bytes_zero (Nat.le_of_lt hlt), pure_bind]
    split <;> rfl

theorem searchStart_le (code : Text) : searchStart code ≤ code.length := by
  have hindent := Text.indentation_le_length code
  rw [searchStart]
  cases hfind : code.findIdx? isBlank with
  | none => simp only; split <;> omega
  | some column =>
    have hlt := (List.findIdx?_eq_some_iff_findIdx_eq.mp hfind).1
    simp only
    split
    · exact hindent
    · split <;> omega

/-- The search starts at a byte of the code without the blanks at its ends. -/
theorem exists_searchStart {leading : Nat} (h : code.all isBlank = false)
    (hl : leading = 0 ↔ Text.indentation code = 0) :
    ∃ start, start ≤ (Text.trim code).length ∧
      searchStart (Text.trimEnd code) = Text.indentation code + start ∧
      searchByte (Text.trim code) leading = pure ((Text.trim code).byteAt start) := by
  have hindent := Text.indentation_trimEnd h
  by_cases h0 : Text.indentation code = 0
  · have htrim : Text.trim code = Text.trimEnd code := by
      rw [Text.trim_eq_drop, h0, List.drop_zero]
    rw [h0, htrim, hl.mpr h0]
    rw [h0] at hindent
    exact ⟨_, searchStart_le _, (Nat.zero_add _).symm, searchByte_eq hindent⟩
  · refine ⟨0, Nat.zero_le _, ?_, ?_⟩
    · simp only [searchStart, hindent, ne_eq, h0, not_false_eq_true, if_true, Nat.add_zero]
    · rw [searchByte, if_pos fun e => h0 (hl.mp e), Text.byteAt_zero]

theorem regionFrom_byteAt {start : Nat} (h : start ≤ code.length) :
    regionFrom code (code.byteAt start) =
      pure ((code.drop start).takeWhile fun c => c != '"' && c != '\'') := by
  have hquote : (fun c : Char => c != '"' && c != '\'') = fun c => !(c == '"' || c == '\'') := by
    funext c
    rw [Bool.not_or, bne, bne]
  rw [regionFrom, Text.bytes_rest h, pure_bind, hquote]
  exact Text.bytes_findByte? _ _

theorem searchRegion_eq {start : Nat}
    (h : searchStart (Text.trimEnd code) = Text.indentation code + start) :
    searchRegion code =
      ((Text.trim code).drop start).takeWhile fun c => c != '"' && c != '\'' := by
  rw [Text.trim_eq_drop, List.drop_drop, ← h]
  rfl

/-- The pattern finds the first mnemonic, and what it takes is the spelling. -/
theorem keywordByte?_eq (region : Text) :
    keywordByte? region = (Text.firstMatch? mnemonicAt? region).map fun (column, mnemonic) =>
      (region.byteAt column, mnemonic.spelling) := by
  rw [keywordByte?, Pattern.find?_mnemonic, Option.map_map]
  cases hfound : Text.firstMatch? mnemonicAt? region with
  | none => rfl
  | some found =>
    obtain ⟨column, m⟩ := found
    have hoccurs := (firstMatch?_mnemonicAt?_eq_some_iff.mp hfound).occurs
    have hextract : (Span.mk column (column + m.spelling.length)).extract region = m.spelling := by
      rw [Span.extract, Text.slice, List.drop_take, Nat.add_sub_cancel_left]
      exact (List.prefix_iff_eq_take.mp hoccurs).symm
    rw [Option.map_some, Option.map_some, Function.comp_apply, hextract]

/-- The region of the search by bytes, and the mnemonic that is found in it: at the byte of its column,
within the code without the blanks at its ends. -/
theorem exists_region {leading : Nat} (h : code.all isBlank = false)
    (hl : leading = 0 ↔ Text.indentation code = 0) :
    ∃ start region, searchByte (Text.trim code) leading = pure start ∧
      regionFrom (Text.trim code) start = pure region ∧
      (mnemonic? code = none → keywordByte? region = none) ∧
      ∀ column m, mnemonic? code = some (column, m) →
        ∃ found k, keywordByte? region = some (found, m.spelling) ∧
          column = Text.indentation code + k ∧ k + m.spelling.length ≤ (Text.trim code).length ∧
          start + found = (Text.trim code).byteAt k := by
  obtain ⟨start, hle, hstart, hbyte⟩ := exists_searchStart h hl
  have hregion := searchRegion_eq hstart
  refine ⟨_, searchRegion code, hbyte, hregion ▸ regionFrom_byteAt hle, ?_, ?_⟩
  · intro hnone
    rw [mnemonic?, Option.map_eq_none_iff] at hnone
    rw [keywordByte?_eq, hnone, Option.map_none]
  · intro column m hsome
    rw [mnemonic?, Option.map_eq_some_iff] at hsome
    obtain ⟨⟨offset, m'⟩, hfound, heq⟩ := hsome
    cases heq
    have fits := Keyword.fits_of_longest? (Text.firstMatch?_eq_some_iff.mp hfound).2.1
    rw [Keyword.beginsExactly, beq_iff_eq] at fits
    have hprefix : searchRegion code <+: (Text.trim code).drop start := by
      rw [hregion]
      exact List.takeWhile_prefix _
    -- the region reaches to the end of the mnemonic, and the code to the end of the region
    have hwidth : offset + m.spelling.length ≤ (searchRegion code).length := by
      have e := congrArg List.length fits
      have hpos := List.length_pos_iff.mpr (Keyword.spelling_ne_nil m)
      rw [List.length_take, List.length_drop] at e
      simp only [Keyword.spelling] at e hpos
      omega
    have hlength := hprefix.length_le
    rw [List.length_drop] at hlength
    refine ⟨_, start + offset, by rw [keywordByte?_eq, hfound, Option.map_some], ?_, by omega, ?_⟩
    · rw [hstart, Nat.add_assoc]
    · rw [Text.byteAt_add, Text.byteAt_of_isPrefix hprefix (by omega)]

variable {raw : Text} {last : Nat}

theorem all_lt_byteAt_iff {colon : Nat} (hc : colon < raw.length) :
    ((firstUnquoted? ';' raw).map raw.byteAt).all (raw.byteAt colon < ·) = true ↔
      colon < Line.codeStop raw := by
  rw [Line.codeStop]
  cases hsemicolon : firstUnquoted? ';' raw with
  | none => exact iff_of_true rfl hc
  | some column =>
    have hlt := ((Text.firstUnquoted?_eq_some_iff (by decide)).mp hsemicolon).1.lt_length
    rw [Option.map_some, Option.all_some, decide_eq_true_eq, Option.getD_some]
    exact Text.byteAt_lt_iff (Nat.le_of_lt hlt)

theorem declaredBytes_eq (hlt : Text.indentation raw < last) (hlast : last ≤ Line.codeStop raw)
    (after : BlankBetween raw last (Line.codeStop raw)) :
    declaredBytes raw (slice raw (Text.indentation raw) last) (raw.byteAt (Text.indentation raw))
        ((firstUnquoted? ';' raw).map raw.byteAt) =
      pure (((Line.declaringColon? raw (Line.codeStop raw)).map
        (Field.trimmed raw (Text.indentation raw))).map (Field.inBytes raw)) := by
  have hstop := Line.codeStop_le raw
  rw [declaredBytes, Line.declaringColon?, Text.unquotedByte?_eq]
  cases hcolon : firstUnquoted? ':' raw with
  | none => rfl
  | some colon =>
    have hunquoted := ((Text.firstUnquoted?_eq_some_iff (by decide)).mp hcolon).1
    have hlength := hunquoted.lt_length
    have hcond : (raw.byteAt (Text.indentation raw) < raw.byteAt colon ∧
        ((firstUnquoted? ';' raw).map raw.byteAt).all (raw.byteAt colon < ·) = true) ↔
          Text.indentation raw < colon ∧ colon < Line.codeStop raw := by
      rw [all_lt_byteAt_iff hlength, Text.byteAt_lt_iff (Nat.le_of_lt hlength)]
    simp only [Option.map_some, hcond]
    by_cases h : Text.indentation raw < colon ∧ colon < Line.codeStop raw
    · -- the colon is no blank, so it stands before the blanks at the end of the code
      have hle : colon < last := Nat.lt_of_not_le fun hle => by
        have := after.stop_le hle hunquoted.1 (by decide)
        omega
      obtain ⟨width, rfl⟩ := Nat.exists_eq_add_of_lt h.1
      have hfirst : raw[Text.indentation raw]? = some raw[Text.indentation raw] :=
        List.getElem?_eq_getElem _
      have hwidth : Text.indentation raw + (width + 1) ≤ last := by omega
      have hend : last ≤ raw.length := by omega
      have hpiece := Text.bytes_slice_zero hwidth hend
      have hbyte := Text.byteAt_add_slice hend hwidth
      rw [← Nat.add_assoc] at hpiece hbyte
      rw [if_pos h, hbyte, difference_add, pure_bind, hpiece, pure_bind,
        Field.ofHead_slice h.1 hfirst (Text.not_isBlank_of_indentation hfirst),
        Option.filter_some, if_pos (decide_eq_true h), Option.map_some, Option.map_some]
    · rw [if_neg h, Option.filter_some, if_neg (by rw [decide_eq_true_eq]; exact h),
        Option.map_none, Option.map_none]

/-- What precedes the mnemonic, which begins at the column. -/
theorem beforeBytes_eq {column : Nat} (hfirst : Text.indentation raw ≤ column)
    (hle : column ≤ last) (hlt : Text.indentation raw < last) (hl : last ≤ raw.length) :
    let piece := slice raw (Text.indentation raw) last
    let field := Field.trimmed raw (Text.indentation raw) column
    beforeBytes piece (raw.byteAt (Text.indentation raw))
        (piece.byteAt (column - Text.indentation raw)) =
      pure (field.present?.map (Field.inBytes raw)) := by
  intro piece field
  obtain ⟨k, rfl⟩ := Nat.exists_eq_add_of_le hfirst
  rw [beforeBytes, Nat.add_sub_cancel_left]
  rcases Nat.eq_zero_or_pos k with rfl | hpos
  · have habsent : field = Field.absent := Field.trimmed_self raw _
    rw [habsent]
    rfl
  · have hpiece : 0 < piece.byteAt k := Text.byteAt_lt_byteAt hpos (Text.le_length_slice hle hl)
    have hc := List.getElem?_eq_getElem (Nat.lt_of_lt_of_le hlt hl)
    have hletter := Text.not_isBlank_of_indentation hc
    have hcut : Field.Cut raw (Text.indentation raw) (Text.indentation raw + k) field :=
      Field.cut_trimmed hfirst (Nat.le_trans hle hl)
    have hpresent := (hcut.start_eq (by omega) (by omega) hc hletter).1
    rw [if_pos hpiece, Text.bytes_slice_zero hle hl, pure_bind, Field.present?, hpresent,
      Field.ofHead_slice (by omega) hc hletter]
    rfl

/-- The comment begins at the semicolon that ends the code. -/
theorem semicolon_eq (raw : Text) (number : Nat) :
    firstUnquoted? ';' raw =
      (Line.ofText raw number).comment.present?.map fun comment => comment.span.start := by
  have hcut := Line.cut_comment raw number
  cases hsemicolon : firstUnquoted? ';' raw with
  | none =>
    have habsent : (Line.ofText raw number).comment = Field.absent := by
      rw [Line.ofText, hsemicolon]
    rw [habsent]
    rfl
  | some column =>
    have hunquoted := ((Text.firstUnquoted?_eq_some_iff (by decide)).mp hsemicolon).1
    have hstop : Line.codeStop raw = column := by rw [Line.codeStop, hsemicolon, Option.getD_some]
    rw [hstop] at hcut
    obtain ⟨hpresent, hstart⟩ :=
      hcut.start_eq (Nat.le_refl _) hunquoted.lt_length hunquoted.1 (by decide)
    rw [Field.present?, hpresent, ← hstart]
    rfl

theorem mnemonic?_of_ofCode? {i : Instruction} (h : ofCode? code = some i) :
    mnemonic? code = some (i.column, i.mnemonic) := by
  obtain ⟨⟨column, mnemonic⟩, hm, rfl⟩ := Option.map_eq_some_iff.mp h
  exact hm

/-- The bytes of the mnemonic, counted from where the code begins. -/
theorem In.keyword_bytes {i : Instruction} {n : Nat} (pieces : i.In raw n)
    (hstop : i.span.stop ≤ last) (hl : last ≤ raw.length) :
    let piece := slice raw (Text.indentation raw) last
    let index := piece.byteAt (i.column - Text.indentation raw)
    raw.byteAt (Text.indentation raw) + index = raw.byteAt i.column ∧
      raw.byteAt i.column + utf8Size i.mnemonic.spelling = raw.byteAt i.span.stop ∧
      bytes piece (index + utf8Size i.mnemonic.spelling) (utf8Size piece) =
        pure (slice raw i.span.stop last) := by
  intro piece index
  have hle := pieces.indentation_le
  have hlt := i.lt_stop
  have hfirst : Text.indentation raw ≤ i.span.stop := by omega
  have hcolumn : raw.byteAt i.column = raw.byteAt (Text.indentation raw) + index :=
    Text.byteAt_slice hle (by omega) hl
  have hspan : raw.byteAt i.span.stop = raw.byteAt (Text.indentation raw) +
      piece.byteAt (i.span.stop - Text.indentation raw) := Text.byteAt_slice hfirst hstop hl
  have hkeyword : raw.byteAt i.column + utf8Size i.mnemonic.spelling = raw.byteAt i.span.stop := by
    rw [← pieces.written]
    exact Text.byteAt_add_utf8Size_slice (Nat.le_of_lt hlt) (by omega)
  have hbyte : index + utf8Size i.mnemonic.spelling =
      piece.byteAt (i.span.stop - Text.indentation raw) := by omega
  refine ⟨hcolumn.symm, hkeyword, ?_⟩
  rw [hbyte, Text.bytes_slice_rest (by omega) hl, Nat.add_sub_cancel' hfirst]

/-- What follows the mnemonic, whose blanks at the end are cut off already. -/
theorem dataBytes_eq {i : Instruction} {n : Nat} (h : i.data = Field.trimmed raw i.span.stop n)
    (hstop : i.span.stop ≤ last) (hlast : last ≤ n) (hn : n ≤ raw.length)
    (after : BlankBetween raw last n) :
    Field.ofPiece (slice raw i.span.stop last) (raw.byteAt i.span.stop) =
      pure (i.data.inBytes raw) := by
  have before := Text.blankBetween_of_le raw (Nat.le_refl i.span.stop)
  rw [Field.ofPiece_slice hstop (Nat.le_trans hlast hn), h,
    Field.trimmed_eq_of_blankBetween (Nat.le_refl _) hstop hlast (by omega) before after]

theorem readBytes_eq (number : Nat) (hb : (raw.take (Line.codeStop raw)).all isBlank = false)
    (ha : Assignment.ofCode? (raw.take (Line.codeStop raw)) = none) :
    readBytes raw (raw.take (Line.codeStop raw)) (raw.byteAt (Text.indentation raw))
        ((firstUnquoted? ';' raw).map raw.byteAt) ((Line.ofText raw number).comment.inBytes raw) =
      pure ((Line.ofText raw number).reading.inBytes raw) := by
  have hn := Line.codeStop_le raw
  have hraw := Line.raw_ofText raw number
  have hindent := Text.indentation_take hb
  obtain ⟨last, hlt, hlast, after, htrim⟩ := Text.trim_take_of_not_blank hn hb
  have hend : last ≤ raw.length := Nat.le_trans hlast hn
  have hzero : raw.byteAt (Text.indentation raw) = 0 ↔
      Text.indentation (raw.take (Line.codeStop raw)) = 0 := by
    rw [hindent]
    exact Text.byteAt_eq_zero_iff (by omega)
  obtain ⟨start, region, hstart, hregion, hnone, hsome⟩ := exists_region hb hzero
  rw [htrim] at hstart hregion
  rw [htrim, hindent] at hsome
  rw [readBytes, htrim]
  simp only [hstart, pure_bind, hregion]
  cases hi : ofCode? (raw.take (Line.codeStop raw)) with
  | none =>
    have hcontent : (Line.ofText raw number).content = .unrecognised := by
      rw [Line.ofText_eq]
      simp only [Line.contentOf, hb, ha, hi, Bool.false_eq_true, if_false]
    have hm : mnemonic? (raw.take (Line.codeStop raw)) = none := Option.map_eq_none_iff.mp hi
    rw [hnone hm, Line.reading_of_unrecognised hcontent, hraw, Reading.inBytes_bare]
    rfl
  | some i =>
    have hcontent : (Line.ofText raw number).content = .instruction i := by
      rw [Line.ofText_eq]
      simp only [Line.contentOf, hb, ha, hi, Bool.false_eq_true, if_false]
    have pieces := in_of_ofCode? hn hi
    obtain ⟨hbefore, hdata, -⟩ := fields_of_ofCode? hi
    obtain ⟨found, k, hfound, hcolumn, hwidth, hindex⟩ := hsome _ _ (mnemonic?_of_ofCode? hi)
    rw [Text.length_slice, Nat.min_eq_left hend] at hwidth
    have hstop : i.span.stop ≤ last := by
      rw [span]
      simp only
      omega
    have hk : k = i.column - Text.indentation raw := by omega
    rw [hindent, Field.trimmed_take raw (by omega)] at hbefore
    rw [List.length_take_of_le hn, Field.trimmed_take raw (Nat.le_refl _)] at hdata
    have hlt' := i.lt_stop
    obtain ⟨hcolumn, hkeyword, hrest⟩ := pieces.keyword_bytes hstop hend
    have hpiece := dataBytes_eq hdata hstop hlast hn after
    have hbefore' := beforeBytes_eq pieces.indentation_le (by omega) hlt hend
    have hdeclared := declaredBytes_eq hlt hlast after
    have hreading := Line.reading_of_instruction hcontent (pieces.before.getD_present? (by omega))
    rw [← hbefore] at hbefore'
    rw [← pieces.declared] at hdeclared
    rw [hreading, inBytes_shown, ← semicolon_eq]
    simp only [hfound, hindex, hk, hrest, pure_bind, hcolumn, hkeyword, hpiece, hbefore', hdeclared,
      hraw]
    rfl

end Instruction

/-!
## Whole lines

Reading by bytes takes pieces of the line, of its code and of the code without its blanks, and it may
ask for a piece that does not exist. It never does, and what it gives is what reading by columns gives:
in bytes first, and in columns when the spans are converted, or left as they are where bytes are
columns.
-/

theorem Field.inBytes_take {raw : Text} {n : Nat} {field : Field}
    (h : field.span.start ≤ field.span.stop) (hs : field.span.stop ≤ n) :
    field.inBytes (raw.take n) = field.inBytes raw := by
  rw [inBytes, inBytes, Span.inBytes, Span.inBytes, Text.byteAt_take raw hs,
    Text.byteAt_take raw (Nat.le_trans h hs)]

/-! ### Assignments -/

namespace Assignment
theorem captures?_eq (code : Text) :
    captures? code = (ofCode? code).map fun a =>
      (code.byteAt a.column, code.byteAt a.operator.span.stop,
        code.byteAt (a.operator.span.stop + Text.indentation (code.drop a.operator.span.stop))) := by
  unfold captures? ofCode?
  cases Text.firstMatch? directiveAt? code with
  | none => rfl
  | some found =>
    simp only
    split <;> rfl

/-- The value begins behind the blanks that follow the directive. -/
theorem trimmed_gapStop (code : Text) {stop : Nat} (h : stop ≤ code.length) :
    let gapStop := stop + Text.indentation (code.drop stop)
    gapStop ≤ code.length ∧
      Field.trimmed code gapStop code.length = Field.trimmed code stop code.length := by
  intro gapStop
  have hle : gapStop ≤ code.length := by
    have := Text.indentation_le_length (code.drop stop)
    rw [List.length_drop] at this
    omega
  have blank : BlankBetween code stop gapStop :=
    (Text.blankBetween_indentation (code.drop stop)).of_drop
  exact ⟨hle, (Field.trimmed_eq_of_blankBetween (Nat.le_add_right _ _) hle (Nat.le_refl _) hle blank
    (Text.blankBetween_of_le code (Nat.le_refl _))).symm⟩

theorem ofBytes_eq (code : Text) :
    ofBytes code = pure ((ofCode? code).map fun a => a.shown.inBytes code) := by
  rw [ofBytes, captures?_eq]
  cases h : ofCode? code with
  | none => rfl
  | some a =>
    obtain ⟨⟨c, hc, -⟩, hname, hvalue⟩ := fields_of_ofCode? h
    have hstop := (List.getElem?_eq_some_iff.mp hc).1
    have hlt := a.lt_stop
    have hcolumn : a.column ≤ code.length := by omega
    obtain ⟨hgap, htrimmed⟩ := trimmed_gapStop code (Nat.le_of_lt hstop)
    have written := Text.bytes_byteAt (Nat.le_of_lt hlt) (Nat.le_of_lt hstop)
    have hoperator : Text.asciiUpper (slice code a.column a.operator.span.stop) = a.operator.text :=
      asciiUpper_extract_operator h
    have hnameBytes : Field.ofPiece (code.take a.column) 0 = pure (a.variableName.inBytes code) := by
      rw [hname]
      exact Field.ofPiece_slice (Nat.zero_le a.column) hcolumn
    have hvalueBytes := Field.ofPiece_slice hgap (Nat.le_refl code.length)
    rw [slice, List.take_length, htrimmed, ← hvalue] at hvalueBytes
    simp only [Option.map_some, Text.bytes_zero hcolumn, written, Text.bytes_rest hgap, pure_bind,
      hnameBytes, hvalueBytes, hoperator]
    rfl

theorem In.inBytes_take {raw : Text} {n : Nat} {a : Assignment} (h : a.In raw n) :
    a.shown.inBytes (raw.take n) = a.shown.inBytes raw := by
  have hlt := a.lt_stop
  have hstop := h.stop_le
  have hname := h.variableName.bounds
  have hvalue := h.value.bounds
  rw [Shown.inBytes, Shown.inBytes, shown, Field.inBytes_take hname.1 (by omega),
    Field.inBytes_take (Nat.le_of_lt hlt) hstop, Field.inBytes_take hvalue.1 hvalue.2]

end Assignment

/-! ### Lines -/

namespace Line
variable {raw : Text}

theorem cutBytes_eq (raw : Text) (number : Nat) :
    cutBytes raw ((firstUnquoted? ';' raw).map raw.byteAt) =
      pure (raw.take (codeStop raw), (ofText raw number).comment.inBytes raw) := by
  have hcomment : (ofText raw number).comment = Field.trimmed raw (codeStop raw) raw.length := by
    rw [ofText_eq]
  rw [hcomment, codeStop]
  cases hsemicolon : firstUnquoted? ';' raw with
  | none =>
    rw [Option.getD_none, List.take_length, Field.trimmed_self]
    rfl
  | some column =>
    have hunquoted := ((Text.firstUnquoted?_eq_some_iff (by decide)).mp hsemicolon).1
    have hlt := hunquoted.lt_length
    have hcommentBytes := Field.ofHead_slice hlt hunquoted.1 (by decide)
    rw [slice, List.take_length] at hcommentBytes
    rw [Option.getD_some, Option.map_some, cutBytes]
    simp only [Text.bytes_zero (Nat.le_of_lt hlt), Text.bytes_rest (Nat.le_of_lt hlt), pure_bind,
      hcommentBytes]

/-- Unless it is a semicolon, the first character that is not blank is code. -/
theorem code_not_blank {c : Char} (h : raw[Text.indentation raw]? = some c) (hc : c ≠ ';') :
    (raw.take (codeStop raw)).all isBlank = false := by
  have hb := Text.not_isBlank_of_indentation h
  have hlt : Text.indentation raw < codeStop raw := by
    rw [codeStop]
    cases hsemicolon : firstUnquoted? ';' raw with
    | none => exact (List.getElem?_eq_some_iff.mp h).1
    | some column =>
      have hunquoted := ((Text.firstUnquoted?_eq_some_iff (by decide)).mp hsemicolon).1
      have hle := (Text.blankBetween_indentation raw).stop_le (Nat.zero_le _) hunquoted.1 (by decide)
      refine Nat.lt_of_le_of_ne hle ?_
      rintro rfl
      rw [hunquoted.1] at h
      exact hc (Option.some.inj h).symm
  rw [Bool.eq_false_iff]
  intro hall
  have hmem : c ∈ raw.take (codeStop raw) := by
    refine List.mem_of_getElem? (i := Text.indentation raw) ?_
    rw [List.getElem?_take_of_lt hlt, h]
  rw [List.all_eq_true.mp hall c hmem] at hb
  cases hb

theorem slice_indentation (raw : Text) :
    slice raw (Text.indentation raw) raw.length = Text.trimStart raw := by
  rw [slice, List.take_length, Text.drop_indentation]

theorem reading_of_semicolon (number : Nat) (h : raw[Text.indentation raw]? = some ';') :
    (ofText raw number).reading.inBytes raw =
      Reading.bare .comment ⟨0, raw.byteAt (Text.indentation raw)⟩
        (Field.ofHead (Text.trimStart raw) (raw.byteAt (Text.indentation raw))) := by
  have hraw := raw_ofText raw number
  have hlt := (List.getElem?_eq_some_iff.mp h).1
  have hfirst := Text.firstUnquoted?_of_indentation (by decide) h
  have hstop : codeStop raw = Text.indentation raw := by rw [codeStop, hfirst, Option.getD_some]
  have hblank : (raw.take (Text.indentation raw)).all isBlank = true := by
    have blank := Text.blankBetween_indentation raw
    rw [Text.blankBetween_iff_slice, slice, List.drop_zero] at blank
    exact List.all_eq_true.mpr blank
  have hcontent : (ofText raw number).content = .comment := by
    rw [ofText_eq, hstop, hfirst]
    simp only [contentOf, hblank, if_true, Option.isSome_some]
  have hcomment : (ofText raw number).comment =
      Field.trimmed raw (Text.indentation raw) raw.length := by
    rw [ofText_eq, hstop]
  rw [reading_of_none (by rw [instruction?, hcontent]) (by rw [assignment?, hcontent]), kind, gaps,
    hcontent, hraw, Reading.inBytes_bare, hcomment, ← slice_indentation,
    Field.ofHead_slice hlt h (by decide)]
  rfl

/-- Reading by bytes gives what reading by columns gives, in bytes. -/
theorem readBytes_eq (raw : Text) (number : Nat) :
    readBytes raw = pure ((ofText raw number).reading.inBytes raw) := by
  have hraw := raw_ofText raw number
  have hbody : Text.trimStart raw = raw.drop (Text.indentation raw) :=
    (Text.drop_indentation raw).symm
  rw [readBytes, Text.difference_trimStart, pure_bind]
  cases hc : raw[Text.indentation raw]? with
  | none =>
    have hnil : Text.trimStart raw = [] := by
      rw [hbody, List.drop_eq_nil_iff]
      exact List.getElem?_eq_none_iff.mp hc
    have hblank : raw.all isBlank = true :=
      List.all_eq_true.mpr (Text.trimStart_eq_nil_iff.mp hnil)
    rw [hnil, ofText_of_blank number hblank, reading_of_none rfl rfl, Reading.inBytes_bare]
    rfl
  | some c =>
    have hlt := (List.getElem?_eq_some_iff.mp hc).1
    have hcons : Text.trimStart raw = c :: raw.drop (Text.indentation raw + 1) := by
      rw [hbody, List.drop_eq_getElem_cons hlt, (List.getElem?_eq_some_iff.mp hc).2]
    have hempty : (Text.trimStart raw).isEmpty = false := by rw [hcons]; rfl
    have hhead : (Text.trimStart raw).head? = some c := by rw [hcons]; rfl
    simp only [hempty, hhead, Bool.false_eq_true, if_false, Option.some.injEq]
    by_cases hsemicolon : c = ';'
    · subst hsemicolon
      rw [if_pos rfl, reading_of_semicolon number hc]
    · have hb := code_not_blank hc hsemicolon
      rw [if_neg hsemicolon, Text.unquotedByte?_eq, cutBytes_eq raw number]
      simp only [pure_bind, Assignment.ofBytes_eq]
      cases ha : Assignment.ofCode? (raw.take (codeStop raw)) with
      | some a =>
        have hcontent : (ofText raw number).content = .assignment a := by
          rw [ofText_eq]
          simp only [contentOf, hb, ha, Bool.false_eq_true, if_false]
        have pieces := Assignment.in_of_ofCode? (codeStop_le raw) ha
        rw [reading_of_assignment hcontent, Assignment.Shown.inBytes_reading, hraw, Option.map_some,
          pieces.inBytes_take]
      | none => exact Instruction.readBytes_eq number hb ha

/-- Reading by bytes never asks for a piece or a difference that does not exist, and gives what
reading by columns gives. Where all characters are ASCII, the bytes are the columns as they are. -/
theorem read_eq (raw : Text) (number : Nat) : read raw = pure (ofText raw number).reading := by
  have hw := reading_within raw number
  rw [read, readBytes_eq raw number, pure_bind]
  split
  case isTrue h => rw [Reading.inBytes_of_isAscii h hw]
  case isFalse => exact Reading.toColumns_inBytes hw


end Line
end AsmLens
