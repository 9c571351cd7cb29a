import AsmLens.Proofs.Line.Directive
import AsmLens.Proofs.Line.Kinds

/-!
# Indentation

Whether a line is indented matters to what is found on it, since code in column 0 begins with a label.
How far it is indented does not: blanks put before an indented line move what it shows to the right, and
what it does not have stays absent. They must not hold a newline, which would end the search for a
directive.

Results:
* `Assignment.ofCode?_margin`, `Instruction.ofCode?_margin`: the same for the readers of the code.
* `ofText_margin`: reading the line behind a margin gives the line that was read, moved by its width.
* `indented_line`: what is shown of both.
-/
namespace AsmLens
open Unicode (isBlank)

/-! ## Gaps -/

/-- A gap that is there moves to the right with the line. One that is not there is the span of what is
absent, before and after. -/
structure Span.Moves (offset : Nat) (there : Prop) (before after : Span) : Prop where
  moved : there → after = before.shift offset
  absent : ¬ there → before = Span.none ∧ after = Span.none

theorem Span.moves_none (offset : Nat) {there : Prop} (h : ¬ there) :
    Span.Moves offset there Span.none Span.none :=
  ⟨fun ht => absurd ht h, fun _ => ⟨rfl, rfl⟩⟩

theorem Span.moves_ite {offset : Nat} {there : Prop} {missing : Bool} {before after : Span}
    (h : there ↔ missing = false) (e : missing = false → after = before.shift offset) :
    Span.Moves offset there (if missing then Span.none else before)
      (if missing then Span.none else after) := by
  cases missing with
  | true => exact Span.moves_none offset fun ht => absurd (h.mp ht) (by decide)
  | false => exact ⟨fun _ => e rfl, fun hn => absurd (h.mpr rfl) hn⟩

/-! ## Fields -/

namespace Field

/-- The field further to the right; what is absent stays where it is. -/
def shift (offset : Nat) (field : Field) : Field :=
  if field.isAbsent then field else ⟨field.text, field.span.shift offset⟩

@[simp] theorem shift_absent (offset : Nat) : absent.shift offset = absent := rfl

theorem shift_of_present {field : Field} (offset : Nat) (h : field.isAbsent = false) :
    field.shift offset = ⟨field.text, field.span.shift offset⟩ := by
  simp [shift, h]

@[simp] theorem text_shift (offset : Nat) (field : Field) :
    (field.shift offset).text = field.text := by
  unfold shift
  split <;> rfl

@[simp] theorem isAbsent_shift (offset : Nat) (field : Field) :
    (field.shift offset).isAbsent = field.isAbsent := by
  simp [isAbsent]

theorem trimmed_margin (margin text : Text) (start stop : Nat) :
    trimmed (margin ++ text) (start + margin.length) (stop + margin.length) =
      (trimmed text start stop).shift margin.length := by
  simp only [trimmed, Text.slice_margin]
  split
  case isTrue => rfl
  case isFalse h =>
    rw [shift_of_present _ (by simpa [isAbsent] using h)]
    simp [Span.shift]
    omega

theorem trimmed_margin_length (margin text : Text) (start : Nat) :
    trimmed (margin ++ text) (start + margin.length) (margin ++ text).length =
      (trimmed text start text.length).shift margin.length := by
  rw [← trimmed_margin, List.length_append, Nat.add_comm margin.length]

/-- What is cut from the beginning of the whole is cut from the beginning of the text. -/
theorem trimmed_margin_zero {margin : Text} (blank : ∀ c ∈ margin, isBlank c = true) (text : Text)
    (stop : Nat) :
    trimmed (margin ++ text) 0 (stop + margin.length) =
      (trimmed text 0 stop).shift margin.length := by
  have before : Text.BlankBetween (margin ++ text) 0 margin.length := by
    rw [Text.blankBetween_iff_slice, Text.slice, List.take_left]
    exact blank
  rw [trimmed_eq_of_blankBetween (Nat.zero_le _) (Nat.le_add_left _ stop) (Nat.le_refl _) (by simp)
    before (Text.blankBetween_of_le _ (Nat.le_refl _)), ← trimmed_margin, Nat.zero_add]

end Field

/-! ## Assignments -/

namespace Assignment

/-- The assignment further to the right. -/
def shift (offset : Nat) (a : Assignment) : Assignment :=
  { a with
    variableName := a.variableName.shift offset
    column := a.column + offset
    value := a.value.shift offset }

theorem operator_shift (offset : Nat) (a : Assignment) :
    (a.shift offset).operator = a.operator.shift offset := by
  rw [Field.shift_of_present offset a.operator_isAbsent]
  simp [operator, shift, Span.shift]
  omega

theorem directiveAt?_of_blank {c : Char} (h : isBlank c = true) (rest : Text) :
    directiveAt? (c :: rest) = none := by
  cases hd : directiveAt? (c :: rest) with
  | none => rfl
  | some d =>
    have hdrop : directiveAt? ((c :: rest).drop 0) = some d := hd
    obtain ⟨letter, hletter, hblank⟩ :=
      Directive.not_blank_of_occursAt (directiveAt?_eq_some_iff.mp hdrop).1
    obtain rfl : c = letter := by simpa using hletter
    rw [h] at hblank
    cases hblank

theorem ofCode?_margin {margin : Text} (blank : ∀ c ∈ margin, isBlank c = true)
    (newline : '\n' ∉ margin) (code : Text) :
    ofCode? (margin ++ code) = (ofCode? code).map (shift margin.length) := by
  unfold ofCode?
  rw [Text.firstMatch?_margin fun c hc => directiveAt?_of_blank (blank c hc)]
  cases Text.firstMatch? directiveAt? code with
  | none => rfl
  | some found =>
    obtain ⟨column, directive⟩ := found
    have hnewline : '\n' ∈ (margin ++ code).take (column + margin.length) ↔
        '\n' ∈ code.take column := by
      simp [Text.take_margin, newline]
    simp only [Option.map_some, hnewline, Field.trimmed_margin_zero blank,
      Nat.add_right_comm column margin.length, Field.trimmed_margin_length]
    split <;> rfl

end Assignment

/-! ## Instructions -/

namespace Instruction

/-- The instruction further to the right. -/
def shift (offset : Nat) (i : Instruction) : Instruction :=
  { i with
    before := i.before.shift offset
    column := i.column + offset
    data := i.data.shift offset
    declared := i.declared.map (Field.shift offset) }

@[simp] theorem before_shift (offset : Nat) (i : Instruction) :
    (i.shift offset).before = i.before.shift offset := rfl

@[simp] theorem data_shift (offset : Nat) (i : Instruction) :
    (i.shift offset).data = i.data.shift offset := rfl

@[simp] theorem column_shift (offset : Nat) (i : Instruction) :
    (i.shift offset).column = i.column + offset := rfl

@[simp] theorem span_shift (offset : Nat) (i : Instruction) :
    (i.shift offset).span = i.span.shift offset := by
  simp [span, shift, Span.shift]
  omega

theorem keyword_shift (offset : Nat) (i : Instruction) :
    (i.shift offset).keyword = i.keyword.shift offset := by
  rw [Field.shift_of_present offset i.keyword_isAbsent, keyword, span_shift]
  rfl

theorem stop_shift (offset : Nat) (i : Instruction) :
    (i.shift offset).stop = i.stop + offset := by
  unfold stop
  simp only [data_shift, Field.isAbsent_shift, span_shift]
  cases h : i.data.isAbsent with
  | true => rfl
  | false => simp [Field.shift_of_present _ h, Span.shift]

theorem label_shift (offset : Nat) (i : Instruction) :
    (i.shift offset).label = i.label.shift offset := by
  simp only [label, shift]
  cases i.declared <;> rfl

variable {margin code : Text}

/-- Indented code has no label to skip, so the search starts at its first character. -/
theorem searchStart_of_indented (h : 0 < Text.indentation code) :
    searchStart code = Text.indentation code :=
  if_pos (Nat.ne_of_gt h)

theorem searchStart_margin (blank : ∀ c ∈ margin, isBlank c = true)
    (h : 0 < Text.indentation code) :
    searchStart (margin ++ code) = margin.length + searchStart code := by
  have hindent := Text.indentation_append_of_blank (b := code) blank
  rw [searchStart_of_indented h, searchStart_of_indented (by omega), hindent]

/-- The blanks of the margin are not searched, those of the code neither. -/
theorem mnemonic?_margin (blank : ∀ c ∈ margin, isBlank c = true)
    (hcode : code.all isBlank = false) (h : 0 < Text.indentation code) :
    mnemonic? (margin ++ code) =
      (mnemonic? code).map fun found => (found.1 + margin.length, found.2) := by
  have hindented : 0 < Text.indentation (Text.trimEnd code) := by
    rw [Text.indentation_trimEnd hcode]
    exact h
  have hstart := searchStart_margin blank hindented
  have hregion : searchRegion (margin ++ code) = searchRegion code := by
    simp only [searchRegion, Text.trimEnd_margin margin hcode, hstart, List.drop_length_add_append]
  simp only [mnemonic?, Text.trimEnd_margin margin hcode, hregion, hstart, Option.map_map]
  congr 1
  funext found
  simp
  omega

theorem declared?_margin (blank : ∀ c ∈ margin, isBlank c = true) (code : Text) :
    declared? (margin ++ code) = (declared? code).map (Field.shift margin.length) := by
  have hquote : '\'' ∉ margin := Text.not_mem_of_blank blank (by decide)
  have hcolon : ':' ∉ margin := Text.not_mem_of_blank blank (by decide)
  have hindent := Text.indentation_append_of_blank (b := code) blank
  simp only [declared?, Text.firstUnquoted?_margin hquote hcolon, hindent]
  cases Text.firstUnquoted? ':' code with
  | none => rfl
  | some colon =>
    simp only [Option.map_some, Nat.add_comm margin.length, Nat.add_lt_add_iff_right,
      Field.trimmed_margin]
    split <;> rfl

theorem ofCode?_margin (blank : ∀ c ∈ margin, isBlank c = true)
    (hcode : code.all isBlank = false) (h : 0 < Text.indentation code) :
    ofCode? (margin ++ code) = (ofCode? code).map (shift margin.length) := by
  have hindent := Text.indentation_append_of_blank (b := code) blank
  rw [ofCode?, ofCode?, mnemonic?_margin blank hcode h, declared?_margin blank, hindent]
  cases mnemonic? code with
  | none => rfl
  | some found =>
    simp only [Option.map_some, shift, Nat.add_comm margin.length, Field.trimmed_margin,
      Nat.add_right_comm found.1 margin.length, Field.trimmed_margin_length]

end Instruction

/-! ## Lines -/

/-- The content further to the right. -/
def Content.shift (offset : Nat) : Content → Content
  | .assignment a => .assignment (a.shift offset)
  | .instruction i => .instruction (i.shift offset)
  | content => content

namespace Line

/-- The line behind a margin. -/
def behind (margin : Text) (line : Line) : Line where
  raw := margin ++ line.raw
  number := line.number
  content := line.content.shift margin.length
  comment := line.comment.shift margin.length

variable {margin : Text}

theorem contentOf_margin (blank : ∀ c ∈ margin, isBlank c = true) (newline : '\n' ∉ margin)
    {code : Text} (h : code.all isBlank = false → 0 < Text.indentation code) (commented : Bool) :
    contentOf (margin ++ code) commented = (contentOf code commented).shift margin.length := by
  have hall : (margin ++ code).all isBlank = code.all isBlank := by
    rw [List.all_append, List.all_eq_true.mpr blank, Bool.true_and]
  unfold contentOf
  rw [hall]
  cases hcode : code.all isBlank with
  | true => cases commented <;> rfl
  | false =>
    rw [Assignment.ofCode?_margin blank newline, Instruction.ofCode?_margin blank hcode (h hcode)]
    cases Assignment.ofCode? code with
    | some a => rfl
    | none => cases Instruction.ofCode? code <;> rfl

/-- Reading an indented line behind a margin of blanks gives the line that was read, moved. -/
theorem ofText_margin (blank : ∀ c ∈ margin, isBlank c = true) (newline : '\n' ∉ margin)
    {raw : Text} (h : 0 < Text.indentation raw) (number : Nat) :
    ofText (margin ++ raw) number = (ofText raw number).behind margin := by
  have hquote : '\'' ∉ margin := Text.not_mem_of_blank blank (by decide)
  have hsemicolon : ';' ∉ margin := Text.not_mem_of_blank blank (by decide)
  unfold ofText
  rw [Text.firstUnquoted?_margin hquote hsemicolon]
  cases Text.firstUnquoted? ';' raw with
  | none => simp [behind, contentOf_margin blank newline fun _ => h]
  | some column =>
    have hcode : (raw.take column).all isBlank = false → 0 < Text.indentation (raw.take column) :=
      fun hb => by rw [Text.indentation_take hb]; exact h
    simp only [Option.map_some, Text.take_margin, contentOf_margin blank newline hcode,
      Field.trimmed_margin_length, behind]

/-! ## What is shown behind a margin -/

section
variable (margin : Text) (line : Line)

theorem kind_behind : (line.behind margin).kind = line.kind := by
  rw [kind, kind, behind]
  cases line.content with
  | instruction i => simp [Content.shift, Instruction.shift]
  | _ => rfl

theorem isJump_behind : (line.behind margin).isJump = line.isJump := by
  rw [isJump, isJump, instruction?, instruction?, behind]
  cases line.content <;> rfl

theorem part_behind (p : Part) :
    (line.behind margin).part p = (line.part p).shift margin.length := by
  cases hc : line.content with
  | assignment a =>
    have hshift : (line.behind margin).content = .assignment (a.shift margin.length) := by
      simp [behind, hc, Content.shift]
    rw [part_of_assignment hc, part_of_assignment hshift]
    cases p with
    | operator => exact a.operator_shift margin.length
    | _ => rfl
  | instruction i =>
    have hshift : (line.behind margin).content = .instruction (i.shift margin.length) := by
      simp [behind, hc, Content.shift]
    rw [part_of_instruction hc, part_of_instruction hshift]
    cases p with
    | label => exact i.label_shift margin.length
    | instruction => exact i.keyword_shift margin.length
    | _ => rfl
  | _ => cases p <;> simp [part, instruction?, assignment?, behind, hc, Content.shift]

end

/-- A line that is not blank begins with its indentation, whatever follows. -/
theorem beforeLabel_of_not_blank {raw : Text} (number : Nat) (h : raw.all isBlank = false) :
    (ofText raw number).gaps.beforeLabel = ⟨0, Text.indentation raw⟩ := by
  have hraw := raw_ofText raw number
  have ha := anatomy raw number
  unfold gaps
  generalize (ofText raw number).content = content at ha
  cases ha with
  | blank blank uncommented =>
    rw [codeStop, uncommented, Option.getD_none, Text.blankBetween_iff_slice, Text.slice,
      List.take_length, List.drop_zero, ← List.all_eq_true, h] at blank
    cases blank
  | _ => simp [hraw]

/-- The gaps beside the mnemonic move with what they part. -/
theorem gaps_behind (margin raw : Text) (number : Nat) :
    let line := ofText raw number
    let gaps := (line.behind margin).gaps
    Span.Moves margin.length
        ((line.part .instruction).isAbsent = false ∧
          Text.indentation raw < (line.part .instruction).span.start)
        line.gaps.labelToInstruction gaps.labelToInstruction ∧
      Span.Moves margin.length ((line.part .data).isAbsent = false)
        line.gaps.instructionToData gaps.instructionToData ∧
      Span.Moves margin.length
        ((line.part .instruction).isAbsent = false ∧ (line.part .comment).isAbsent = false)
        line.gaps.dataToComment gaps.dataToComment := by
  intro line gaps
  cases hc : line.content with
  | instruction i =>
    have pieces := in_of_content hc
    have hshift : (line.behind margin).content = .instruction (i.shift margin.length) := by
      simp [behind, hc, Content.shift]
    have hbefore : i.keyword.isAbsent = false ∧ Text.indentation raw < i.column ↔
        i.before.isAbsent = false := by
      have hle := pieces.before.bounds.2
      rw [and_iff_right i.keyword_isAbsent]
      rcases pieces.code_begins (codeStop_le raw) with ⟨habsent, hcolumn⟩ | ⟨hpresent, hstart⟩
      · simp [habsent, hcolumn]
      · have hlt := (pieces.before.start_le hpresent).2
        simp only [hpresent, iff_true]
        omega
    have hcomment : i.keyword.isAbsent = false ∧ line.comment.isAbsent = false ↔
        line.comment.isAbsent = false := and_iff_right i.keyword_isAbsent
    simp only [gaps, gaps_of_instruction hc, gaps_of_instruction hshift, part_of_instruction hc]
    have hmoved : (line.behind margin).comment = line.comment.shift margin.length := rfl
    simp only [hmoved, Instruction.before_shift, Instruction.data_shift, Field.isAbsent_shift]
    refine ⟨Span.moves_ite hbefore fun h => ?_, Span.moves_ite Iff.rfl fun h => ?_,
      Span.moves_ite hcomment fun h => ?_⟩
    · simp [Field.shift_of_present _ h, Span.shift]
    · simp [Field.shift_of_present _ h, Span.shift]
    · simp [Field.shift_of_present _ h, Instruction.stop_shift, Span.shift]
  | _ =>
    have hi : line.instruction? = none := by simp [instruction?, hc]
    have hshift : (line.behind margin).instruction? = none := by
      simp [instruction?, behind, hc, Content.shift]
    have hdata : (line.part .data).isAbsent = true := by simp [part, hi, Field.isAbsent, Field.absent]
    have hkeyword : (line.part .instruction).isAbsent = true := by
      simp [part, hi, Field.isAbsent, Field.absent]
    rw [show gaps = _ from gaps_of_none hshift, gaps_of_none hi]
    exact ⟨Span.moves_none _ (by simp [hkeyword]), Span.moves_none _ (by simp [hdata]),
      Span.moves_none _ (by simp [hkeyword])⟩

/-- Blanks before a line that is indented and not blank change nothing but columns: all it has moves
to the right by their number, and what it does not have stays absent. -/
theorem indented_line (margin raw : Text) (number : Nat) (blank : ∀ c ∈ margin, isBlank c = true)
    (newline : '\n' ∉ margin) (h : raw.all isBlank = false) (head : raw.head?.any isBlank = true) :
    let line := ofText raw number
    let indented := ofText (margin ++ raw) number
    indented.kind = line.kind ∧ indented.isJump = line.isJump ∧
      (∀ p, (indented.part p).text = (line.part p).text) ∧
      (∀ p, (line.part p).isAbsent = false →
        (indented.part p).span = (line.part p).span.shift margin.length) ∧
      (∀ p, (line.part p).isAbsent = true →
        (line.part p).span = Span.none ∧ (indented.part p).span = Span.none) ∧
      line.gaps.beforeLabel = ⟨0, Text.indentation raw⟩ ∧
      indented.gaps.beforeLabel = ⟨0, Text.indentation raw + margin.length⟩ ∧
      Span.Moves margin.length
        ((line.part .instruction).isAbsent = false ∧
          Text.indentation raw < (line.part .instruction).span.start)
        line.gaps.labelToInstruction indented.gaps.labelToInstruction ∧
      Span.Moves margin.length ((line.part .data).isAbsent = false)
        line.gaps.instructionToData indented.gaps.instructionToData ∧
      Span.Moves margin.length
        ((line.part .instruction).isAbsent = false ∧ (line.part .comment).isAbsent = false)
        line.gaps.dataToComment indented.gaps.dataToComment := by
  intro line indented
  have hindented : 0 < Text.indentation raw := Text.indentation_pos_iff.mpr head
  have hbehind : indented = line.behind margin := ofText_margin blank newline hindented number
  have hnotBlank : (margin ++ raw).all isBlank = false := by
    rw [List.all_append, h, Bool.and_false]
  have hbefore := beforeLabel_of_not_blank number hnotBlank
  rw [Text.indentation_append_of_blank blank, Nat.add_comm margin.length] at hbefore
  have hpart : ∀ p, indented.part p = (line.part p).shift margin.length := fun p => by
    rw [hbehind, part_behind]
  refine ⟨by rw [hbehind, kind_behind], by rw [hbehind, isJump_behind], fun p => ?_, fun p hp => ?_,
    fun p hp => ?_, beforeLabel_of_not_blank number h, hbefore, ?_⟩
  · rw [hpart, Field.text_shift]
  · rw [hpart, Field.shift_of_present _ hp]
  · have hspan := (part_marked raw number p).mp (List.isEmpty_iff.mp hp)
    rw [hpart, Field.shift, if_pos hp]
    exact ⟨hspan, hspan⟩
  · rw [hbehind]
    exact gaps_behind margin raw number

/-- Behind a tab and an ideographic space: a declared label with a comment and semicolons in its data,
and a name without a value. -/
theorem indented_line_two_columns :
    let margin : Text := "\t\u3000"
    let label := ofText (margin ++ " Ü: ADD R1, ';' ; x".toList) 0
    let name := ofText (margin ++ " X EQU ".toList) 0
    ((∀ c ∈ margin, isBlank c = true) ∧ '\n' ∉ margin) ∧
      ((" Ü: ADD R1, ';' ; x" : Text).all isBlank = false ∧
        (" Ü: ADD R1, ';' ; x" : Text).head?.any isBlank = true ∧
        label.kind = .label ∧ (label.part .data).span = ⟨10, 17⟩ ∧
        label.gaps = ⟨⟨0, 3⟩, ⟨5, 6⟩, ⟨9, 10⟩, ⟨17, 18⟩⟩) ∧
      ((" X EQU " : Text).all isBlank = false ∧ (" X EQU " : Text).head?.any isBlank = true ∧
        name.kind = .assignment ∧ (name.part .variableName).span = ⟨3, 4⟩ ∧
        (name.part .value).span = Span.none) := by
  intro margin label name
  have blank : ∀ c ∈ margin, isBlank c = true := List.all_eq_true.mp (by decide)
  have newline : '\n' ∉ margin := by decide
  have hl : (" Ü: ADD R1, ';' ; x" : Text).all isBlank = false := by decide
  have hn : (" X EQU " : Text).all isBlank = false := by decide
  have hlhead : (" Ü: ADD R1, ';' ; x" : Text).head?.any isBlank = true := by decide
  have hnhead : (" X EQU " : Text).head?.any isBlank = true := by decide
  obtain ⟨hkind, -, -, hspan, -, -, hbefore, hto, hdata, hcomment⟩ :=
    indented_line margin " Ü: ADD R1, ';' ; x" 0 blank newline hl hlhead
  obtain ⟨hassignment, -, -, hvariable, habsent, -⟩ :=
    indented_line margin " X EQU " 0 blank newline hn hnhead
  refine ⟨⟨blank, newline⟩, ⟨hl, hlhead, hkind.trans (by decide),
    (hspan .data (by decide)).trans (by decide), ?_⟩, hn, hnhead, hassignment.trans (by decide),
    (hvariable .variableName (by decide)).trans (by decide), (habsent .value (by decide)).2⟩
  have hgaps : label.gaps = ⟨label.gaps.beforeLabel, label.gaps.labelToInstruction,
    label.gaps.instructionToData, label.gaps.dataToComment⟩ := rfl
  rw [hgaps, hbefore, hto.moved (by decide), hdata.moved (by decide), hcomment.moved (by decide)]
  decide

end Line
end AsmLens
