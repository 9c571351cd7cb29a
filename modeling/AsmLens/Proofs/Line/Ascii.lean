import AsmLens.Proofs.Line.Bytes

/-!
# Lines in ASCII

A line is read by its blanks, its marks and the spellings of its keywords, and none of them tells the
line from its ASCII image. So reading the image gives what the image of the line that was read gives:
the same columns everywhere, and fields with the same text up to the characters that were replaced.
Keywords hold no such characters, in whatever case they are written.

Results:
* `Assignment.ofCode?_toAscii`, `Instruction.ofCode?_toAscii`: the same for the readers of the code.
* `ofText_toAscii`: reading the image of a text gives the image of the line.
* `Register.scan_toAscii`: the registers of operands are the same as written.
* `ascii_line`: what a line and its image have in common.
-/
namespace AsmLens
open Text (IsMark)
open Unicode (isBlank)

/-! ## Keywords -/

namespace Keyword
variable {K : Type} [Keyword K]

theorem beginsExactly_toAscii {k : K} (marks : ∀ a ∈ spelling k, IsMark a) (text : Text) :
    beginsExactly (Text.toAscii text) k = beginsExactly text k := by
  rw [Bool.eq_iff_iff, beginsExactly, beginsExactly, beq_iff_eq, beq_iff_eq, Text.take_toAscii,
    Text.toAscii_eq_iff marks]

theorem beginsAnyCase_toAscii {k : K} (marks : ∀ a ∈ spelling k, IsMark a) (text : Text) :
    beginsAnyCase (Text.toAscii text) k = beginsAnyCase text k := by
  rw [Bool.eq_iff_iff, beginsAnyCase, beginsAnyCase, beq_iff_eq, beq_iff_eq, Text.take_toAscii,
    Text.asciiUpper_toAscii_eq_iff marks]

/-- A set of keywords that are spelled with marks only. -/
theorem isMark_of_all (h : ((all : List K).all fun k => (spelling k).all fun a => decide (IsMark a)) =
    true) (k : K) : ∀ a ∈ spelling k, IsMark a := fun a ha =>
  of_decide_eq_true (List.all_eq_true.mp (List.all_eq_true.mp h k (mem_all k)) a ha)

end Keyword

theorem Directive.isMark_of_mem_spelling (d : Directive) : ∀ a ∈ Keyword.spelling d, IsMark a :=
  Keyword.isMark_of_all (by decide) d

theorem Register.isMark_of_mem_spelling (r : Register) : ∀ a ∈ Keyword.spelling r, IsMark a :=
  Keyword.isMark_of_all (by decide) r

theorem Mnemonic.isMark_of_mem_spelling (m : Mnemonic) : ∀ a ∈ Keyword.spelling m, IsMark a :=
  Keyword.isMark_of_all (by decide) m

/-! ## Fields -/

namespace Field

/-- The field with its text in ASCII, where it stands. -/
def toAscii (field : Field) : Field := ⟨Text.toAscii field.text, field.span⟩

theorem isAbsent_toAscii (field : Field) : field.toAscii.isAbsent = field.isAbsent :=
  Text.isEmpty_toAscii field.text

theorem trimmed_toAscii (text : Text) (start stop : Nat) :
    trimmed (Text.toAscii text) start stop = (trimmed text start stop).toAscii := by
  simp only [trimmed, Text.slice_toAscii, Text.trim_toAscii, Text.isEmpty_toAscii,
    Text.indentation_toAscii, Text.length_toAscii]
  split <;> rfl

end Field

/-! ## Assignments -/

namespace Assignment

/-- The assignment with its name and its value in ASCII. -/
def toAscii (a : Assignment) : Assignment :=
  { a with variableName := a.variableName.toAscii, value := a.value.toAscii }

theorem directiveAt?_toAscii (text : Text) : directiveAt? (Text.toAscii text) = directiveAt? text := by
  have hfits : ∀ d : Directive,
      (Keyword.beginsAnyCase (Text.toAscii text) d &&
          (Text.toAscii text)[(Keyword.spelling d).length]?.any isBlank) =
        (Keyword.beginsAnyCase text d && text[(Keyword.spelling d).length]?.any isBlank) := by
    intro d
    rw [Keyword.beginsAnyCase_toAscii d.isMark_of_mem_spelling, Text.getElem?_toAscii,
      Option.any_map]
    simp only [Text.isBlank_asciiImage]
  rw [directiveAt?, directiveAt?, funext hfits]

theorem ofCode?_toAscii (code : Text) :
    ofCode? (Text.toAscii code) = (ofCode? code).map toAscii := by
  unfold ofCode?
  rw [Text.firstMatch?_toAscii directiveAt?_toAscii]
  cases Text.firstMatch? directiveAt? code with
  | none => rfl
  | some found =>
    obtain ⟨column, directive⟩ := found
    have hnewline : '\n' ∈ (Text.toAscii code).take column ↔ '\n' ∈ code.take column := by
      rw [Text.take_toAscii, Text.mem_toAscii_iff (by decide)]
    simp only [hnewline]
    split
    · rfl
    · simp only [Field.trimmed_toAscii, Text.length_toAscii, Option.map_some, toAscii]

end Assignment

/-! ## Instructions -/

namespace Instruction

/-- The instruction with all but its mnemonic in ASCII. -/
def toAscii (i : Instruction) : Instruction :=
  { i with
    before := i.before.toAscii
    data := i.data.toAscii
    declared := i.declared.map Field.toAscii }

theorem mnemonicAt?_toAscii (text : Text) : mnemonicAt? (Text.toAscii text) = mnemonicAt? text := by
  rw [mnemonicAt?, mnemonicAt?,
    funext fun m : Mnemonic => Keyword.beginsExactly_toAscii m.isMark_of_mem_spelling text]

theorem isMnemonic_toAscii (word : Text) : isMnemonic (Text.toAscii word) = isMnemonic word := by
  have hstrip : Mnemonic.stripCondition (Text.toAscii word) =
      Text.toAscii (Mnemonic.stripCondition word) := by
    have hdot : ∀ c, (Text.asciiImage c != '.') = (c != '.') := fun c => by
      rw [Bool.eq_iff_iff, bne_iff_ne, bne_iff_ne, ne_eq, ne_eq,
        Text.asciiImage_eq_iff (by decide)]
    simp only [Mnemonic.stripCondition, Text.toAscii, List.takeWhile_map, Function.comp_def, hdot]
  have hspelled : ∀ m : Mnemonic, (m.spelling == Mnemonic.stripCondition (Text.toAscii word)) =
      (m.spelling == Mnemonic.stripCondition word) := fun m => by
    rw [hstrip, Bool.eq_iff_iff, beq_iff_eq, beq_iff_eq]
    exact (eq_comm.trans (Text.toAscii_eq_iff m.isMark_of_mem_spelling)).trans eq_comm
  rw [isMnemonic, isMnemonic, funext hspelled]

theorem searchStart_toAscii (code : Text) : searchStart (Text.toAscii code) = searchStart code := by
  have hfind : (Text.toAscii code).findIdx? isBlank = code.findIdx? isBlank := by
    simp only [Text.toAscii, List.findIdx?_map, Function.comp_def, Text.isBlank_asciiImage]
  simp only [searchStart, Text.indentation_toAscii, hfind, Text.take_toAscii, isMnemonic_toAscii]

theorem searchRegion_toAscii (code : Text) :
    searchRegion (Text.toAscii code) = Text.toAscii (searchRegion code) := by
  have hquote : ∀ c, (Text.asciiImage c != '"' && Text.asciiImage c != '\'') =
      (c != '"' && c != '\'') := fun c => by
    rw [Bool.eq_iff_iff, Bool.and_eq_true, Bool.and_eq_true, bne_iff_ne, bne_iff_ne, bne_iff_ne,
      bne_iff_ne, ne_eq, ne_eq, ne_eq, ne_eq, Text.asciiImage_eq_iff (by decide),
      Text.asciiImage_eq_iff (by decide)]
  simp only [searchRegion, Text.trimEnd_toAscii, searchStart_toAscii, Text.drop_toAscii]
  simp only [Text.toAscii, List.takeWhile_map, Function.comp_def, hquote]

theorem mnemonic?_toAscii (code : Text) : mnemonic? (Text.toAscii code) = mnemonic? code := by
  rw [mnemonic?, mnemonic?, searchRegion_toAscii, Text.firstMatch?_toAscii mnemonicAt?_toAscii,
    Text.trimEnd_toAscii, searchStart_toAscii]

theorem declared?_toAscii (code : Text) :
    declared? (Text.toAscii code) = (declared? code).map Field.toAscii := by
  simp only [declared?, Text.indentation_toAscii,
    Text.firstUnquoted?_toAscii (show IsMark ':' by decide)]
  cases Text.firstUnquoted? ':' code with
  | none => rfl
  | some colon =>
    simp only [Field.trimmed_toAscii]
    split <;> rfl

theorem ofCode?_toAscii (code : Text) :
    ofCode? (Text.toAscii code) = (ofCode? code).map toAscii := by
  simp only [ofCode?, mnemonic?_toAscii, Text.indentation_toAscii, Field.trimmed_toAscii,
    Text.length_toAscii, declared?_toAscii, Option.map_map]
  rfl

end Instruction

/-! ## Registers -/

namespace Register

theorem at?_toAscii (text : Text) : at? (Text.toAscii text) = at? text := by
  rw [at?, at?,
    funext fun r : Register => Keyword.beginsAnyCase_toAscii r.isMark_of_mem_spelling text]

theorem scanFrom_toAscii (column skip : Nat) (text : Text) :
    scanFrom column skip (Text.toAscii text) = scanFrom column skip text := by
  induction text generalizing column skip with
  | nil => rfl
  | cons c rest ih =>
    cases skip with
    | succ skip => exact ih (column + 1) skip
    | zero =>
      have hat := at?_toAscii (c :: rest)
      rw [Text.toAscii, List.map_cons, ← Text.toAscii] at hat ⊢
      rw [scanFrom, scanFrom, hat]
      cases found : at? (c :: rest) with
      | none => exact ih (column + 1) 0
      | some register =>
        -- what is taken spells a register, so it is ASCII already
        have hfits := Keyword.fits_of_longest? found
        rw [Keyword.beginsAnyCase, beq_iff_eq] at hfits
        have htaken := Text.toAscii_of_asciiUpper register.isMark_of_mem_spelling hfits
        rw [← Text.take_toAscii, Text.toAscii, List.map_cons, ← Text.toAscii] at htaken
        simp only [ih]
        exact congrArg (fun text => Field.mk text _ :: _) htaken

theorem scan_toAscii (text : Text) (column : Nat) :
    scan (Text.toAscii text) column = scan text column :=
  scanFrom_toAscii column 0 text

end Register

/-! ## Lines -/

/-- The content with its fields in ASCII. -/
def Content.toAscii : Content → Content
  | .assignment a => .assignment a.toAscii
  | .instruction i => .instruction i.toAscii
  | content => content

namespace Line

/-- The line with its text and its fields in ASCII. -/
def toAscii (line : Line) : Line where
  raw := Text.toAscii line.raw
  number := line.number
  content := line.content.toAscii
  comment := line.comment.toAscii

theorem contentOf_toAscii (code : Text) (commented : Bool) :
    contentOf (Text.toAscii code) commented = (contentOf code commented).toAscii := by
  unfold contentOf
  rw [Text.all_isBlank_toAscii, Assignment.ofCode?_toAscii, Instruction.ofCode?_toAscii]
  cases code.all isBlank with
  | true => cases commented <;> rfl
  | false =>
    cases Assignment.ofCode? code with
    | some a => rfl
    | none => cases Instruction.ofCode? code <;> rfl

/-- Reading the image of a text gives the image of the line. -/
theorem ofText_toAscii (raw : Text) (number : Nat) :
    ofText (Text.toAscii raw) number = (ofText raw number).toAscii := by
  unfold ofText
  rw [Text.firstUnquoted?_toAscii (by decide)]
  cases Text.firstUnquoted? ';' raw with
  | none => simp only [contentOf_toAscii, toAscii]; rfl
  | some column =>
    simp only [contentOf_toAscii, Text.take_toAscii, Field.trimmed_toAscii, Text.length_toAscii,
      toAscii]

/-! ## What is shown of the image of a line -/

section
variable (line : Line)

theorem kind_toAscii : line.toAscii.kind = line.kind := by
  rw [kind, kind, toAscii]
  cases line.content with
  | instruction i =>
    simp only [Content.toAscii, Instruction.toAscii, Option.isSome_map]
  | _ => rfl

theorem isJump_toAscii : line.toAscii.isJump = line.isJump := by
  rw [isJump, isJump, instruction?, instruction?, toAscii]
  cases line.content <;> rfl

theorem part_instruction_toAscii : line.toAscii.part .instruction = line.part .instruction := by
  simp only [part, instruction?, toAscii]
  cases line.content <;> rfl

theorem part_operator_toAscii : line.toAscii.part .operator = line.part .operator := by
  simp only [part, assignment?, toAscii]
  cases line.content <;> rfl

/-- A part that is no keyword has its text in ASCII. -/
theorem part_toAscii {p : Part} (hi : p ≠ .instruction) (ho : p ≠ .operator) :
    line.toAscii.part p = (line.part p).toAscii := by
  cases p with
  | instruction => exact absurd rfl hi
  | operator => exact absurd rfl ho
  | comment => rfl
  | label =>
    simp only [part, instruction?, toAscii]
    cases line.content with
    | instruction i =>
      simp only [Content.toAscii, Instruction.toAscii, Option.map_some, Option.getD_some,
        Instruction.label]
      cases i.declared <;> rfl
    | _ => rfl
  | data =>
    simp only [part, instruction?, toAscii]
    cases line.content <;> rfl
  | variableName | value =>
    simp only [part, assignment?, toAscii]
    cases line.content <;> rfl

theorem span_part_toAscii (p : Part) : (line.toAscii.part p).span = (line.part p).span := by
  by_cases hi : p = .instruction
  · rw [hi, part_instruction_toAscii]
  · by_cases ho : p = .operator
    · rw [ho, part_operator_toAscii]
    · rw [part_toAscii line hi ho]
      rfl

theorem gaps_toAscii : line.toAscii.gaps = line.gaps := by
  simp only [gaps, toAscii, Text.indentation_toAscii, Field.isAbsent_toAscii]
  cases line.content with
  | instruction i =>
    simp only [Content.toAscii, Instruction.toAscii, Field.isAbsent_toAscii, Instruction.stop]
    rfl
  | _ => rfl

theorem registers_toAscii : line.toAscii.registers = line.registers := by
  rw [registers, registers, part_toAscii line (by decide) (by decide)]
  exact Register.scan_toAscii _ _

theorem openingQuote?_toAscii (column : Nat) :
    line.toAscii.openingQuote? column = line.openingQuote? column :=
  Text.openingQuote?_toAscii line.raw column

end

/-- A line and its ASCII image are of one kind and have the same columns everywhere: in the parts, the
gaps, the registers of the data and the open quotes. Their keywords are the same. The line is read by
bytes that are converted to columns, unless it is ASCII itself; the image is read by bytes that are
columns already. -/
theorem ascii_line (raw : Text) (number : Nat) :
    let line := ofText raw number
    let image := ofText (Text.toAscii raw) number
    read raw = pure line.reading ∧
      Register.scanBytes (line.part .data).text (line.part .data).span.start = pure line.registers ∧
      Text.isAscii (Text.toAscii raw) = true ∧ readBytes (Text.toAscii raw) = pure image.reading ∧
      image.kind = line.kind ∧ image.isJump = line.isJump ∧
      (image.part .instruction).text = (line.part .instruction).text ∧
      (image.part .operator).text = (line.part .operator).text ∧
      (∀ p, (image.part p).span = (line.part p).span) ∧ image.gaps = line.gaps ∧
      image.registers = line.registers ∧
      ∀ column, image.openingQuote? column = line.openingQuote? column := by
  intro line image
  have hread : read raw = pure line.reading := read_eq raw number
  have hascii := Text.isAscii_toAscii raw
  have hbytes : readBytes (Text.toAscii raw) = pure image.reading := by
    rw [readBytes_eq _ number, Reading.inBytes_of_isAscii hascii (reading_within _ number)]
  have himage : image = line.toAscii := ofText_toAscii raw number
  refine ⟨hread, Register.scanBytes_eq _ _, hascii, hbytes, ?_⟩
  rw [himage]
  refine ⟨kind_toAscii line, isJump_toAscii line, ?_, ?_, span_part_toAscii line, gaps_toAscii line,
    registers_toAscii line, openingQuote?_toAscii line⟩
  · rw [part_instruction_toAscii]
  · rw [part_operator_toAscii]

end Line
end AsmLens
