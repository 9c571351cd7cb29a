import AsmLens.Vocabulary

/-!
# Lines

A line of assembly source is taken apart by position, not by a grammar. The first `;` outside
literals begins the comment; what precedes it is the code. Code is an assignment if it has a
directive in the right place, else an instruction if it has a mnemonic in the right place, else
nothing that is recognised.

Everything a line shows is derived from its content: its kind, its seven parts, the gaps between
them, the registers of its data.

A name in parentheses in a docstring, as `classify` in that of `Line.ofText`, is what the routine or the
type that is defined there is called in the analyzer.

* `extract_trimmed`: the span of a trimmed field leads back to its text.
* `trimmed_eq_absent_iff`: a trimmed field is absent exactly when its part of the line is blank.
* `asciiUpper_extract_operator`: the span of the operator holds the directive, in whatever case it is
  written in the code.
* `extract_span`: the span of an instruction holds the spelling of its mnemonic.
-/
namespace AsmLens

/-!
## Fields

A field is a piece of a line together with where it stands. Most fields are cut out of the line and
trimmed of blanks; where nothing but blanks is left, the field is absent.
-/

/-- A piece of a line and its span (`Field`). -/
structure Field where
  text : Text
  span : Span
  deriving DecidableEq, Repr

namespace Field

/-- The field that a line does not have. -/
def absent : Field := ⟨[], Span.none⟩

/-- Whether the line does not have the field. -/
def isAbsent (field : Field) : Bool := field.text.isEmpty

/-- The field at `[start, stop)` of the line, without the blanks at either end (`trimmed`). -/
def trimmed (line : Text) (start stop : Nat) : Field :=
  let part := Text.slice line start stop
  let text := Text.trim part
  if text.isEmpty then absent
  else
    let first := start + Text.indentation part
    ⟨text, ⟨first, first + text.length⟩⟩

theorem trim_eq_take_drop (part : Text) :
    Text.trim part = (part.drop (Text.indentation part)).take (Text.trim part).length := by
  rw [Text.drop_indentation]
  exact List.prefix_iff_eq_take.mp (Text.trimEnd_prefix _)

theorem indentation_add_length_trim_le (part : Text) :
    Text.indentation part + (Text.trim part).length ≤ part.length := by
  have h := Text.indentation_add_length_trimStart part
  have := Text.length_trimEnd_le (Text.trimStart part)
  unfold Text.trim
  omega

theorem extract_trimmed (line : Text) (start stop : Nat) :
    (trimmed line start stop).span.extract line = (trimmed line start stop).text := by
  simp only [trimmed]
  split
  case isTrue => simp [absent, Span.none, Span.extract, Text.slice_self]
  case isFalse =>
    have hle := indentation_add_length_trim_le (Text.slice line start stop)
    rw [Text.length_slice] at hle
    simp only [Span.extract]
    conv => rhs; rw [trim_eq_take_drop]
    unfold Text.slice
    rw [List.drop_take, List.drop_take, List.drop_take, List.drop_drop, List.take_take]
    congr 1
    unfold Text.slice at hle
    rw [List.drop_take] at hle
    omega

theorem stop_trimmed_le (line : Text) (start stop : Nat) :
    (trimmed line start stop).span.stop ≤ line.length := by
  simp only [trimmed]
  split
  case isTrue => simp [absent, Span.none]
  case isFalse =>
    have hle := indentation_add_length_trim_le (Text.slice line start stop)
    rw [Text.length_slice] at hle
    simp only
    cases h : Text.trim (Text.slice line start stop) with
    | nil => simp_all
    | cons c rest =>
      rw [h] at hle
      simp only [List.length_cons] at hle ⊢
      omega

theorem trim_eq_nil_iff {text : Text} :
    Text.trim text = [] ↔ ∀ c ∈ text, Unicode.isBlank c = true := by
  constructor
  · intro h
    rw [Text.trim, Text.trimEnd_eq_nil_iff] at h
    apply Text.trimStart_eq_nil_iff.mp
    cases hs : Text.trimStart text with
    | nil => rfl
    | cons c rest =>
      have blank := h c (by simp [hs])
      rw [Text.not_isBlank_head_trimStart hs] at blank
      simp at blank
  · intro h
    rw [Text.trim, Text.trimStart_eq_nil_iff.mpr h]
    rfl

theorem trimmed_eq_absent_iff {line : Text} {start stop : Nat} :
    trimmed line start stop = absent ↔
      ∀ c ∈ Text.slice line start stop, Unicode.isBlank c = true := by
  rw [← trim_eq_nil_iff]
  simp only [trimmed]
  split
  case isTrue h => simpa using h
  case isFalse h =>
    simp only [List.isEmpty_iff] at h
    simp [absent, h]

end Field

/-!
## Assignments

An assignment gives a name a meaning, as in `COUNT EQU 10`. It is recognised by its directive, in
any mixture of ASCII case and with a blank directly after it. The first such directive of the code
counts, and it must stand before any newline; what precedes it is the name and what follows it the
value, and either may be missing.
-/

/-- What an assignment consists of (`Assignment`). `column` is where the directive begins. -/
structure Assignment where
  variableName : Field
  directive : Directive
  column : Nat
  value : Field
  deriving DecidableEq, Repr

namespace Assignment

/-- The directive that the text begins with, if a blank follows it. -/
def directiveAt? (text : Text) : Option Directive :=
  Keyword.longest? fun d =>
    Keyword.beginsAnyCase text d && text[(Keyword.spelling d).length]?.any Unicode.isBlank

/-- The directive, in its proper spelling and with its span. -/
def operator (a : Assignment) : Field :=
  let spelling := Keyword.spelling a.directive
  ⟨spelling, ⟨a.column, a.column + spelling.length⟩⟩

/-- The assignment that the code makes (`parse`). -/
def ofCode? (code : Text) : Option Assignment :=
  match Text.firstMatch? directiveAt? code with
  | some (column, directive) =>
    if '\n' ∈ code.take column then none
    else
      let stop := column + (Keyword.spelling directive).length
      some
        { variableName := Field.trimmed code 0 column
          directive := directive
          column := column
          value := Field.trimmed code stop code.length }
  | none => none

theorem fits_of_directiveAt? {text : Text} {d : Directive} (h : directiveAt? text = some d) :
    Keyword.beginsAnyCase text d = true ∧
      text[(Keyword.spelling d).length]?.any Unicode.isBlank = true := by
  simpa using Keyword.fits_of_longest? h

theorem asciiUpper_extract_operator {code : Text} {a : Assignment} (h : ofCode? code = some a) :
    Text.asciiUpper (a.operator.span.extract code) = a.operator.text := by
  unfold ofCode? at h
  split at h
  case h_2 => simp at h
  case h_1 column directive found =>
    split at h
    · simp at h
    · obtain rfl := Option.some.inj h
      have fits := (fits_of_directiveAt? (Text.firstMatch?_eq_some_iff.mp found).2.1).1
      simp only [Keyword.beginsAnyCase, beq_iff_eq] at fits
      simp only [operator, Span.extract, Text.slice, List.drop_take, Nat.add_sub_cancel_left]
      exact fits

end Assignment

/-!
## Instructions

An instruction line has a mnemonic, perhaps something before it (a label) and something after it
(its data). The mnemonic is the first one in the search region, the longest if several begin at one
column, and only in upper case; it need not be a word of its own. The search region is the code
up to its first quote of either kind. Code that begins in column 0 begins with a label, so there
the search starts after the first word, unless the code is a single word or the first word is
itself a mnemonic, with or without a condition.

A colon outside literals that is not the first character of the code declares a label: all that
precedes the colon is then the label's name, wherever the mnemonic stands.
-/

/-- What an instruction consists of. `before` is what precedes the mnemonic, which begins at
`column`; `declared` is the label that a colon declares. -/
structure Instruction where
  before : Field
  mnemonic : Mnemonic
  column : Nat
  data : Field
  declared : Option Field
  deriving DecidableEq, Repr

namespace Instruction

/-- The longest mnemonic that the text begins with. A scanner finds it without comparing lengths, by the order
of the alternatives in `Pattern.mnemonic` (`MNEMONIC`). -/
def mnemonicAt? (text : Text) : Option Mnemonic := Keyword.longest? (Keyword.beginsExactly text)

/-- Whether the word is the spelling of a mnemonic, apart from a condition. -/
def isMnemonic (word : Text) : Bool :=
  Mnemonic.all.any fun m => m.spelling == Mnemonic.stripCondition word

/-- The column at which the search for the mnemonic starts in code without trailing blanks
(`mnemonic_search_start`). -/
def searchStart (code : Text) : Nat :=
  let indentation := Text.indentation code
  if indentation ≠ 0 then indentation
  else
    match code.findIdx? Unicode.isBlank with
    | some column => if isMnemonic (code.take column) then 0 else column
    | none => 0

/-- The part of the code in which the mnemonic is searched. -/
def searchRegion (code : Text) : Text :=
  let code := Text.trimEnd code
  (code.drop (searchStart code)).takeWhile fun c => c != '"' && c != '\''

/-- The first mnemonic of the code and its column. -/
def mnemonic? (code : Text) : Option (Nat × Mnemonic) :=
  (Text.firstMatch? mnemonicAt? (searchRegion code)).map fun (offset, mnemonic) =>
    (searchStart (Text.trimEnd code) + offset, mnemonic)

/-- The label that a colon declares. -/
def declared? (code : Text) : Option Field :=
  let indentation := Text.indentation code
  match Text.firstUnquoted? ':' code with
  | some colon => if indentation < colon then some (Field.trimmed code indentation colon) else none
  | none => none

/-- The instruction that the code gives (`classify_instruction`). -/
def ofCode? (code : Text) : Option Instruction :=
  (mnemonic? code).map fun (column, mnemonic) =>
    { before := Field.trimmed code (Text.indentation code) column
      mnemonic := mnemonic
      column := column
      data := Field.trimmed code (column + mnemonic.spelling.length) code.length
      declared := declared? code }

/-- The span of the mnemonic. -/
def span (i : Instruction) : Span := ⟨i.column, i.column + i.mnemonic.spelling.length⟩

/-- The mnemonic with its span. -/
def keyword (i : Instruction) : Field := ⟨i.mnemonic.spelling, i.span⟩

/-- The label: the declared one, or else what precedes the mnemonic. -/
def label (i : Instruction) : Field := i.declared.getD i.before

/-- Where the last of mnemonic and data ends. -/
def stop (i : Instruction) : Nat := if i.data.isAbsent then i.span.stop else i.data.span.stop

theorem extract_span {code : Text} {i : Instruction} (h : ofCode? code = some i) :
    i.span.extract code = i.mnemonic.spelling := by
  simp only [ofCode?, mnemonic?, Option.map_map, Option.map_eq_some_iff, Prod.exists] at h
  obtain ⟨offset, mnemonic, found, rfl⟩ := h
  have fits := Keyword.fits_of_longest? (Text.firstMatch?_eq_some_iff.mp found).2.1
  simp only [Keyword.beginsExactly, beq_iff_eq] at fits
  simp only [Function.comp, span, Span.extract, Text.slice, List.drop_take,
    Nat.add_sub_cancel_left]
  have region : searchRegion code <+: code.drop (searchStart (Text.trimEnd code)) :=
    (List.takeWhile_prefix _).trans (Text.drop_prefix_drop (Text.trimEnd_prefix code) _)
  have rest := Text.drop_prefix_drop region offset
  rw [List.drop_drop] at rest
  have spelled : mnemonic.spelling <+: (searchRegion code).drop offset := by
    rw [List.prefix_iff_eq_take]
    exact fits.symm
  exact (List.prefix_iff_eq_take.mp (spelled.trans rest)).symm

end Instruction

/-!
## Registers in operands

Register names are recognised anywhere in operand text, inside words too and in any mixture of
ASCII case. The text is read from left to right: where register names begin, the longest is taken
and reading goes on after it; anywhere else reading goes on at the next character. So `R15` is
never `R1` and a `5`, and `R10` is `R1` and a `0`.
-/

namespace Register

/-- The longest register name that the text begins with. -/
def at? (text : Text) : Option Register := Keyword.longest? (Keyword.beginsAnyCase text)

/-- The registers in the text, which begins at `column`; its first `skip` characters belong to a
register that has been taken. -/
def scanFrom (column skip : Nat) : Text → List Field
  | [] => []
  | c :: rest =>
    match skip with
    | skip + 1 => scanFrom (column + 1) skip rest
    | 0 =>
      match at? (c :: rest) with
      | some register =>
        let width := register.spelling.length
        ⟨(c :: rest).take width, ⟨column, column + width⟩⟩ ::
          scanFrom (column + 1) (width - 1) rest
      | none => scanFrom (column + 1) 0 rest

/-- The registers in the text, as they are written and with their spans in the line in which the text
begins at `column` (`scan_registers`). -/
def scan (text : Text) (column : Nat) : List Field := scanFrom column 0 text

end Register

/-! ## What a line holds and shows -/

/-- What kind of line it is (`LineType`). A line that declares a label counts as a label. -/
inductive LineKind where
  | assignment | instruction | comment | label | other
  deriving DecidableEq, Repr

/-- The name of the kind. -/
def LineKind.name : LineKind → Text
  | assignment => "Assignment"
  | instruction => "Instruction"
  | comment => "Comment"
  | label => "Label"
  | other => "Other"

/-- What a line holds apart from its comment. -/
inductive Content where
  /-- Nothing at all: the line is blank. -/
  | blank
  /-- Nothing but a comment. -/
  | comment
  | assignment (assignment : Assignment)
  | instruction (instruction : Instruction)
  /-- Code of no known shape. -/
  | unrecognised
  deriving DecidableEq, Repr

/-- A line of source, taken apart. -/
structure Line where
  raw : Text
  number : Nat
  content : Content
  comment : Field
  deriving DecidableEq, Repr

/-- The parts that a line can have. -/
inductive Part where
  | label | instruction | data | comment | variableName | operator | value
  deriving DecidableEq, Repr

/-- The blanks between the parts of an instruction line (`Gaps`). -/
structure Gaps where
  beforeLabel : Span
  labelToInstruction : Span
  instructionToData : Span
  dataToComment : Span
  deriving DecidableEq, Repr

namespace Line

/-- What the code of a line holds, given whether a comment follows it. -/
def contentOf (code : Text) (commented : Bool) : Content :=
  if code.all Unicode.isBlank then if commented then .comment else .blank
  else
    match Assignment.ofCode? code with
    | some a => .assignment a
    | none =>
      match Instruction.ofCode? code with
      | some i => .instruction i
      | none => .unrecognised

/-- The line with the text and the number (`classify`). Every text is a line. -/
def ofText (raw : Text) (number : Nat) : Line :=
  match Text.firstUnquoted? ';' raw with
  | some column =>
    { raw, number
      content := contentOf (raw.take column) true
      comment := Field.trimmed raw column raw.length }
  | none => { raw, number, content := contentOf raw false, comment := Field.absent }

/-- The kind of the line (`line_type`). -/
def kind (line : Line) : LineKind :=
  match line.content with
  | .assignment _ => .assignment
  | .instruction i => if i.declared.isSome then .label else .instruction
  | .comment => .comment
  | .blank | .unrecognised => .other

/-- The span of the whole line. -/
def span (line : Line) : Span := ⟨0, line.raw.length⟩

/-- The instruction of the line. -/
def instruction? (line : Line) : Option Instruction :=
  match line.content with
  | .instruction i => some i
  | _ => none

/-- The assignment of the line. -/
def assignment? (line : Line) : Option Assignment :=
  match line.content with
  | .assignment a => some a
  | _ => none

/-- A part of the line; the absent field if the line does not have it. -/
def part (line : Line) : Part → Field
  | .label => (line.instruction?.map Instruction.label).getD Field.absent
  | .instruction => (line.instruction?.map Instruction.keyword).getD Field.absent
  | .data => (line.instruction?.map Instruction.data).getD Field.absent
  | .comment => line.comment
  | .variableName => (line.assignment?.map Assignment.variableName).getD Field.absent
  | .operator => (line.assignment?.map Assignment.operator).getD Field.absent
  | .value => (line.assignment?.map Assignment.value).getD Field.absent

/-- The gaps of the line. What precedes the mnemonic counts as the label here, with its colon. -/
def gaps (line : Line) : Gaps where
  beforeLabel :=
    match line.content with
    | .blank => Span.none
    | _ => ⟨0, Text.indentation line.raw⟩
  labelToInstruction :=
    match line.content with
    | .instruction i =>
      if i.before.isAbsent then Span.none else ⟨i.before.span.stop, i.column⟩
    | _ => Span.none
  instructionToData :=
    match line.content with
    | .instruction i => if i.data.isAbsent then Span.none else ⟨i.span.stop, i.data.span.start⟩
    | _ => Span.none
  dataToComment :=
    match line.content with
    | .instruction i =>
      if line.comment.isAbsent then Span.none else ⟨i.stop, line.comment.span.start⟩
    | _ => Span.none

/-- Whether the instruction of the line transfers control to a label (`is_jump_instruction`). -/
def isJump (line : Line) : Bool := line.instruction?.any fun i => i.mnemonic.isJump

/-- The directive that the operator of the line spells (`directive`). -/
def directive? (line : Line) : Option Directive := Keyword.parse? (line.part .operator).text

/-- The registers in the data, from left to right (`registers_in_data`). -/
def registers (line : Line) : List Field :=
  let data := line.part .data
  Register.scan data.text data.span.start

/-- The column of the quote that opens the literal which the column lies in (`find_opening_quote`). -/
def openingQuote? (line : Line) (column : Nat) : Option Nat :=
  Text.openingQuote? line.raw column

theorem raw_ofText (raw : Text) (number : Nat) : (ofText raw number).raw = raw := by
  unfold ofText
  split <;> rfl

theorem number_ofText (raw : Text) (number : Nat) : (ofText raw number).number = number := by
  unfold ofText
  split <;> rfl

end Line
end AsmLens
