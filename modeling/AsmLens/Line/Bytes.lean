import AsmLens.Line

/-!
# Lines by bytes and by patterns

Lines again, in the way in which a scanner reads them: every position is a byte, every piece is taken by two
bytes, and words are looked for by patterns. Nothing in the steps says that their bytes are boundaries, that
pieces have their ends in order or that differences do not fall below zero, so each of them can stop with a
fault.
-/
namespace AsmLens
open Text (bytes utf8Size)

/-!
## Reading by bytes

A position that was found in one text is used in another, such as the colon of the line in the code without
its blanks. Only the spans that come out are converted to columns, and a line of ASCII characters is spared
even that.
-/

/-- All that is shown of a line. -/
structure Reading where
  kind : LineKind
  part : Part → Field
  gaps : Gaps
  isJump : Bool

/-- Nothing is shown but the comment. -/
def Reading.bare (kind : LineKind) (beforeLabel : Span) (comment : Field) : Reading where
  kind := kind
  part
    | .comment => comment
    | _ => Field.absent
  gaps := ⟨beforeLabel, Span.none, Span.none, Span.none⟩
  isJump := false

/-- What is shown of the line. -/
def Line.reading (line : Line) : Reading := ⟨line.kind, line.part, line.gaps, line.isJump⟩

/-! ### Columns for bytes -/

/-- The columns of a span of bytes. -/
def Span.toColumns (line : Text) (span : Span) : Except Fault Span :=
  if line.isBoundary span.start ∧ line.isBoundary span.stop then
    pure (Span.ofByteRange line span.start span.stop)
  else throw (.piece span.start span.stop)

/-- The field with its span in columns. -/
def Field.toColumns (line : Text) (field : Field) : Except Fault Field := do
  return { field with span := ← field.span.toColumns line }

/-- The reading with all its spans in columns (`convert_spans_to_columns`). -/
def Reading.toColumns (line : Text) (reading : Reading) : Except Fault Reading := do
  let label ← (reading.part .label).toColumns line
  let instruction ← (reading.part .instruction).toColumns line
  let data ← (reading.part .data).toColumns line
  let comment ← (reading.part .comment).toColumns line
  let variableName ← (reading.part .variableName).toColumns line
  let operator ← (reading.part .operator).toColumns line
  let value ← (reading.part .value).toColumns line
  let beforeLabel ← reading.gaps.beforeLabel.toColumns line
  let labelToInstruction ← reading.gaps.labelToInstruction.toColumns line
  let instructionToData ← reading.gaps.instructionToData.toColumns line
  let dataToComment ← reading.gaps.dataToComment.toColumns line
  return { reading with
    part := fun
      | .label => label
      | .instruction => instruction
      | .data => data
      | .comment => comment
      | .variableName => variableName
      | .operator => operator
      | .value => value
    gaps := { beforeLabel, labelToInstruction, instructionToData, dataToComment } }

/-! ### Fields -/

namespace Field

/-- The piece that begins at a byte of the line, without the blanks at its end. -/
def ofHead (piece : Text) (byte : Nat) : Field :=
  let text := Text.trimEnd piece
  ⟨text, ⟨byte, byte + utf8Size text⟩⟩

/-- The piece that begins at a byte of the line, without the blanks at either end (`trimmed`). -/
def ofPiece (piece : Text) (byte : Nat) : Except Fault Field := do
  let text := Text.trim piece
  if text.isEmpty then return absent
  let first := byte + (← difference (utf8Size piece) (utf8Size (Text.trimStart piece)))
  return ⟨text, ⟨first, first + utf8Size text⟩⟩

end Field

/-! ### Assignments -/

namespace Assignment

/-- What an assignment shows. -/
structure Shown where
  variableName : Field
  operator : Field
  value : Field

/-- What a line with the assignment shows. -/
def Shown.reading (a : Shown) (leading : Nat) (comment : Field) : Reading where
  kind := .assignment
  part
    | .variableName => a.variableName
    | .operator => a.operator
    | .value => a.value
    | .comment => comment
    | _ => Field.absent
  gaps := ⟨⟨0, leading⟩, Span.none, Span.none, Span.none⟩
  isJump := false

/-- The bytes at which the directive of the code begins, at which it ends and at which the blanks behind
it end (`ASSIGNMENT`). -/
def captures? (code : Text) : Option (Nat × Nat × Nat) :=
  match Text.firstMatch? directiveAt? code with
  | some (column, directive) =>
    if '\n' ∈ code.take column then none
    else
      let stop := column + (Keyword.spelling directive).length
      some (code.byteAt column, code.byteAt stop,
        code.byteAt (stop + Text.indentation (code.drop stop)))
  | none => none

/-- The assignment that the code makes (`parse`). -/
def ofBytes (code : Text) : Except Fault (Option Shown) :=
  match captures? code with
  | some (first, last, gapStop) => do
    let variableName ← Field.ofPiece (← bytes code 0 first) 0
    let written ← bytes code first last
    let value ← Field.ofPiece (← bytes code gapStop (utf8Size code)) gapStop
    return some { variableName, operator := ⟨Text.asciiUpper written, ⟨first, last⟩⟩, value }
  | none => return none

end Assignment

/-! ### Instructions -/

namespace Instruction

/-- The byte at which the search for the mnemonic starts in code without blanks at its ends, which begins
at the byte `leading` of the line (`mnemonic_search_start`). -/
def searchByte (code : Text) (leading : Nat) : Except Fault Nat :=
  if leading ≠ 0 then return 0
  else
    match Text.findByte? Unicode.isBlank code with
    | some byte => do return if isMnemonic (← bytes code 0 byte) then 0 else byte
    | none => return 0

/-- The part of the code, from the byte on, in which the mnemonic is searched. -/
def regionFrom (code : Text) (byte : Nat) : Except Fault Text := do
  let region ← bytes code byte (utf8Size code)
  match Text.findByte? (fun c => c == '"' || c == '\'') region with
  | some quote => bytes region 0 quote
  | none => return region

/-- The first mnemonic of the region by its pattern, as it is written there, and its byte (`MNEMONIC`).
-/
def keywordByte? (region : Text) : Option (Nat × Text) :=
  (Pattern.find? Pattern.mnemonic region).map fun found =>
    (region.byteAt found.start, found.extract region)

/-- What precedes the mnemonic, which stands at the byte `index` of the code. -/
def beforeBytes (code : Text) (leading index : Nat) : Except Fault (Option Field) :=
  if 0 < index then do return some (Field.ofHead (← bytes code 0 index) leading)
  else return none

/-- The label that a colon of the line declares, if it is no part of the comment. -/
def declaredBytes (raw code : Text) (leading : Nat) (semicolon : Option Nat) :
    Except Fault (Option Field) :=
  match Text.unquotedByte? ':' raw with
  | some colon =>
    if leading < colon ∧ semicolon.all (colon < ·) then do
      return some (Field.ofHead (← bytes code 0 (← difference colon leading)) leading)
    else return none
  | none => return none

/-- What a line with a mnemonic shows. -/
def shown (leading : Nat) (semicolon : Option Nat) (before declared : Option Field)
    (keyword data comment : Field) : Reading where
  kind := if declared.isSome then .label else .instruction
  part
    | .label => declared.getD (before.getD Field.absent)
    | .instruction => keyword
    | .data => data
    | .comment => comment
    | _ => Field.absent
  gaps := {
    beforeLabel := ⟨0, leading⟩
    labelToInstruction :=
      match before with
      | some label => ⟨label.span.stop, keyword.span.start⟩
      | none => Span.none
    instructionToData :=
      if data.isAbsent then Span.none else ⟨keyword.span.stop, data.span.start⟩
    dataToComment :=
      match semicolon with
      | some byte => ⟨if data.isAbsent then keyword.span.stop else data.span.stop, byte⟩
      | none => Span.none }
  isJump := (Mnemonic.ofInstructionText? keyword.text).any Mnemonic.isJump

/-- What a line that is no assignment shows (`classify_instruction`). Without the blanks at its ends, its
code begins at the byte `leading` of the line. -/
def readBytes (raw code : Text) (leading : Nat) (semicolon : Option Nat) (comment : Field) :
    Except Fault Reading := do
  let code := Text.trim code
  let start ← searchByte code leading
  match keywordByte? (← regionFrom code start) with
  | none => return Reading.bare .other ⟨0, leading⟩ comment
  | some (found, keyword) =>
    let index := start + found
    let first := leading + index
    let last := first + utf8Size keyword
    let before ← beforeBytes code leading index
    let data ← Field.ofPiece (← bytes code (index + utf8Size keyword) (utf8Size code)) last
    let declared ← declaredBytes raw code leading semicolon
    return shown leading semicolon before declared ⟨keyword, ⟨first, last⟩⟩ data comment

end Instruction

/-! ### Registers -/

namespace Register

/-- The bytes of the registers in the text, which begins at `byte`; its first `skip` characters belong
to a register that has been taken. -/
def tokensFrom (byte skip : Nat) : Text → List Span
  | [] => []
  | c :: rest =>
    match skip with
    | skip + 1 => tokensFrom (byte + c.utf8Size) skip rest
    | 0 =>
      match at? (c :: rest) with
      | some register =>
        let width := register.spelling.length
        ⟨byte, byte + utf8Size ((c :: rest).take width)⟩ ::
          tokensFrom (byte + c.utf8Size) (width - 1) rest
      | none => tokensFrom (byte + c.utf8Size) 0 rest

/-- The register at the bytes of the text, as it is written there and with its span in the line in
which the text begins at `column`. -/
def ofToken (text : Text) (column : Nat) (token : Span) : Except Fault Field := do
  let columns ← token.toColumns text
  return ⟨← bytes text token.start token.stop, columns.shift column⟩

/-- The registers in the text, which begins at `column` of the line (`scan_registers`). -/
def scanBytes (text : Text) (column : Nat) : Except Fault (List Field) :=
  (tokensFrom 0 0 text).mapM (ofToken text column)

end Register

/-! ### Lines -/

namespace Line

/-- The code of the line and its comment, given the byte of the semicolon between them. -/
def cutBytes (raw : Text) (semicolon : Option Nat) : Except Fault (Text × Field) :=
  match semicolon with
  | some byte => do
    let comment := Field.ofHead (← bytes raw byte (utf8Size raw)) byte
    return (← bytes raw 0 byte, comment)
  | none => return (raw, Field.absent)

/-- What the line shows, with all spans in bytes (`classify_bytes`). -/
def readBytes (raw : Text) : Except Fault Reading := do
  let body := Text.trimStart raw
  if body.isEmpty then return Reading.bare .other Span.none Field.absent
  let leading ← difference (utf8Size raw) (utf8Size body)
  if body.head? = some ';' then
    return Reading.bare .comment ⟨0, leading⟩ (Field.ofHead body leading)
  let semicolon := Text.unquotedByte? ';' raw
  let (code, comment) ← cutBytes raw semicolon
  match ← Assignment.ofBytes code with
  | some a => return a.reading leading comment
  | none => Instruction.readBytes raw code leading semicolon comment

/-- What the line shows, with all spans in columns (`classify`). -/
def read (raw : Text) : Except Fault Reading := do
  let reading ← readBytes raw
  if Text.isAscii raw then return reading else reading.toColumns raw

end Line

/-!
## Assignments and operands by patterns

The pattern of an assignment takes as little as it can before a directive, and no newline, and after the
directive as many blanks as there are, at least one. Operands are read by a lexer with two rules: a register
is taken by the alternatives of its pattern, and any other character but a newline by itself. At every
place the rule counts that takes more and, if they take equally much, the one of higher priority; where no
rule takes anything, one character is an error.
-/

/-! ### Assignments -/

namespace Assignment

/-- How many characters a directive takes with which the text begins, if a blank follows it. -/
def operatorLength? (text : Text) : Option Nat :=
  (Pattern.directive.find? fun classes =>
    Pattern.begins classes text && text[classes.length]?.any Unicode.isBlank).map List.length

/-- The columns of the first directive with a blank behind it, counted from `column`, if no newline
precedes it. -/
def lazyFrom (column : Nat) : Text → Option Span
  | [] => none
  | c :: rest =>
    match operatorLength? (c :: rest) with
    | some length => some ⟨column, column + length⟩
    | none => if c = '\n' then none else lazyFrom (column + 1) rest

/-- The columns of the operator and of the blanks behind it (`ASSIGNMENT`). -/
def matchPattern? (code : Text) : Option (Span × Span) :=
  (lazyFrom 0 code).map fun operator =>
    (operator, ⟨operator.stop, operator.stop + Text.indentation (code.drop operator.stop)⟩)

/-- The name, the operator and the value that the pattern separates in the code (`parse`). -/
def fields? (code : Text) : Option (Field × Field × Field) :=
  (matchPattern? code).map fun (operator, gap) =>
    (Field.trimmed code 0 operator.start,
      ⟨Text.asciiUpper (operator.extract code), operator⟩,
      Field.trimmed code gap.stop code.length)

end Assignment

/-! ### Operands -/

namespace Operand

/-- What the lexer makes of a piece of an operand (`OperandToken`). -/
inductive Token where
  | register (register : Register)
  | other
  | error
  deriving DecidableEq, Repr

/-- How many characters the first rule takes. -/
def registerLength? (text : Text) : Option Nat :=
  ((Pattern.register.filter fun classes => Pattern.begins classes text).map List.length).max?

/-- How many characters the second rule takes. -/
def otherLength? : Text → Option Nat
  | [] => none
  | c :: _ => if c = '\n' then none else some 1

/-- The token of a piece that the first rule has taken; an error if the piece is no register after all. -/
def ofWritten (written : Text) : Token :=
  match Keyword.parse? written with
  | some register => .register register
  | none => .error

/-- The token that the text begins with and its length. The first rule has the higher priority. -/
def next (text : Text) : Token × Nat :=
  match registerLength? text, otherLength? text with
  | some length, some single =>
    if single ≤ length then (ofWritten (text.take length), length) else (.other, single)
  | some length, none => (ofWritten (text.take length), length)
  | none, some single => (.other, single)
  | none, none => (.error, 1)

/-- The tokens of the text, which begins at `byte`, with their bytes; its first `skip` characters belong
to a token that has been taken. -/
def tokensFrom (byte skip : Nat) : Text → List (Token × Span)
  | [] => []
  | c :: rest =>
    match skip with
    | skip + 1 => tokensFrom (byte + c.utf8Size) skip rest
    | 0 =>
      let (token, width) := next (c :: rest)
      (token, ⟨byte, byte + utf8Size ((c :: rest).take width)⟩) ::
        tokensFrom (byte + c.utf8Size) (width - 1) rest

/-- The bytes of the token, if it is a register. -/
def registerBytes? : Token × Span → Option Span
  | (.register _, bytes) => some bytes
  | _ => none

/-- The registers in the text, as they are written there (`scan_registers`). `base` is the span of the text
in a line, so its columns are no greater than the length of that line. A column of a register is added to
`base.start` without a check, and the sum is a column of the same line. -/
def registers (text : Text) (base : Span) : Except Fault (List Field) :=
  ((tokensFrom 0 0 text).filterMap registerBytes?).mapM (Register.ofToken text base.start)

end Operand
end AsmLens
