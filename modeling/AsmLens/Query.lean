import AsmLens.Constant
import AsmLens.Document
import AsmLens.Line.Bytes
import AsmLens.Manual

/-!
# Questions about a column

An editor has a column of a line and asks what is there: where the name is defined, and what is to be shown
of it. Both are answered by columns first, and then once more by bytes.
-/
namespace AsmLens

/-!
## Where a name is defined

The name at a position of a document is the word there. If a label has that name, it is meant, and
otherwise the variable of that name.
-/

/-- A place in a document (`Location`). -/
structure Location where
  number : Nat
  span : Span
  deriving DecidableEq, Repr

namespace Document

/-- Where the name is defined, as a label or else as a variable. -/
def locate? (document : Document) (name : Text) : Option Location :=
  match document.labelLine? name with
  | some line => some ⟨line.number, (line.part .label).span⟩
  | none => (document.variableLine? name).map fun line =>
      ⟨line.number, (line.part .variableName).span⟩

/-- Where the name at a position is defined (`find_definition`). -/
def definitionAt? (document : Document) (number column : Nat) : Option Location := do
  let line ← document.line? number
  let word ← Span.wordAt? line.raw column
  document.locate? (word.extract line.raw)

end Document
end AsmLens

/-!
## Hover text

What is shown for a column of a line: on the mnemonic, the manual's entry; on a register that the
manual describes, its entry; elsewhere in the data and in the value of an assignment, the constant
there in every notation. The text comes in paragraphs.

The constant at a column is the literal around it, or the whole field if that looks like one
literal, or the word there with the minus sign directly before it.
-/

namespace AsmLens.Hover

/-- The column after the quote that closes the literal opened at `opening`, or the field's end if
there is none in the field. -/
def literalEnd (raw : Text) (field : Span) (opening : Nat) : Nat :=
  match (Text.slice raw (opening + 1) field.stop).findIdx? (· == '\'') with
  | some offset => opening + 1 + offset + 1
  | none => field.stop

/-- Whether the text is long enough for a literal that is not empty, and begins and ends as one. -/
def looksLiteral (text : Text) : Bool :=
  3 ≤ text.length && text.head? == some '\'' && text.getLast? == some '\''

/-- The word at a column, with the minus sign directly before it in the field. -/
def signedWordAt? (raw : Text) (field : Span) (column : Nat) : Option Span :=
  (Span.wordAt? raw column).map fun word =>
    if field.start < word.start ∧ raw[word.start - 1]? = some '-' then
      ⟨word.start - 1, word.stop⟩
    else word

/-- Where the text of the constant at a column of the field is (`extract_constant`). -/
def constantSpanAt? (raw : Text) (field : Span) (column : Nat) : Option Span :=
  let unquoted :=
    if looksLiteral (field.extract raw) then some field else signedWordAt? raw field column
  match Text.openingQuote? raw column with
  | some opening =>
    if field.start ≤ opening then some ⟨opening, literalEnd raw field opening⟩ else unquoted
  | none => unquoted

/-- The values of the constant at a column of the field. -/
def constantAt? (raw : Text) (field : Span) (column : Nat) : Option (List Int) := do
  let span ← constantSpanAt? raw field column
  let values ← Constant.evaluate (span.extract raw)
  if values.isEmpty then none else some values

/-- The values at a column of the field, one paragraph for each (`constant_hover`). -/
def constantParagraphs? (raw : Text) (field : Span) (column : Nat) : Option (List Text) :=
  (constantAt? raw field column).map fun values =>
    values.map fun value => (Constant.Rendering.ofValue value).paragraph

/-- The description of the first register of the data at the column that the manual describes. -/
def registerEntryAt? (line : Line) (column : Nat) (manual : Manual) : Option Manual.RegisterEntry :=
  (line.registers.filter fun register => register.span.contains column).findSome?
    fun register => manual.register? register.text

/-- The paragraphs to show for a column of a line (`hover`). -/
def at? (line : Line) (column : Nat) (manual : Manual) : Option (List Text) :=
  let instruction := line.part .instruction
  let data := line.part .data
  let value := line.part .value
  if instruction.span.contains column then
    (manual.instruction? instruction.text).map Manual.InstructionEntry.paragraphs
  else if data.span.contains column then
    match registerEntryAt? line column manual with
    | some entry => some entry.paragraphs
    | none => constantParagraphs? line.raw data.span column
  else if value.span.contains column then constantParagraphs? line.raw value.span column
  else none

end AsmLens.Hover

/-!
## Queries by bytes

The same answers in the units of memory. The text of a span is the piece of the line between the bytes of its
two columns, the word at a column is found in what stands before the column and from it on, and the column
before a word is a difference. All columns come from somewhere else: from the spans of the line, from the
search for the open quote, from whoever asks.

Nothing in the steps says that columns are in order, that they lie on the line or that differences do
not fall below zero, so each of them can stop with a fault.
-/

namespace AsmLens

/-! ### Spans and words -/

namespace Text

/-- The characters from column `start` up to but not including column `stop`, both of which must be
columns of the text or its end. -/
def columns (text : Text) (start stop : Nat) : Except Fault Text :=
  if start ≤ stop ∧ stop ≤ text.length then pure (slice text start stop)
  else throw (.piece start stop)

/-- The last column at which a character passes the test. -/
def lastColumn? (test : Char → Bool) (text : Text) : Option Nat :=
  (text.reverse.findIdx? test).map fun behind => text.length - (behind + 1)

end Text

namespace Span
open Unicode (isWordChar)

/-- The text that the span covers in a line (`extract`); columns past the end of the line have the byte
of its end. -/
def extractBytes (span : Span) (line : Text) : Except Fault Text :=
  Text.bytes line (line.byteAt span.start) (line.byteAt span.stop)

/-- Where a word begins that includes the character after the text: behind the last character that
belongs to no word. -/
def wordStart (before : Text) : Nat :=
  match before.lastColumn? (fun c => !isWordChar c) with
  | some last => last + 1
  | .none => 0

/-- Where a word of the line ends that includes the character at the column, given the line from there
on: at the first character that belongs to no word. -/
def wordStop (raw : Text) (column : Nat) (after : Text) : Nat :=
  match after.findIdx? (fun c => !isWordChar c) with
  | some first => column + first
  | .none => raw.length

/-- The span of the word that includes the character at the column (`word_span_at`). -/
def wordBetween? (raw : Text) (column : Nat) : Except Fault (Option Span) := do
  if raw[column]?.any isWordChar then
    let before ← raw.columns 0 column
    let after ← raw.columns column raw.length
    return some ⟨wordStart before, wordStop raw column after⟩
  else return .none

end Span

/-! ### What is asked about a line -/

/-- Instruction text without the condition that follows its first dot (`strip_condition`). -/
def Mnemonic.stripConditionBytes (text : Text) : Except Fault Text :=
  match Text.findByte? (· == '.') text with
  | some dot => Text.bytes text 0 dot
  | none => return text

/-- The registers in the data, from left to right (`registers_in_data`). -/
def Line.registersBytes (line : Line) : Except Fault (List Field) :=
  let data := line.part .data
  if data.isAbsent then return [] else Register.scanBytes data.text data.span.start

namespace Hover

/-- The column after the quote that closes the literal opened at `opening`, or the field's end if
there is none in the field. -/
def literalEndBytes (raw : Text) (field : Span) (opening : Nat) : Except Fault Nat := do
  let rest ← Span.extractBytes ⟨opening + 1, field.stop⟩ raw
  return match rest.findIdx? (· == '\'') with
    | some offset => opening + 1 + offset + 1
    | none => field.stop

/-- Whether a minus sign of the field stands directly before the word. -/
def isSignedBytes (raw : Text) (field word : Span) : Except Fault Bool := do
  if field.start < word.start then
    let before ← Span.extractBytes ⟨← difference word.start 1, word.start⟩ raw
    return before == ['-']
  else return false

/-- The text of the constant at a column of the field that lies in no literal of the field. -/
def unquotedTextBytes? (raw : Text) (field : Span) (column : Nat) : Except Fault (Option Text) := do
  let text ← field.extractBytes raw
  if looksLiteral text then return some text
  match ← Span.wordBetween? raw column with
  | some word =>
    if ← isSignedBytes raw field word then
      return some (← Span.extractBytes ⟨← difference word.start 1, word.stop⟩ raw)
    else return some (← word.extractBytes raw)
  | none => return none

/-- The text of the constant at a column of the field (`extract_constant`). -/
def constantTextBytes? (raw : Text) (field : Span) (column : Nat) : Except Fault (Option Text) := do
  match Text.openingQuote? raw column with
  | some opening =>
    if field.start ≤ opening then
      return some (← Span.extractBytes ⟨opening, ← literalEndBytes raw field opening⟩ raw)
    else unquotedTextBytes? raw field column
  | none => unquotedTextBytes? raw field column

/-- The values at a column of the field, one paragraph for each (`constant_hover`). -/
def constantParagraphsBytes? (raw : Text) (field : Span) (column : Nat) :
    Except Fault (Option (List Text)) := do
  match ← constantTextBytes? raw field column with
  | some text =>
    return match Constant.evaluate text with
      | some (value :: values) =>
        some ((value :: values).map fun value => (Constant.Rendering.ofValue value).paragraph)
      | _ => none
  | none => return none

/-- The paragraphs to show for a column of a line (`hover`). -/
def atBytes? (line : Line) (column : Nat) (manual : Manual) :
    Except Fault (Option (List Text)) := do
  let instruction := line.part .instruction
  let data := line.part .data
  let value := line.part .value
  if ¬ instruction.isAbsent ∧ instruction.span.contains column then
    let name ← Mnemonic.stripConditionBytes instruction.text
    return (manual.instruction? name).map Manual.InstructionEntry.paragraphs
  else if data.span.contains column then
    let registers ← line.registersBytes
    match (registers.filter fun register => register.span.contains column).findSome?
        fun register => manual.register? register.text with
    | some entry => return some entry.paragraphs
    | none => constantParagraphsBytes? line.raw data.span column
  else if value.span.contains column then constantParagraphsBytes? line.raw value.span column
  else return none

end Hover

/-- Where the name at a position is defined (`find_definition`). -/
def Document.definitionAtBytes? (document : Document) (number column : Nat) :
    Except Fault (Option Location) := do
  match document.line? number with
  | some line =>
    match ← Span.wordBetween? line.raw column with
    | some word => return document.locate? (← word.extractBytes line.raw)
    | none => return none
  | none => return none

end AsmLens
