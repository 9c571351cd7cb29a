import AsmLens.Event
import AsmLens.Line
import Std.Data.TreeMap

/-!
# Documents

A document is the sequence of its classified lines, with the labels and the variables that they define. Its
outline lists these definitions as symbols.

* `rows_push`, `getElem?_positions_push`: what one more line changes. The name that it defines leads
  to it, and all else stays as it is.
* `length_outline`: the outline has one symbol for every variable and every label.
* `pairwise_outline`: the symbols are listed by line and, on one line, by column.
-/
namespace AsmLens

/-!
## Building a document

A document is built line by line: a line is put behind the others, and the name that it defines leads to it
from then on. Where the name led to another line before, that definition is superseded, which is reported. A
flag can end the work early; it is looked at before each line.
-/

/-- A numbered line of text that is not classified yet. -/
structure NumberedText where
  text : Text
  number : Nat
  deriving DecidableEq, Repr

/-- The line that the text is classified as. -/
def NumberedText.classify (t : NumberedText) : Line := Line.ofText t.text t.number

/-- The name that the line defines; a variable may be nameless. -/
def Line.definition? (line : Line) : Option (NameKind × Text) :=
  match line.kind with
  | .label => some (.label, (line.part .label).text)
  | .assignment => some (.variableName, (line.part .variableName).text)
  | .instruction | .comment | .other => none

/-- The lines of a source text and, for every name that they define, the position of the line that it
leads to (`DocumentIndex`). -/
structure Document where
  rows : Array Line
  labelPositions : Std.TreeMap Text Nat
  variablePositions : Std.TreeMap Text Nat

/-- A flag that asks to give up the work, as it is seen when so many texts have been classified and
the next one has been fetched. -/
abbrev CancelFlag := Nat → Bool

namespace Document

/-- The document without lines. -/
def empty : Document := ⟨#[], ∅, ∅⟩

/-- All the lines, in order. -/
def lines (document : Document) : List Line := document.rows.toList

/-- Where the names of the kind lead. -/
def positions (document : Document) : NameKind → Std.TreeMap Text Nat
  | .label => document.labelPositions
  | .variableName => document.variablePositions

/-- Makes the name lead to the position (`define`). -/
def define (document : Document) (kind : NameKind) (name : Text) (position : Nat) : Document :=
  match kind with
  | .label =>
    { document with labelPositions := document.labelPositions.insert name position }
  | .variableName =>
    { document with variablePositions := document.variablePositions.insert name position }

/-- The report that the line at the position supersedes the one that the name leads to so far. -/
def superseding? (document : Document) (kind : NameKind) (name : Text) (position : Nat) :
    Option Event := do
  let previous ← (document.positions kind)[name]?
  let line ← document.rows[position]?
  let superseded ← document.rows[previous]?
  return .redefined kind name line.number superseded.number

/-- Puts the line behind the others and makes the name that it defines lead to it. -/
def push (document : Document) (line : Line) : Document × List Event :=
  let position := document.rows.size
  let grown := { document with rows := document.rows.push line }
  match line.definition? with
  | some (kind, name) =>
    (grown.define kind name position, (grown.superseding? kind name position).toList)
  | none => (grown, [])

/-- Whether the work is to be given up (`is_cancelled`); without a flag it never is. -/
def isCancelled (flag : Option CancelFlag) (classified : Nat) : Bool :=
  flag.any fun raised => raised classified

/-- Classifies the texts one by one and puts them behind the lines of the document. The flag is
looked at when the next text is in hand; if it is raised then, that text is dropped. -/
def buildFrom (flag : Option CancelFlag) (document : Document) :
    List NumberedText → Document × List Event
  | [] => (document, [])
  | text :: rest =>
    if isCancelled flag document.rows.size then (document, [.cancelled document.rows.size])
    else
      let (grown, reports) := document.push text.classify
      let (built, later) := buildFrom flag grown rest
      (built, reports ++ later)

/-- The document of the texts, with the reports on the way (`build`). -/
def build (texts : List NumberedText) (flag : Option CancelFlag) : Document × List Event :=
  buildFrom flag empty texts

/-- The document of the texts, where the flag is raised when the text at `limit` is fetched, if
there is a limit. -/
def index (texts : List NumberedText) (limit : Option Nat) : Document × List Event :=
  build texts (limit.map fun n classified => n ≤ classified)

/-- The lines of the text, numbered from 0. -/
def numbered (text : Text) : List NumberedText :=
  (Text.splitLines text).zipIdx.map fun (line, number) => ⟨line, number⟩

/-- The lines of the text from the one with the number `first` up to the one with the number
`last`, both included. -/
def numberedRange (text : Text) (first last : Nat) : List NumberedText :=
  ((numbered text).drop first).takeWhile fun line => first ≤ line.number && line.number ≤ last

/-- The document of a whole text (`from_text`). -/
def ofText (text : Text) (flag : Option CancelFlag) : Document := (build (numbered text) flag).1

/-- The document of the lines of a text from the one with the number `first` up to the one with the
number `last`, both included (`from_text_range`). -/
def ofTextRange (text : Text) (first last : Nat) (flag : Option CancelFlag) : Document :=
  (build (numberedRange text first last) flag).1

/-- The line with the number (`line`). Numbers ascend, so there is one at most. -/
def line? (document : Document) (number : Nat) : Option Line :=
  document.lines.find? fun line => line.number == number

/-- The line with the number among the rows from `start` up to but not including `stop`: the row in
the middle decides in which half the search goes on. -/
def bisectFrom (rows : Array Line) (number start stop : Nat) : Option Line :=
  if start < stop then
    let middle := start + (stop - start) / 2
    match rows[middle]? with
    | some line =>
      if line.number = number then some line
      else if line.number < number then bisectFrom rows number (middle + 1) stop
      else bisectFrom rows number start middle
    | none => none
  else none
termination_by stop - start

/-- The line with the number, found by halves. -/
def bisect? (document : Document) (number : Nat) : Option Line :=
  bisectFrom document.rows number 0 document.rows.size

/-- The line that the name leads to. -/
def defining? (document : Document) (kind : NameKind) (name : Text) : Option Line := do
  let position ← (document.positions kind)[name]?
  document.rows[position]?

/-- The names of the kind, each with the line that it leads to. -/
def definitions (document : Document) (kind : NameKind) : Std.TreeMap Text Line :=
  (document.positions kind).filterMap fun _ position => document.rows[position]?

/-- The line that defines the label (`label`). -/
def labelLine? (document : Document) (name : Text) : Option Line := document.defining? .label name

/-- The line that defines the variable (`variable`). -/
def variableLine? (document : Document) (name : Text) : Option Line :=
  document.defining? .variableName name

/-- The labels with the lines that define them (`labels`). -/
def labelLines (document : Document) : Std.TreeMap Text Line := document.definitions .label

/-- The variables with the lines that define them (`variables`). -/
def variableLines (document : Document) : Std.TreeMap Text Line :=
  document.definitions .variableName

theorem getElem?_positions_define (document : Document) (kind other : NameKind)
    (name text : Text) (position : Nat) :
    ((document.define kind name position).positions other)[text]? =
      if kind = other ∧ name = text then some position else (document.positions other)[text]? := by
  cases kind <;> cases other <;>
    simp [define, positions, Std.TreeMap.getElem?_insert, Std.LawfulEqCmp.compare_eq_iff_eq]

theorem rows_push (document : Document) (line : Line) :
    (document.push line).1.rows = document.rows.push line := by
  unfold push
  cases line.definition? with
  | none => rfl
  | some definition => cases hk : definition.1 <;> simp [hk, define]

theorem getElem?_positions_push (document : Document) (line : Line) (kind : NameKind)
    (name : Text) :
    ((document.push line).1.positions kind)[name]? =
      if line.definition? = some (kind, name) then some document.rows.size
      else (document.positions kind)[name]? := by
  unfold push
  cases line.definition? with
  | none => cases kind <;> rfl
  | some definition =>
    simp only [getElem?_positions_define, Option.some.injEq, Prod.ext_iff]
    cases kind <;> rfl

theorem getElem?_definitions (document : Document) (kind : NameKind) (name : Text) :
    (document.definitions kind)[name]? = document.defining? kind name := by
  rw [definitions, Std.TreeMap.getElem?_filterMap']
  rfl

end Document

/-!
## The outline of a document

The symbols of a document are the names that it defines: its variables, by the directive that
defines them, and its labels. They are listed by the place of their definition.
-/

/-- What a symbol stands for. -/
inductive SymbolKind where
  /-- A variable defined by `EQU`. -/
  | constant
  /-- A variable defined by `WORD`. -/
  | variableName
  /-- A variable defined by `STR` or `TAB`. -/
  | array
  /-- A label. -/
  | function
  deriving DecidableEq, Repr

namespace SymbolKind

/-- The name of the kind. -/
def name : SymbolKind → Text
  | constant => "Constant"
  | variableName => "Variable"
  | array => "Array"
  | function => "Function"

/-- The kind of a variable with the directive (`of_directive`). -/
def ofDirective : Directive → SymbolKind
  | .equ => constant
  | .word => variableName
  | .str | .tab => array

end SymbolKind

/-- A name that a document defines (`DocumentSymbol`). `selection` is the name within its line. -/
structure DocumentSymbol where
  name : Text
  kind : SymbolKind
  directive : Option Directive
  number : Nat
  lineSpan : Span
  selection : Span
  deriving DecidableEq, Repr

namespace DocumentSymbol

/-- The symbol for a variable and the line that defines it. -/
def ofVariable (name : Text) (line : Line) : DocumentSymbol where
  name := name
  kind := (line.directive?.map SymbolKind.ofDirective).getD .array
  directive := line.directive?
  number := line.number
  lineSpan := line.span
  selection := (line.part .variableName).span

/-- The symbol for a label and the line that defines it. -/
def ofLabel (name : Text) (line : Line) : DocumentSymbol where
  name := name
  kind := .function
  directive := none
  number := line.number
  lineSpan := line.span
  selection := (line.part .label).span

/-- Whether a symbol may be listed before another: its line comes first or, on one line, it
does not begin after it. -/
def precedes (a b : DocumentSymbol) : Bool :=
  a.number < b.number || (a.number == b.number && a.selection.start ≤ b.selection.start)

theorem precedes_iff {a b : DocumentSymbol} :
    a.precedes b = true ↔
      a.number < b.number ∨ a.number = b.number ∧ a.selection.start ≤ b.selection.start := by
  simp [precedes]

theorem precedes_trans (a b c : DocumentSymbol) (hab : a.precedes b = true)
    (hbc : b.precedes c = true) : a.precedes c = true := by
  rw [precedes_iff] at *
  omega

theorem precedes_total (a b : DocumentSymbol) : (a.precedes b || b.precedes a) = true := by
  rw [Bool.or_eq_true, precedes_iff, precedes_iff]
  omega

end DocumentSymbol

namespace Document

/-- The symbols of the document by place (`document_symbols`); at one place variables come before labels,
and each by name. -/
def outline (document : Document) : List DocumentSymbol :=
  ((document.variableLines.toList.map fun (name, line) => DocumentSymbol.ofVariable name line) ++
    (document.labelLines.toList.map fun (name, line) => DocumentSymbol.ofLabel name line)).mergeSort
    DocumentSymbol.precedes

theorem length_outline (document : Document) :
    document.outline.length = document.variableLines.size + document.labelLines.size := by
  simp [outline, List.length_mergeSort, Std.TreeMap.length_toList]

theorem pairwise_outline (document : Document) :
    document.outline.Pairwise fun a b => a.precedes b = true :=
  List.pairwise_mergeSort DocumentSymbol.precedes_trans DocumentSymbol.precedes_total _

end Document
end AsmLens
