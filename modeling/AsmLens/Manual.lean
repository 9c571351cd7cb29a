import AsmLens.Event
import AsmLens.Source
import Std.Data.TreeMap

/-!
# The manual

The manual holds what is known of the instructions and the registers, for look-up by name. It is read from
two tables, which are texts or files of one directory; a malformed row makes both useless.
-/
namespace AsmLens.Manual

/-!
## Entries

The manual describes instructions and registers in two tables, one entry per row. The fields of a
row are separated by semicolons:

* an instruction: name, operand format, description, flags, and perhaps a fifth field that is
  `true` for a pseudo-instruction;
* a register: name, description, aliases separated by commas.

Names are put into upper case; fields that follow the last one needed are ignored.
-/

/-- The report that a row has fewer fields than its table needs. -/
structure TooFewFields where
  needed : Nat
  found : Nat
  deriving DecidableEq, Repr

/-- The wording of the report. -/
def TooFewFields.message (few : TooFewFields) : Text :=
  "expected at least " ++ Text.decimal few.needed ++ " fields separated by ';' but found " ++
    Text.decimal few.found

/-- The flags that an instruction may change, in the order in which they are listed (`FLAG_LETTERS`). -/
def flagLetters : Text := "ZCNOE"

/-- The description of an instruction (`InstructionDoc`). -/
structure InstructionEntry where
  name : Text
  format : Text
  description : Text
  flags : Text
  pseudo : Bool
  deriving DecidableEq, Repr

namespace InstructionEntry

/-- The entry that the row of the instruction table gives (`from_row`). -/
def ofRow (row : Text) : Except TooFewFields InstructionEntry :=
  match row.splitOn ';' with
  | name :: format :: description :: flags :: rest =>
    .ok
      { name := Text.upperCase name
        format := format
        description := description
        flags := flagLetters.filter fun flag => (Text.upperCase flags).contains flag
        pseudo := rest.head?.any fun field => Text.trim field == "true".toList }
  | fields => .error ⟨4, fields.length⟩

/-- What is said after the name of a pseudo-instruction. -/
def pseudoNote (entry : InstructionEntry) : Text :=
  if entry.pseudo then " (pseudo-instruction)" else ""

/-- The paragraph on the flags, if there are any. -/
def flagParagraph? (entry : InstructionEntry) : Option Text :=
  if entry.flags.isEmpty then none else some ("**Flags**: " ++ entry.flags)

/-- The paragraphs that describe the instruction (`render_instruction`). -/
def paragraphs (entry : InstructionEntry) : List Text :=
  ("**" ++ entry.name ++ "**" ++ entry.pseudoNote ++ ": *" ++ entry.format ++ "*") ::
    (entry.flagParagraph?.toList ++ [entry.description])

end InstructionEntry

/-- The description of a register (`RegisterDoc`). -/
structure RegisterEntry where
  name : Text
  description : Text
  aliases : List Text
  deriving DecidableEq, Repr

namespace RegisterEntry

/-- The names in a list that is separated by commas, without blanks around them and without the
empty ones. -/
def aliasesOf (field : Text) : List Text :=
  ((field.splitOn ',').map Text.trim).filter fun name => !name.isEmpty

/-- The entry that the row of the register table gives (`from_row`). -/
def ofRow (row : Text) : Except TooFewFields RegisterEntry :=
  match row.splitOn ';' with
  | name :: description :: aliases :: _ =>
    .ok
      { name := Text.upperCase name
        description := description
        aliases := aliasesOf aliases }
  | fields => .error ⟨3, fields.length⟩

/-- Every name of the register in upper case: its aliases and, last, its own. -/
def names (entry : RegisterEntry) : List Text := entry.aliases.map Text.upperCase ++ [entry.name]

/-- The aliases in parentheses, if there are any. -/
def aliasNote (entry : RegisterEntry) : Text :=
  if entry.aliases.isEmpty then ""
  else " (" ++ (List.intercalate ", ".toList entry.aliases : Text) ++ ")"

/-- The paragraphs that describe the register (`render_register`). -/
def paragraphs (entry : RegisterEntry) : List Text :=
  ["Register **" ++ entry.name ++ "**" ++ entry.aliasNote, entry.description]

end RegisterEntry
end AsmLens.Manual

/-!
## Look-up by name

Of several instructions with one name the last counts. Of the names of registers, whether proper
names or aliases, the last one read counts; the aliases of a row are read before its name.
-/

namespace AsmLens

namespace Manual

/-- A table of the manual (`Table`). -/
inductive Table where
  | instructions | registers
  deriving DecidableEq, Repr

/-- The file that holds the table (`file_name`). -/
def Table.fileName : Table → Text
  | instructions => "instructions.csv"
  | registers => "registers.csv"

/-- The word for the table. -/
def Table.title : Table → Text
  | instructions => "Instructions"
  | registers => "Registers"

/-- A row that is no entry of its table. Rows are counted from 0, empty ones included. -/
structure MalformedRow where
  table : Table
  row : Nat
  content : Text
  cause : TooFewFields
  deriving DecidableEq, Repr

/-- The wording of the report. -/
def MalformedRow.message (malformed : MalformedRow) : Text :=
  "error parsing file '" ++ malformed.table.fileName ++ "' on line [" ++
    Text.decimal malformed.row ++ "]: '" ++ malformed.content ++ "': " ++ malformed.cause.message

/-- The event that goes with the report. -/
def MalformedRow.event (malformed : MalformedRow) : Event :=
  .malformedRow malformed.table.fileName malformed.row malformed.content

/-- The entries of the rows, the first of which has the number `row` (`parse_rows`). Empty rows are
passed over and the first malformed one ends the reading. -/
def entriesFrom {Entry : Type} (table : Table) (ofRow : Text → Except TooFewFields Entry)
    (row : Nat) : List Text → Except MalformedRow (List Entry)
  | [] => .ok []
  | content :: rest =>
    if content.isEmpty then entriesFrom table ofRow (row + 1) rest
    else
      match ofRow content with
      | .ok entry => (entriesFrom table ofRow (row + 1) rest).map (entry :: ·)
      | .error cause => .error ⟨table, row, content, cause⟩

/-- The entries of a table's text. -/
def entries {Entry : Type} (table : Table) (ofRow : Text → Except TooFewFields Entry)
    (text : Text) : Except MalformedRow (List Entry) :=
  entriesFrom table ofRow 0 (Text.splitLines text)

end Manual

/-- The descriptions of instructions and registers, by name in upper case (`KnowledgeBase`). -/
structure Manual where
  instructions : Std.TreeMap Text Manual.InstructionEntry
  registers : List Manual.RegisterEntry
  registerNames : Std.TreeMap Text Manual.RegisterEntry

namespace Manual

/-- The manual that describes nothing. -/
def empty : Manual := ⟨∅, [], ∅⟩

/-- The manual with the entries. -/
def ofEntries (instructions : List InstructionEntry) (registers : List RegisterEntry) : Manual where
  instructions := instructions.foldl (fun known entry => known.insert entry.name entry) ∅
  registers := registers
  registerNames :=
    registers.foldl (fun known entry =>
      entry.names.foldl (fun known name => known.insert name entry) known) ∅

/-- Reads the manual from the texts of its tables (`parse`). -/
def parse (instructions registers : Text) : Except MalformedRow Manual := do
  let instructions ← entries .instructions InstructionEntry.ofRow instructions
  let registers ← entries .registers RegisterEntry.ofRow registers
  return ofEntries instructions registers

/-- The event that goes with reading the manual. -/
def parseEvent : Except MalformedRow Manual → Event
  | .ok manual => .manualRead manual.instructions.size manual.registers.length
  | .error malformed => malformed.event

/-- The description of the instruction with the name, in any mixture of case. -/
def instruction? (manual : Manual) (name : Text) : Option InstructionEntry :=
  manual.instructions[Text.upperCase name]?

/-- The description of the register with the name or alias, in any mixture of case. -/
def register? (manual : Manual) (name : Text) : Option RegisterEntry :=
  manual.registerNames[Text.upperCase name]?

/-- The descriptions of all instructions, by ascending name. -/
def instructionList (manual : Manual) : List InstructionEntry :=
  manual.instructions.toList.map Prod.snd

/-- Where the register of each name stands among the registers. -/
def registerPositions (manual : Manual) : Std.TreeMap Text Nat :=
  manual.registers.zipIdx.foldl (fun known placed =>
    placed.1.names.foldl (fun known name => known.insert name placed.2) known) ∅

end Manual
end AsmLens

/-!
## Loading the manual from a directory

The two tables are files of one directory. Both are read before either is taken apart, so a table
that cannot be read is reported before a malformed row of the other.
-/

namespace AsmLens.Manual

/-- Why the manual of a directory is not available (`KnowledgeBaseError`). -/
inductive LoadError where
  | unreadable (failure : ReadFailure)
  | malformed (row : MalformedRow)
  deriving DecidableEq, Repr

/-- The wording of the reason. -/
def LoadError.message : LoadError → Text
  | unreadable failure => failure.message
  | malformed row => row.message

/-- The reason in full. -/
def LoadError.detail : LoadError → Text
  | unreadable failure =>
    "Io \x7b path: " ++ Text.Quoted.encode failure.path ++ ", error: " ++ failure.cause.detail ++
      " \x7d"
  | malformed row =>
    "MalformedRow \x7b table: " ++ row.table.title ++ ", line_index: " ++ Text.decimal row.row ++
      ", content: " ++ Text.Quoted.encode row.content ++ ", msg: " ++
      Text.Quoted.encode row.cause.message ++ " \x7d"

/-- The path of a file in a directory. -/
def pathIn (directory file : Text) : Text :=
  if directory.isEmpty ∨ directory.getLast? = some '/' then directory ++ file
  else directory ++ "/" ++ file

/-- The path of a table in a directory. -/
def tablePath (directory : Text) (table : Table) : Text := pathIn directory table.fileName

/-- Loads the manual from a directory, where `sources` says what paths lead to, with the events that go
with it (`load`). -/
def load (sources : Text → Source) (directory : Text) : Except LoadError Manual × List Event :=
  let read (table : Table) :=
    let path := tablePath directory table
    (sources path).read path
  match read .instructions with
  | .error failure => (.error (.unreadable failure), [])
  | .ok instructions =>
    match read .registers with
    | .error failure => (.error (.unreadable failure), [])
    | .ok registers =>
      let result := parse instructions registers
      (result.mapError LoadError.malformed, [parseEvent result])

/-!
## Reading the manual with its reports

The same reading with every event reported where it comes up: an error when the rows of a table have
led to a malformed one, and the sizes of the manual when all of it has been read. A failure ends the
reading and leaves the reports as they are.
-/

/-- A reading that may fail and that reports events on the way. -/
abbrev Reporting (ε : Type) : Type → Type := ExceptT ε (StateM (List Event))

/-- Puts the event behind the others. -/
def report {ε : Type} (event : Event) : Reporting ε Unit := modify fun log => log ++ [event]

/-- The entries of the rows, the first of which has the number `row` (`parse_rows`). -/
def readRows {Entry : Type} (table : Table) (ofRow : Text → Except TooFewFields Entry) (row : Nat) :
    List Text → Reporting MalformedRow (List Entry)
  | [] => return []
  | content :: rest =>
    if content.isEmpty then readRows table ofRow (row + 1) rest
    else
      match ofRow content with
      | .ok entry => do return entry :: (← readRows table ofRow (row + 1) rest)
      | .error cause => do
        report (.malformedRow table.fileName row content)
        throw ⟨table, row, content, cause⟩

/-- The manual of the texts of its tables (`parse`). -/
def readTables (instructions registers : Text) : Reporting MalformedRow Manual := do
  let instructions ←
    readRows .instructions InstructionEntry.ofRow 0 (Text.splitLines instructions)
  let registers ← readRows .registers RegisterEntry.ofRow 0 (Text.splitLines registers)
  let manual := ofEntries instructions registers
  report (.manualRead manual.instructions.size manual.registers.length)
  return manual

/-- The text of a table in a directory. -/
def readTable (sources : Text → Source) (directory : Text) (table : Table) :
    Reporting LoadError Text :=
  let path := tablePath directory table
  match (sources path).read path with
  | .ok text => return text
  | .error failure => throw (.unreadable failure)

/-- The manual of a directory (`load`). -/
def readDirectory (sources : Text → Source) (directory : Text) : Reporting LoadError Manual := do
  let instructions ← readTable sources directory .instructions
  let registers ← readTable sources directory .registers
  (readTables instructions registers).adapt LoadError.malformed

end AsmLens.Manual
