import AsmLens.Query

/-!
# How results are written

Every result has two forms: JSON for programs, and plain text for people to read.
-/
namespace AsmLens

/-!
## Values of JSON

Values of JSON without fractions, and how they are written: an object or an array has one entry
per line, two spaces deeper than the line it begins on, unless it is empty. In a string only the
double quote, the backslash and the characters below the space are escaped.
-/

/-- A JSON value. The members of an object keep their order. -/
inductive Json where
  | null
  | bool (value : Bool)
  | number (value : Nat)
  | string (text : Text)
  | array (items : List Json)
  | object (members : List (Text × Json))

namespace Json

/-- How a character is written in a string. -/
def escape (c : Char) : Text :=
  if c = '"' then "\\\""
  else if c = '\\' then "\\\\"
  else if c = '\x08' then "\\b"
  else if c = '\t' then "\\t"
  else if c = '\n' then "\\n"
  else if c = '\x0c' then "\\f"
  else if c = '\r' then "\\r"
  else if c < ' ' then "\\u" ++ Text.zeroPadded 4 (Nat.toDigits 16 c.toNat)
  else [c]

/-- The text between double quotes. -/
def quote (text : Text) : Text := '"' :: text.flatMap escape ++ ['"']

/-- A new line that is indented for the nesting depth. -/
def newline (depth : Nat) : Text := '\n' :: List.replicate (2 * depth) ' '

mutual

/-- The value as text that begins at the nesting depth. -/
def write (depth : Nat) : Json → Text
  | null => "null"
  | bool true => "true"
  | bool false => "false"
  | number value => Text.decimal value
  | string text => quote text
  | array [] => "[]"
  | array (item :: items) =>
    "[" ++ newline (depth + 1) ++ write (depth + 1) item ++ writeItems (depth + 1) items ++
      newline depth ++ "]"
  | object [] => "\x7b\x7d"
  | object ((name, value) :: members) =>
    "\x7b" ++ newline (depth + 1) ++ quote name ++ ": " ++ write (depth + 1) value ++
      writeMembers (depth + 1) members ++ newline depth ++ "\x7d"

/-- The items that follow another one. -/
def writeItems (depth : Nat) : List Json → Text
  | [] => []
  | item :: items => "," ++ newline depth ++ write depth item ++ writeItems depth items

/-- The members that follow another one. -/
def writeMembers (depth : Nat) : List (Text × Json) → Text
  | [] => []
  | (name, value) :: members =>
    "," ++ newline depth ++ quote name ++ ": " ++ write depth value ++ writeMembers depth members

end

/-- The value as a document of its own (`write_json`). -/
def display (json : Json) : Text := write 0 json

end Json

/-!
## The JSON form of results

Every result of an analysis has a JSON form, whose members are always present and in one order. An
absent part of a line is the empty text at columns 0 to 0.
-/

/-- The span by its two columns. -/
def Span.toJson (span : Span) : Json :=
  .object [("start", .number span.start), ("end", .number span.stop)]

/-- The field by its text and its span. -/
def Field.toJson (field : Field) : Json :=
  .object [("text", .string field.text), ("span", field.span.toJson)]

/-- The gaps by the parts that they lie between. -/
def Gaps.toJson (gaps : Gaps) : Json :=
  .object
    [ ("before_label", gaps.beforeLabel.toJson),
      ("label_to_instruction", gaps.labelToInstruction.toJson),
      ("instruction_to_data", gaps.instructionToData.toJson),
      ("data_to_comment", gaps.dataToComment.toJson) ]

/-- The line with all of its parts and gaps. -/
def Line.toJson (line : Line) : Json :=
  .object
    [ ("raw", .string line.raw),
      ("line_number", .number line.number),
      ("line_type", .string line.kind.name),
      ("label", (line.part .label).toJson),
      ("instruction", (line.part .instruction).toJson),
      ("data", (line.part .data).toJson),
      ("comment", (line.part .comment).toJson),
      ("variable", (line.part .variableName).toJson),
      ("operator", (line.part .operator).toJson),
      ("value", (line.part .value).toJson),
      ("gaps", line.gaps.toJson),
      ("jump_instruction", .bool line.isJump) ]

/-- The names with the numbers of the lines that define them. -/
def Document.namesToJson (names : Std.TreeMap Text Line) : Json :=
  .object (names.toList.map fun (name, line) => (name, .number line.number))

/-- The document with its lines and its names (`Report`). -/
def Document.toJson (document : Document) : Json :=
  .object
    [ ("lines", .array (document.lines.map Line.toJson)),
      ("labels", namesToJson document.labelLines),
      ("variables", namesToJson document.variableLines) ]

/-- The symbol, with its directive if it is a variable. -/
def DocumentSymbol.toJson (symbol : DocumentSymbol) : Json :=
  .object
    [ ("name", .string symbol.name),
      ("kind", .string symbol.kind.name),
      ("directive", (symbol.directive.map fun d => Json.string (Keyword.title d)).getD .null),
      ("line_number", .number symbol.number),
      ("line_span", symbol.lineSpan.toJson),
      ("selection", symbol.selection.toJson) ]

/-- The place by its line and its span. -/
def Location.toJson (location : Location) : Json :=
  .object [("line_number", .number location.number), ("span", location.span.toJson)]

/-- The paragraphs of a hover text. -/
def Hover.toJson (paragraphs : List Text) : Json :=
  .object [("contents", .array (paragraphs.map .string))]

end AsmLens

/-!
## Plain text

Every result has a form in plain text. The listing of a document has one line for each of its
lines: the number, the kind, and the parts that are present, each with its span and its quoted
text. The outline has one line for each symbol.
-/

namespace AsmLens.Listing

/-- The parts of a line in the order in which they are listed. -/
def parts : List Part := [.label, .instruction, .data, .variableName, .operator, .value, .comment]

/-- The word for a part. -/
def partName : Part → Text
  | .label => "label"
  | .instruction => "instruction"
  | .data => "data"
  | .comment => "comment"
  | .variableName => "variable"
  | .operator => "operator"
  | .value => "value"

/-- A part with its span and its quoted text, whose characters are written by `write`; nothing if the
line does not have the part. -/
def ofPart (write : Char → Text) (line : Line) (part : Part) : Text :=
  let field := line.part part
  if field.isAbsent then []
  else
    " " ++ partName part ++ "[" ++ field.span.display ++ "]=" ++
      Text.Quoted.encodeWith write field.text

/-- A line of the document, without its newline; `write` writes the characters of quoted texts. -/
def ofLineWith (write : Char → Text) (line : Line) : Text :=
  Text.padLeft 5 (Text.decimal line.number) ++ " " ++ Text.padRight 11 line.kind.name ++
    parts.flatMap (ofPart write line)

/-- A symbol, without its newline. -/
def ofSymbol (symbol : DocumentSymbol) : Text :=
  Text.padLeft 5 (Text.decimal symbol.number) ++ " " ++ Text.padRight 9 symbol.kind.name ++ " " ++
    symbol.name ++ " [" ++ symbol.selection.display ++ "]"

/-- A place in the document, without its newline. -/
def ofLocation (location : Location) : Text :=
  Text.decimal location.number ++ ":" ++ location.span.display

/-- The lines, each with a newline after it. -/
def unlines (lines : List Text) : Text := lines.flatMap fun line => line ++ ['\n']

/-- The listing of a document (`write_listing`); `write` writes the characters of quoted texts. -/
def ofDocumentWith (write : Char → Text) (document : Document) : Text :=
  unlines (document.lines.map (ofLineWith write))

/-- The listing of a document. -/
def ofDocument (document : Document) : Text := ofDocumentWith Text.Quoted.escape document

/-- The listing of an outline. -/
def ofOutline (symbols : List DocumentSymbol) : Text := unlines (symbols.map ofSymbol)

end AsmLens.Listing
