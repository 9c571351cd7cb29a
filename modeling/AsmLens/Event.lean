import AsmLens.Text

/-!
# Events

What the library reports besides its results. Every event has a level and one line of text.
-/
namespace AsmLens

/-- How important an event is. -/
inductive Level where
  | debug | info | error
  deriving DecidableEq, Repr

/-- The name of the level. -/
def Level.name : Level → Text
  | debug => "DEBUG"
  | info => "INFO"
  | error => "ERROR"

/-- What a name stands for in a document. -/
inductive NameKind where
  | label | variableName
  deriving DecidableEq, Repr

/-- The word for the kind. -/
def NameKind.name : NameKind → Text
  | label => "label"
  | variableName => "variable"

/-- Something worth reporting. -/
inductive Event where
  /-- A name is defined on a line although an earlier line defines it. -/
  | redefined (kind : NameKind) (name : Text) (line previous : Nat)
  /-- Indexing was cancelled when so many lines had been classified. -/
  | cancelled (lines : Nat)
  /-- A manual was read: so many instruction names, so many register rows. -/
  | manualRead (instructions registers : Nat)
  /-- A row of a table file is malformed. -/
  | malformedRow (file : Text) (row : Nat) (content : Text)
  /-- A document was indexed. -/
  | indexed (lines labelCount variableCount : Nat)
  /-- There is no hover text at the position. -/
  | nothingToShow (line column : Nat)
  /-- No definition was found for the position. -/
  | noDefinition (line column : Nat)
  /-- A run failed; the failure is shown in full. -/
  | scanFailed (failure : Text)
  deriving DecidableEq, Repr

namespace Event
open Text (decimal)

/-- The level of the event. -/
def level : Event → Level
  | redefined .. | cancelled .. | manualRead .. => .debug
  | malformedRow .. | scanFailed .. => .error
  | indexed .. | nothingToShow .. | noDefinition .. => .info

/-- The text of the event. -/
def message : Event → Text
  | redefined kind name line previous =>
    kind.name ++ " " ++ name ++ " is defined again on line " ++ decimal line ++
      "; the definition on line " ++ decimal previous ++ " is superseded"
  | cancelled lines => "indexing cancelled after " ++ decimal lines ++ " lines"
  | manualRead instructions registers =>
    "knowledge base has " ++ decimal instructions ++ " instructions and " ++ decimal registers ++
      " registers"
  | malformedRow file row content =>
    "Error parsing file '" ++ file ++ "' on line [" ++ decimal row ++ "]: '" ++ content ++ "'"
  | indexed lines labelCount variableCount =>
    "indexed " ++ decimal lines ++ " lines with " ++ decimal labelCount ++ " labels and " ++
      decimal variableCount ++ " variables"
  | nothingToShow line column => "nothing to show at " ++ decimal line ++ ":" ++ decimal column
  | noDefinition line column =>
    "no definition found for " ++ decimal line ++ ":" ++ decimal column
  | scanFailed failure => "scan failed: " ++ failure

/-- The level and the text. -/
def display (event : Event) : Text := event.level.name ++ " " ++ event.message

end Event
end AsmLens
