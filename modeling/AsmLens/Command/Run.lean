import AsmLens.Command.Arguments
import AsmLens.Output

/-!
# What the command does

The command indexes its input, loads the manual if it is told where that is, and answers the queries it is
given, one after the other. Without a query it shows the whole document. If the input or the manual cannot be
had, it shows nothing but the reason, and reports it.
-/
namespace AsmLens.Command

/-! ## A run as a whole -/

/-! ### What a run leaves behind -/

/-- Why a run fails (`Fail`). -/
inductive Failure where
  | unreadable (failure : ReadFailure)
  | noManual (error : Manual.LoadError)
  deriving DecidableEq, Repr

/-- The wording of the reason. -/
def Failure.message : Failure → Text
  | unreadable failure => failure.message
  | noManual error => error.message

/-- The reason in full. -/
def Failure.detail : Failure → Text
  | unreadable failure =>
    "ReadInput(" ++ Text.Quoted.encode failure.path ++ ", " ++ failure.cause.detail ++ ")"
  | noManual error => "Knowledge(" ++ error.detail ++ ")"

/-- The report of the failure. -/
def Failure.event (failure : Failure) : Event := .scanFailed failure.detail

/-- What a run leaves behind: the exit code, what it writes, and the events on the way. -/
structure Outcome where
  exit : UInt32
  stdout : Text
  stderr : Text
  events : List Event
  deriving DecidableEq, Repr

namespace Outcome

/-- What is left behind after a failure that follows the events. The failure itself is reported last,
and nothing has been written to the output. -/
def failed (failure : Failure) (events : List Event) : Outcome :=
  ⟨1, [], failure.message, events ++ [failure.event]⟩

/-- The events that are shown: all but those for debugging. -/
def shownEvents (outcome : Outcome) : List Event :=
  outcome.events.filter fun event => event.level != .debug

/-- The lines that show these events. -/
def shownLines (outcome : Outcome) : List Text :=
  outcome.shownEvents.map fun event => Terminal.showControls event.display

/-- The lines that show the events before the last one if that reports the failure, which `stderr`
words, too. -/
def log (outcome : Outcome) : List Text :=
  if outcome.exit = 1 then outcome.shownLines.dropLast else outcome.shownLines

end Outcome

/-! ### Answers -/

/-- What is written for a query, and what is reported. -/
structure Answer where
  output : Text
  events : List Event
  deriving DecidableEq, Repr

namespace Answer

/-- The answer in JSON. -/
def ofJson (json : Json) : Answer := ⟨json.display ++ ['\n'], []⟩

/-- The result in JSON if that is asked for; otherwise its plain form, and the report if there is
no result. -/
def ofResult? {α : Type} (json : Bool) (toJson : α → Json) (plain : α → Text) (report : Event)
    (result : Option α) : Answer :=
  if json then ofJson ((result.map toJson).getD .null)
  else
    match result with
    | some found => ⟨plain found, []⟩
    | none => ⟨[], [report]⟩

end Answer

/-- The hover text at a position of a document. -/
def hoverAt? (document : Document) (manual : Manual) (position : Position) : Option (List Text) :=
  (document.line? position.line).bind fun line => Hover.at? line position.column manual

/-- The answer to a query. -/
def answer (json : Bool) (document : Document) (manual : Manual) : Query → Answer
  | .symbols =>
    let symbols := document.outline
    if json then Answer.ofJson (.array (symbols.map DocumentSymbol.toJson))
    else ⟨Listing.ofOutline symbols, []⟩
  | .hover position =>
    Answer.ofResult? json Hover.toJson Listing.unlines
      (.nothingToShow position.line position.column) (hoverAt? document manual position)
  | .definition position =>
    Answer.ofResult? json Location.toJson
      (fun location => Listing.unlines [Listing.ofLocation location])
      (.noDefinition position.line position.column)
      (document.definitionAt? position.line position.column)

/-- The whole document, in JSON or as a listing. -/
def showDocument (json : Bool) (document : Document) : Answer :=
  if json then Answer.ofJson document.toJson else ⟨Listing.ofDocument document, []⟩

/-- The answers to all queries, or the whole document if there is none. -/
def answers (options : Options) (document : Document) (manual : Manual) : List Answer :=
  match options.queries with
  | [] => [showDocument options.json document]
  | queries => queries.map (answer options.json document manual)

/-! ### Runs -/

/-- The manual that the options name, with the events of loading it; no manual is an empty one. -/
def loadManual (sources : Text → Source) (options : Options) :
    Except Manual.LoadError Manual × List Event :=
  match options.docs with
  | some directory => Manual.load sources directory
  | none => (.ok Manual.empty, [])

/-- The run of the command (`run`, with the report of its failure by `run_scanner`), where `sources`
says what paths lead to. -/
def run (sources : Text → Source) (options : Options) : Outcome :=
  match (sources options.input).read options.input with
  | .error failure => Outcome.failed (.unreadable failure) []
  | .ok text =>
    let (document, redefined) := Document.index (Document.numbered text) none
    let indexed : Event :=
      .indexed document.lines.length document.labelLines.size document.variableLines.size
    let (manual, loaded) := loadManual sources options
    let events := redefined ++ [indexed] ++ loaded
    match manual with
    | .error error => Outcome.failed (.noManual error) events
    | .ok manual =>
      let given := answers options document manual
      ⟨0, given.flatMap Answer.output, [], events ++ given.flatMap Answer.events⟩

/-- The command with the arguments (`main`). How they are read is no matter of the command: `parser` is
given from outside, and what it refuses does not come to a run. -/
def scan {Refusal : Type} (parser : List Text → Except Refusal Options) (sources : Text → Source)
    (arguments : List Text) : Except Refusal Outcome :=
  (parser arguments).map (run sources)

/-- The paths that a run looks at. -/
def Options.paths (options : Options) : List Text :=
  options.input ::
    match options.docs with
    | some directory =>
      [Manual.tablePath directory .instructions, Manual.tablePath directory .registers]
    | none => []

/-- What is left behind when the arguments do not lead to a run. Of the report of a reason only the
first line is written, and that without the sequences that a terminal would act upon. The texts of help
and version are left out. -/
def Stop.outcome : Stop → Outcome
  | invalid error => ⟨2, [], (Terminal.strip error.report).takeWhile (· != '\n'), []⟩
  | help | version => ⟨0, [], [], []⟩

/-- What the executable leaves behind. -/
def runArguments (sources : Text → Source) (arguments : List Text) : Outcome :=
  match scan parseArguments sources arguments with
  | .ok outcome => outcome
  | .error stop => stop.outcome

/-!
## The command step by step

The same run as a sequence of steps that leave their traces where they are taken: a step writes a piece
of output or reports an event, and a step that fails ends the run with all the traces left so far. Every
piece says what it is written for, a query or the whole document.
-/

/-- What a piece of output is written for. -/
inductive Subject where
  | wholeDocument
  | query (query : Query)
  deriving DecidableEq, Repr

/-- A piece of output. -/
structure Piece where
  subject : Subject
  text : Text
  deriving DecidableEq, Repr

/-- The traces of a run: what it has written and what it has reported so far. -/
structure Traces where
  written : List Piece
  events : List Event
  deriving DecidableEq, Repr

/-- What the pieces hold that is written for the subject. -/
def textFor (subject : Subject) (pieces : List Piece) : Text :=
  (pieces.filter fun piece => piece.subject = subject).flatMap Piece.text

/-- No traces. -/
def Traces.none : Traces := ⟨[], []⟩

/-- The traces, and others behind them. -/
instance : Append Traces where
  append first later := ⟨first.written ++ later.written, first.events ++ later.events⟩

/-- Steps of a run, each of which may fail and leaves traces. -/
abbrev Steps : Type → Type := ExceptT Failure (StateM Traces)

namespace Steps

/-- Reports the event. -/
def report (event : Event) : Steps Unit := modify fun traces => traces ++ ⟨[], [event]⟩

/-- Writes the text for the subject. -/
def write (subject : Subject) (text : Text) : Steps Unit :=
  modify fun traces => traces ++ ⟨[⟨subject, text⟩], []⟩

/-- The text of the input. -/
def readInput (sources : Text → Source) (options : Options) : Steps Text :=
  match (sources options.input).read options.input with
  | .ok text => return text
  | .error failure => throw (.unreadable failure)

/-- The document of the text. -/
def index (text : Text) : Steps Document := do
  let (document, redefined) := Document.index (Document.numbered text) none
  redefined.forM report
  report <|
    .indexed document.lines.length document.labelLines.size document.variableLines.size
  return document

/-- The manual that is read, with the reports of reading it. -/
def obtain (reading : Manual.Reporting Manual.LoadError Manual) : Steps Manual :=
  ExceptT.mk fun traces =>
    let (result, events) := reading.run.run traces.events
    (result.mapError .noManual, { traces with events })

/-- The manual that the options name; no manual is an empty one. -/
def loadManual (sources : Text → Source) (options : Options) : Steps Manual :=
  match options.docs with
  | some directory => obtain (Manual.readDirectory sources directory)
  | none => return Manual.empty

end Steps

end AsmLens.Command
