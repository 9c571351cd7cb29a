import AsmLens.Command.Options
import AsmLens.Terminal

/-!
# A reader of arguments

What the command does depends on its options, and it does not matter how they were read from the
arguments (`scan` takes any reader). Here is the one that the executable uses; no result rests on it.

The command takes the path of its input, two switches (`--json`, `--symbols`) and three options with
a value (`--docs`, `--hover`, `--definition`). An option's value follows it as the next argument or,
after an equals sign, in the same one. After `--` every argument is a path.

Arguments are read from left to right. What an argument gives to an option or to the input is only
*pending* at first: it is settled, and its faults are reported, when the next thing is given or
when the arguments end. A thing that is given complete in one argument is settled at once. An
argument that fits nowhere is reported without regard to what is pending.
-/
namespace AsmLens.Command
open Terminal (emphasised)

/-- What can be given on the command line. -/
inductive Slot where
  | input | docs | json | symbols | hover | definition
  deriving DecidableEq, Repr

namespace Slot

/-- How the slot is shown in messages. -/
def display : Slot → Text
  | input => "<INPUT>"
  | docs => "--docs <DOCS>"
  | json => "--json"
  | symbols => "--symbols"
  | hover => "--hover <LINE:COLUMN>"
  | definition => "--definition <LINE:COLUMN>"

/-- Whether the slot takes a value. -/
def takesValue : Slot → Bool
  | json | symbols => false
  | input | docs | hover | definition => true

end Slot

/-- What a long option asks for. -/
inductive LongOption where
  | slot (slot : Slot)
  | help
  | version
  deriving DecidableEq, Repr

/-- The long options by their names, without the dashes. -/
def longOptions : List (Text × LongOption) :=
  [ ("docs", .slot .docs), ("json", .slot .json), ("symbols", .slot .symbols),
    ("hover", .slot .hover), ("definition", .slot .definition), ("help", .help),
    ("version", .version) ]

/-- How the long option is shown in messages. -/
def LongOption.display : LongOption → Text
  | slot s => s.display
  | help => "--help"
  | version => "--version"

/-- Why the arguments cannot be used. -/
inductive ArgumentError where
  | unexpected (argument : Text)
  | unexpectedValue (value : Text) (switch : LongOption)
  | missingValue (slot : Slot)
  | repeated (slot : Slot)
  | badPosition (slot : Slot) (value : Text) (cause : Position.PositionError)
  | missingInput
  deriving DecidableEq, Repr

/-- The wording of the reason. What was given, and where, is emphasised; the cause of a bad position
repeats what was given as it is. -/
def ArgumentError.message : ArgumentError → Text
  | unexpected argument => "unexpected argument '" ++ emphasised argument ++ "' found"
  | unexpectedValue value switch =>
    "unexpected value '" ++ emphasised value ++ "' for '" ++ emphasised switch.display ++
      "' found; no more were expected"
  | missingValue slot =>
    "a value is required for '" ++ emphasised slot.display ++ "' but none was supplied"
  | repeated slot =>
    "the argument '" ++ emphasised slot.display ++ "' cannot be used multiple times"
  | badPosition slot value cause =>
    "invalid value '" ++ emphasised value ++ "' for '" ++ emphasised slot.display ++ "': " ++
      cause.message
  | missingInput => "the following required arguments were not provided:"

/-- The report of the reason, which points to the help. -/
def ArgumentError.report (error : ArgumentError) : Text :=
  emphasised "error:" ++ " " ++ error.message ++ "\n\nFor more information, try '" ++
    emphasised "--help" ++ "'.\n"

/-- Why reading the arguments ends before the command can run. -/
inductive Stop where
  | invalid (error : ArgumentError)
  | help
  | version
  deriving DecidableEq, Repr

/-- What is settled so far. -/
structure Settled where
  input : Option Text
  docs : Option Text
  json : Bool
  symbols : Bool
  hover : Option Position
  definition : Option Position
  deriving DecidableEq, Repr

/-- Nothing is settled. -/
def Settled.nothing : Settled := ⟨none, none, false, false, none, none⟩

/-- Whether the slot has been given. -/
def Settled.has (settled : Settled) : Slot → Bool
  | .input => settled.input.isSome
  | .docs => settled.docs.isSome
  | .json => settled.json
  | .symbols => settled.symbols
  | .hover => settled.hover.isSome
  | .definition => settled.definition.isSome

/-- A path that must not be empty. -/
def readPath (slot : Slot) (value : Text) : Except ArgumentError Text :=
  if value.isEmpty then .error (.missingValue slot) else .ok value

/-- A position. -/
def readPosition (slot : Slot) (value : Text) : Except ArgumentError Position :=
  match Position.parse value with
  | .ok position => .ok position
  | .error cause => .error (.badPosition slot value cause)

/-- The value put into a slot that has none. -/
def Settled.put (settled : Settled) (slot : Slot) (value : Text) : Except ArgumentError Settled :=
  match slot with
  | .input => (readPath slot value).map fun path => { settled with input := some path }
  | .docs => (readPath slot value).map fun path => { settled with docs := some path }
  | .json => .ok { settled with json := true }
  | .symbols => .ok { settled with symbols := true }
  | .hover => (readPosition slot value).map fun position => { settled with hover := some position }
  | .definition =>
    (readPosition slot value).map fun position => { settled with definition := some position }

/-- A slot that is being given; an option may still lack its value. -/
structure Pending where
  slot : Slot
  value : Option Text
  deriving DecidableEq, Repr

/-- Settles what was given for one slot: it must have a value if it takes one, and it must not be
given twice. -/
def Settled.settle (settled : Settled) (pending : Pending) : Except ArgumentError Settled :=
  match pending.value with
  | none =>
    if pending.slot.takesValue then .error (.missingValue pending.slot)
    else if settled.has pending.slot then .error (.repeated pending.slot)
    else settled.put pending.slot []
  | some value =>
    if settled.has pending.slot then .error (.repeated pending.slot)
    else settled.put pending.slot value

/-- How far the arguments have been read. -/
structure Reading where
  settled : Settled
  pending : Option Pending
  /-- Whether only paths may follow. -/
  trailing : Bool
  deriving DecidableEq, Repr

/-- Nothing has been read. -/
def Reading.start : Reading := ⟨Settled.nothing, none, false⟩

/-- The forms of an argument. -/
inductive Form where
  /-- Two dashes and nothing else. -/
  | separator
  /-- Two dashes, a name and perhaps an equals sign with a value. -/
  | long (name : Text) (value : Option Text)
  /-- One dash and at least one letter. -/
  | short (letter : Char)
  /-- Anything else, a single dash too. -/
  | plain
  deriving DecidableEq, Repr

/-- The form of an argument. -/
def Form.of : Text → Form
  | ['-', '-'] => .separator
  | '-' :: '-' :: rest =>
    let name := rest.takeWhile (· != '=')
    match rest.dropWhile (· != '=') with
    | [] => .long name none
    | _ :: value => .long name (some value)
  | '-' :: letter :: _ => .short letter
  | _ => .plain

namespace Reading

/-- What is settled when what is pending is settled too. -/
def settle (reading : Reading) : Except Stop Settled :=
  match reading.pending with
  | none => .ok reading.settled
  | some pending => (reading.settled.settle pending).mapError .invalid

/-- Reads something that is given complete. -/
def readComplete (reading : Reading) (pending : Pending) : Except Stop Reading := do
  let settled ← reading.settle
  let settled ← (settled.settle pending).mapError .invalid
  return { reading with settled, pending := none }

/-- Reads something that may yet get a value. -/
def readPending (reading : Reading) (pending : Pending) : Except Stop Reading := do
  let settled ← reading.settle
  return { reading with settled, pending := some pending }

/-- Reads a long option. -/
def readLong (reading : Reading) (name : Text) (value : Option Text) : Except Stop Reading :=
  match longOptions.lookup name with
  | none => .error (.invalid (.unexpected ("--" ++ name)))
  | some (.slot slot) =>
    if slot.takesValue then
      match value with
      | none => reading.readPending ⟨slot, none⟩
      | some value => reading.readComplete ⟨slot, some value⟩
    else
      match value with
      | none => reading.readComplete ⟨slot, none⟩
      | some value => .error (.invalid (.unexpectedValue value (.slot slot)))
  | some other =>
    match value with
    | some value => .error (.invalid (.unexpectedValue value other))
    | none => reading.settle.bind fun _ => .error (if other = .help then .help else .version)

/-- Reads a short option: only those for help and version exist. -/
def readShort (reading : Reading) (letter : Char) : Except Stop Reading :=
  if letter = 'h' then reading.settle.bind fun _ => .error .help
  else if letter = 'V' then reading.settle.bind fun _ => .error .version
  else .error (.invalid (.unexpected ['-', letter]))

/-- Reads a path; there is room for one. -/
def readInput (reading : Reading) (argument : Text) : Except Stop Reading :=
  let given := reading.settled.has .input || reading.pending.any fun p => p.slot = .input
  if given then .error (.invalid (.unexpected argument))
  else reading.readPending ⟨.input, some argument⟩

/-- Reads an argument that is no option: the value of the option that lacks one, or a path. -/
def readPlain (reading : Reading) (argument : Text) : Except Stop Reading :=
  match reading.pending with
  | some ⟨slot, none⟩ => .ok { reading with pending := some ⟨slot, some argument⟩ }
  | _ => reading.readInput argument

/-- Reads the next argument. -/
def read (reading : Reading) (argument : Text) : Except Stop Reading :=
  if reading.trailing then reading.readInput argument
  else
    match Form.of argument with
    | .separator => .ok { reading with trailing := true }
    | .long name value => reading.readLong name value
    | .short letter => reading.readShort letter
    | .plain => reading.readPlain argument

/-- What the arguments amount to when there are no more. -/
def finish (reading : Reading) : Except Stop Options := do
  let settled ← reading.settle
  match settled.input with
  | none => .error (.invalid .missingInput)
  | some input =>
    let { docs, json, symbols, hover, definition, .. } := settled
    return { input, docs, json, symbols, hover, definition }

end Reading

/-- What the arguments ask the command to do. -/
def parseArguments (arguments : List Text) : Except Stop Options := do
  let reading ← arguments.foldlM Reading.read Reading.start
  reading.finish

end AsmLens.Command
