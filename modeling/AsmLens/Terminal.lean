import AsmLens.Text

/-!
# Text for a terminal

For a terminal an escape character begins a *sequence*: characters that do not show, but change how or
where the text after them shows. What is written to anything else is stripped of sequences and of
control characters; those that lay text out (tabs, and the ends of lines and pages) stay.

Layout goes on in the middle of a sequence, strings excepted, and text with it: a layout character
*interrupts* the sequence, and what follows shows until the next control character, at which the sequence
goes on where it was. Only a character beyond ASCII in the text between ends it for good.

A line of a log goes to a terminal as it is, and must not act upon it. The characters that a terminal
would act upon in the middle of a line are written so that they show: the escape character, the bell, the
backspace, the form feed and the delete character by two hexadecimal digits, the controls beyond ASCII by
their code points.

None of this takes part in what the command finds out or says. It is what the writers of argument
errors and of log lines do to texts that are handed to them.
-/
namespace AsmLens.Terminal
open Text (bracedCodePoint codePointDigits zeroPadded)

/-! ## Sequences -/

/-- Whether the character lays text out. -/
def isLayout (c : Char) : Bool := c == '\t' || c == '\n' || c == '\x0c' || c == '\r'

/-- Whether the character shows in text. -/
def isShown (c : Char) : Bool := isLayout c || (' ' ≤ c && c != '\x7f')

/-- Whether the character can stand between the parameters and the end of a sequence. -/
def isIntermediate (c : Char) : Bool := ' ' ≤ c && c ≤ '/'

/-- Whether the character can stand in a parameter. -/
def isParameter (c : Char) : Bool := '0' ≤ c && c ≤ '?'

/-- Whether the character marks parameters as private. -/
def isPrivate (c : Char) : Bool := '<' ≤ c && c ≤ '?'

/-- Whether the character can end a sequence with parameters. -/
def isFinal (c : Char) : Bool := '@' ≤ c && c ≤ '~'

/-- Whether a string ends with the character: its terminator is the byte `9C`, also where that is
one byte of several that encode a character. -/
def terminatesString (c : Char) : Bool := (String.utf8EncodeChar c).contains 0x9C

/-- A sequence that has begun. -/
inductive Sequence where
  /-- Only the escape character has been read. -/
  | escape
  /-- One that chooses among character sets and the like. -/
  | escapeIntermediate
  /-- One with parameters, as for a style or a position. -/
  | control
  /-- A device control string of which nothing has been read. -/
  | device
  /-- A device control string that has parameters. -/
  | deviceParameters
  /-- A device control string that has intermediate characters. -/
  | deviceIntermediate
  /-- A string that ends with a string terminator. Malformed device control strings are skipped as
  such strings are. -/
  | string
  /-- A command for the operating system, which ends with a bell. -/
  | command
  deriving DecidableEq, Repr

namespace Sequence

/-- Whether layout goes on in the middle of the sequence. -/
def canBeInterrupted : Sequence → Bool
  | escape | escapeIntermediate | control => true
  | device | deviceParameters | deviceIntermediate | string | command => false

/-- The sequence after one more character, or `none` if it has ended. -/
def next? (sequence : Sequence) (c : Char) : Option Sequence :=
  match sequence with
  | escape =>
    if c = '[' then some control
    else if c = ']' then some command
    else if c = 'P' then some device
    else if c = 'X' || c = '^' || c = '_' then some string
    else if isIntermediate c then some escapeIntermediate
    else if isParameter c || isFinal c then none
    else some escape
  | escapeIntermediate => if isParameter c || isFinal c then none else some escapeIntermediate
  | control => if isFinal c then none else some control
  | device =>
    if isFinal c then some string
    else if isParameter c then some deviceParameters
    else if isIntermediate c then some deviceIntermediate
    else some device
  | deviceParameters =>
    if isFinal c || isPrivate c then some string
    else if isIntermediate c then some deviceIntermediate
    else some deviceParameters
  | deviceIntermediate =>
    if isFinal c || isParameter c then some string else some deviceIntermediate
  | string => if terminatesString c then none else some string
  | command => if c = '\x07' then none else some command

end Sequence

/-- What the next character may belong to. -/
inductive State where
  /-- Text outside any sequence. -/
  | ground
  /-- A sequence. -/
  | inside (sequence : Sequence)
  /-- Text that interrupts a sequence. -/
  | interrupting (sequence : Sequence)
  deriving DecidableEq, Repr

namespace State

/-- The state after a character. An escape character always begins a sequence, and two other
control characters always end one. -/
def next (state : State) (c : Char) : State :=
  if c = '\x1b' then inside .escape
  else if c = '\x18' || c = '\x1a' then ground
  else
    match state with
    | ground => ground
    | inside sequence =>
      if sequence.canBeInterrupted && isLayout c then interrupting sequence
      else
        match sequence.next? c with
        | some sequence => inside sequence
        | none => ground
    | interrupting sequence =>
      if '\u0080' ≤ c then ground
      else if isShown c then interrupting sequence
      else inside sequence

/-- Whether a character shows. -/
def shows (state : State) (c : Char) : Bool :=
  match state with
  | ground | interrupting _ => isShown c
  | inside sequence => sequence.canBeInterrupted && isLayout c

end State

/-- What shows of a text that is read from the state on. -/
def visibleFrom (state : State) : Text → Text
  | [] => []
  | c :: rest =>
    if state.shows c then c :: visibleFrom (state.next c) rest
    else visibleFrom (state.next c) rest

/-- The text without the sequences and control characters in it. -/
def strip (text : Text) : Text := visibleFrom .ground text

/-- The text set off from what stands around it. -/
def emphasised (text : Text) : Text := "\x1b[1m" ++ text ++ "\x1b[0m"

/-! ## Control characters -/

/-- The ASCII characters that a terminal acts upon. -/
def activeControls : List Char := ['\x1b', '\x07', '\x08', '\x0c', '\x7f']

/-- The character in a form that shows, if a terminal would act upon it. -/
def showControl (c : Char) : Text :=
  if activeControls.contains c then "\\x" ++ zeroPadded 2 (codePointDigits c)
  else if '\u0080' ≤ c && c ≤ '\u009f' then bracedCodePoint c
  else [c]

/-- The text with the characters in it made visible that a terminal would act upon. -/
def showControls (text : Text) : Text := text.flatMap showControl

end AsmLens.Terminal
