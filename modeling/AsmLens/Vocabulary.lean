import AsmLens.Span

/-!
# The vocabulary of the language

Directives, mnemonics and registers are fixed sets of words. A set is given twice: by the table of its
words, and by the pattern that a scanner looks for, which spells the words out by itself and prefers one to
another by the order in which it lists them.

* `parse?_spelling`: the spelling of a keyword is read as that keyword.
* `fits_of_longest?`, `le_of_longest?`: the longest keyword that passes a test passes it, and none
  that passes it is longer.
-/
namespace AsmLens

/-!
## Keyword sets

The words of the assembly language form closed sets: mnemonics, register names and directives.
Every member of a set has one spelling, in upper case. Reading a whole word ignores ASCII case.
Inside running text a keyword is recognised by what the text begins with, and where several
keywords of a set fit, the longest one counts.
-/

/-- A closed set of keywords (`keyword_enum`). -/
class Keyword (K : Type) where
  /-- What a member of the set is called. -/
  kind : Text
  /-- Every member, in the order of definition. -/
  all : List K
  /-- The one spelling of a member, in upper case. -/
  spelling : K → Text
  mem_all : ∀ k, k ∈ all
  asciiUpper_spelling : ∀ k, Text.asciiUpper (spelling k) = spelling k
  spelling_ne_nil : ∀ k, spelling k ≠ []
  spelling_inj : ∀ j k, spelling j = spelling k → j = k

/-- The report that a word is not in a keyword set. -/
structure UnknownKeyword where
  kind : Text
  text : Text
  deriving DecidableEq, Repr

/-- The wording of the report. -/
def UnknownKeyword.message (unknown : UnknownKeyword) : Text :=
  "'" ++ unknown.text ++ "' is not a known " ++ unknown.kind

namespace Keyword
variable {K : Type} [Keyword K]

/-- The keyword that the word spells, in any mixture of ASCII case. -/
def parse? (word : Text) : Option K :=
  (all : List K).find? fun k => spelling k == Text.asciiUpper word

/-- The keyword that the word spells, or the report that there is none (`from_str`). -/
def parse (K : Type) [Keyword K] (word : Text) : Except UnknownKeyword K :=
  match parse? word with
  | some k => .ok k
  | none => .error ⟨kind K, word⟩

/-- Whether the text begins with the keyword as it is spelled. -/
def beginsExactly (text : Text) (k : K) : Bool :=
  text.take (spelling k).length == spelling k

/-- Whether the text begins with the keyword in any mixture of ASCII case. -/
def beginsAnyCase (text : Text) (k : K) : Bool :=
  Text.asciiUpper (text.take (spelling k).length) == spelling k

/-- The longest keyword that passes the test. -/
def longest? (fits : K → Bool) : Option K :=
  (all.filter fits).maxOn? fun k => (spelling k).length

/-- The spelling with all but its first letter in lower case. -/
def title (k : K) : Text :=
  match spelling k with
  | [] => []
  | c :: rest => c :: rest.map Char.toLower

theorem parse?_spelling (k : K) : parse? (spelling k) = some k := by
  unfold parse?
  rw [asciiUpper_spelling]
  cases h : (all : List K).find? fun j => spelling j == spelling k with
  | none =>
    have := List.find?_eq_none.mp h k (mem_all k)
    simp at this
  | some j =>
    have := List.find?_some h
    rw [spelling_inj j k (by simpa using this)]

theorem asciiUpper_of_parse? {word : Text} {k : K} (h : parse? word = some k) :
    Text.asciiUpper word = spelling k := by
  have := List.find?_some h
  exact (by simpa using this : spelling k = _).symm

theorem fits_of_longest? {fits : K → Bool} {k : K} (h : longest? fits = some k) :
    fits k = true :=
  (List.mem_filter.mp (List.maxOn?_mem h)).2

theorem le_of_longest? {fits : K → Bool} {j k : K} (h : longest? fits = some k)
    (hj : fits j = true) : (spelling j).length ≤ (spelling k).length := by
  have := List.le_apply_get_maxOn?_of_mem (f := fun k : K => (spelling k).length)
    (List.mem_filter.mpr ⟨mem_all j, hj⟩)
  unfold longest? at h
  simpa [h] using this

theorem longest?_eq_none_iff {fits : K → Bool} :
    longest? fits = none ↔ ∀ k, fits k = false := by
  unfold longest?
  rw [← Option.not_isSome_iff_eq_none, List.isSome_maxOn?_iff]
  simp [mem_all]

end Keyword

/-!
## Directives

The keywords that give a name its meaning in an assignment, as in `COUNT EQU 10`: `EQU` for a
constant, `WORD` for a variable, `STR` and `TAB` for arrays.
-/

/-- A keyword that stands between the name and the value of an assignment. -/
inductive Directive where
  | equ | word | str | tab
  deriving DecidableEq, Repr

namespace Directive

/-- Every directive. -/
def all : List Directive := [equ, word, str, tab]

/-- How the directive is written. -/
def spelling : Directive → Text
  | equ => "EQU"
  | word => "WORD"
  | str => "STR"
  | tab => "TAB"

theorem mem_all (k : Directive) : k ∈ all := by cases k <;> decide

instance : Keyword Directive where
  kind := "directive"
  all := all
  spelling := spelling
  mem_all := mem_all
  asciiUpper_spelling k := by cases k <;> decide
  spelling_ne_nil k := by cases k <;> decide
  spelling_inj j k :=
    (by decide : ∀ j ∈ all, ∀ k ∈ all, spelling j = spelling k → j = k) j (mem_all j) k (mem_all k)

end Directive

/-!
## Mnemonics

The instructions of the P3 processor, with the pseudo-instructions that its assembler takes
(`ORIG` only moves the location counter). A conditional jump is written with its condition after a
dot, as in `BR.Z`; the condition is no part of the mnemonic.
-/

/-- An instruction keyword of the assembly language. -/
inductive Mnemonic where
  | orig | add | addc | and | br | call | clc | cmc | cmp | com | dec | div | dsi | eni | inc
  | int | jmp | mov | mul | mvbh | mvbl | neg | nop | or | pop | push | ret | retn | rol | rolc
  | ror | rorc | rti | shl | shla | shr | shra | stc | sub | subb | test | xch | xor
  deriving DecidableEq, Repr

namespace Mnemonic

/-- Every mnemonic. -/
def all : List Mnemonic :=
  [orig, add, addc, and, br, call, clc, cmc, cmp, com, dec, div, dsi, eni, inc, int, jmp, mov, mul,
   mvbh, mvbl, neg, nop, or, pop, push, ret, retn, rol, rolc, ror, rorc, rti, shl, shla, shr, shra,
   stc, sub, subb, test, xch, xor]

/-- How the mnemonic is written. -/
def spelling : Mnemonic → Text
  | orig => "ORIG"
  | add => "ADD"
  | addc => "ADDC"
  | and => "AND"
  | br => "BR"
  | call => "CALL"
  | clc => "CLC"
  | cmc => "CMC"
  | cmp => "CMP"
  | com => "COM"
  | dec => "DEC"
  | div => "DIV"
  | dsi => "DSI"
  | eni => "ENI"
  | inc => "INC"
  | int => "INT"
  | jmp => "JMP"
  | mov => "MOV"
  | mul => "MUL"
  | mvbh => "MVBH"
  | mvbl => "MVBL"
  | neg => "NEG"
  | nop => "NOP"
  | or => "OR"
  | pop => "POP"
  | push => "PUSH"
  | ret => "RET"
  | retn => "RETN"
  | rol => "ROL"
  | rolc => "ROLC"
  | ror => "ROR"
  | rorc => "RORC"
  | rti => "RTI"
  | shl => "SHL"
  | shla => "SHLA"
  | shr => "SHR"
  | shra => "SHRA"
  | stc => "STC"
  | sub => "SUB"
  | subb => "SUBB"
  | test => "TEST"
  | xch => "XCH"
  | xor => "XOR"

theorem mem_all (k : Mnemonic) : k ∈ all := by cases k <;> decide

instance : Keyword Mnemonic where
  kind := "mnemonic"
  all := all
  spelling := spelling
  mem_all := mem_all
  asciiUpper_spelling k := by cases k <;> decide
  spelling_ne_nil k := by cases k <;> decide
  spelling_inj j k :=
    (by decide : ∀ j ∈ all, ∀ k ∈ all, spelling j = spelling k → j = k) j (mem_all j) k (mem_all k)

/-- Whether the instruction transfers control to a label (`is_jump`). -/
def isJump (m : Mnemonic) : Bool := m = call || m = jmp || m = br

/-- Instruction text without the condition that follows its first dot (`strip_condition`). -/
def stripCondition (text : Text) : Text := text.takeWhile (· != '.')

/-- The mnemonic that instruction text stands for, whatever its condition and its ASCII case
(`from_instruction_text`). -/
def ofInstructionText? (text : Text) : Option Mnemonic := Keyword.parse? (stripCondition text)

end Mnemonic

/-!
## Registers

The register names of operands. `R0` to `R7` are general-purpose registers, `R11` to `R15` special
ones, and `PC`, `SP` and `RE` name the program counter, the stack pointer and the state register.
There is no `R8`, `R9` or `R10`.
-/

/-- A register name. -/
inductive Register where
  | pc | sp | re | r0 | r1 | r2 | r3 | r4 | r5 | r6 | r7 | r11 | r12 | r13 | r14 | r15
  deriving DecidableEq, Repr

namespace Register

/-- Every register name. -/
def all : List Register := [pc, sp, re, r0, r1, r2, r3, r4, r5, r6, r7, r11, r12, r13, r14, r15]

/-- How the register is written. -/
def spelling : Register → Text
  | pc => "PC"
  | sp => "SP"
  | re => "RE"
  | r0 => "R0"
  | r1 => "R1"
  | r2 => "R2"
  | r3 => "R3"
  | r4 => "R4"
  | r5 => "R5"
  | r6 => "R6"
  | r7 => "R7"
  | r11 => "R11"
  | r12 => "R12"
  | r13 => "R13"
  | r14 => "R14"
  | r15 => "R15"

theorem mem_all (k : Register) : k ∈ all := by cases k <;> decide

instance : Keyword Register where
  kind := "register"
  all := all
  spelling := spelling
  mem_all := mem_all
  asciiUpper_spelling k := by cases k <;> decide
  spelling_ne_nil k := by cases k <;> decide
  spelling_inj j k :=
    (by decide : ∀ j ∈ all, ∀ k ∈ all, spelling j = spelling k → j = k) j (mem_all j) k (mem_all k)

end Register
end AsmLens

/-!
## Patterns for keyword sets

Keywords can also be recognised without their tables, by patterns. A pattern is a list of alternatives,
and an alternative a list of classes, one for each character that it takes.

The patterns of the directives and of the registers are written out, every letter in both its cases. That
of the mnemonics is made from their table, in upper case alone: one alternative for each name, the
longer names first. The search for a pattern ends at the first place where any alternative fits, and
there the alternative counts that stands first in the pattern.
-/

namespace AsmLens.Pattern

/-- The characters that may stand at one place. -/
abbrev CharClass := Text

/-- Whether the text begins with one character of each class. -/
def begins : List CharClass → Text → Bool
  | [], _ => true
  | _ :: _, [] => false
  | cls :: classes, c :: rest => cls.contains c && begins classes rest

/-- The directives, in either case: the alternatives of `ASSIGNMENT`. -/
def directive : List (List CharClass) :=
  [["Ee", "Qq", "Uu"], ["Ww", "Oo", "Rr", "Dd"], ["Ss", "Tt", "Rr"], ["Tt", "Aa", "Bb"]]

/-- The registers, in either case: the alternatives of `OperandToken`. -/
def register : List (List CharClass) :=
  [["Pp", "Cc"], ["Ss", "Pp"], ["Rr", "Ee"], ["Rr", "1", "12345"], ["Rr", "01234567"]]

/-- The order of names in the pattern of the mnemonics: a longer one comes first, and of two that are
equally long the one whose letters come first. -/
def nameOrder (a b : Text) : Ordering := (compare b.length a.length).then (compare a b)

/-- The names of the mnemonics in the order of their pattern. -/
def mnemonicNames : List Text :=
  (Mnemonic.all.map Mnemonic.spelling).mergeSort fun a b => (nameOrder a b).isLE

/-- The alternative that takes the word and nothing else. -/
def literal (word : Text) : List CharClass := word.map fun c => [c]

/-- The mnemonics, as `mnemonic_pattern` lists them. -/
def mnemonic : List (List CharClass) := mnemonicNames.map literal

/-- How many characters the first alternative takes that fits at the beginning of the text. -/
def firstLength? (pattern : List (List CharClass)) (text : Text) : Option Nat :=
  (pattern.find? fun classes => begins classes text).map List.length

/-- The leftmost match of the pattern, by the first alternative that fits there. -/
def find? (pattern : List (List CharClass)) (text : Text) : Option Span :=
  (Text.firstMatch? (firstLength? pattern) text).map fun (column, length) =>
    ⟨column, column + length⟩

end AsmLens.Pattern
