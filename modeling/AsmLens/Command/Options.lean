import AsmLens.Text

/-!
# What the command is asked for

The command is given the path of its input, perhaps the directory of the manual, whether it is to write
JSON, and the queries that it is to answer: for the symbols, for the hover text at a position and for the
definition of the name at a position.

A position is written `LINE:COLUMN`, both counted from 0. Each number may have blanks around it and
a plus sign before it, and must be less than `2 ^ 64`. It is read digit by digit, so of two faults
the first one is reported.

* `readDigits_eq_ok_iff`: what is accepted are exactly the numerals of numbers below the limit.
-/
namespace AsmLens

/-- A line and a column, counted from 0 (`Position`). -/
structure Position where
  line : Nat
  column : Nat
  deriving DecidableEq, Repr

namespace Position

/-- Why a text is no number. -/
inductive NumberError where
  | empty
  | invalidDigit
  | tooLarge
  deriving DecidableEq, Repr

/-- The wording of the reason. -/
def NumberError.message : NumberError → Text
  | empty => "cannot parse integer from empty string"
  | invalidDigit => "invalid digit found in string"
  | tooLarge => "number too large to fit in target type"

/-- Why a text is no position. The parts are as they are written. -/
inductive PositionError where
  | noColon (text : Text)
  | badLine (part : Text) (cause : NumberError)
  | badColumn (part : Text) (cause : NumberError)
  deriving DecidableEq, Repr

/-- The wording of the reason. -/
def PositionError.message : PositionError → Text
  | noColon text => "'" ++ text ++ "' should have the form LINE:COLUMN"
  | badLine part cause => "line '" ++ part ++ "' is not valid: " ++ cause.message
  | badColumn part cause => "column '" ++ part ++ "' is not valid: " ++ cause.message

/-- Every number is less than this, the 64th power of two. -/
def limit : Nat := 18446744073709551616

/-- The number that the digits spell after those that already make up `value`. -/
def readDigits (value : Nat) : Text → Except NumberError Nat
  | [] => .ok value
  | c :: rest =>
    if c.isDigit then
      let value := value * 10 + (c.toNat - '0'.toNat)
      if value < limit then readDigits value rest else .error .tooLarge
    else .error .invalidDigit

/-- The number that the text spells. -/
def readNumber (text : Text) : Except NumberError Nat :=
  match Text.trim text with
  | [] => .error .empty
  | ['+'] => .error .invalidDigit
  | '+' :: digits => readDigits 0 digits
  | digits => readDigits 0 digits

/-- The position that the text spells (`parse_position`). -/
def parse (text : Text) : Except PositionError Position :=
  match text.dropWhile (· != ':') with
  | [] => .error (.noColon text)
  | _ :: columnPart =>
    let linePart := text.takeWhile (· != ':')
    match readNumber linePart with
    | .error cause => .error (.badLine linePart cause)
    | .ok line =>
      match readNumber columnPart with
      | .error cause => .error (.badColumn columnPart cause)
      | .ok column => .ok ⟨line, column⟩

theorem digitValue?_of_isDigit {c : Char} (h : c.isDigit = true) :
    Text.digitValue? c = some (c.toNat - '0'.toNat) := by
  simp only [Char.isDigit, Bool.and_eq_true, decide_eq_true_eq] at h
  exact if_pos h

theorem readDigits_eq_ok_iff {value n : Nat} {digits : Text} (h : value < limit) :
    readDigits value digits = .ok n ↔
      (∀ c ∈ digits, c.isDigit = true) ∧ n < limit ∧ n = Text.numeralFrom 10 value digits := by
  induction digits generalizing value with
  | nil =>
    simp only [readDigits, Except.ok.injEq, Text.numeralFrom, List.foldl_nil]
    constructor
    · rintro rfl
      simpa using h
    · rintro ⟨-, -, rfl⟩
      rfl
  | cons c rest ih =>
    unfold readDigits
    by_cases hc : c.isDigit = true
    · rw [if_pos hc]
      have step : Text.numeralFrom 10 value (c :: rest) =
          Text.numeralFrom 10 (value * 10 + (c.toNat - '0'.toNat)) rest := by
        simp [Text.numeralFrom, digitValue?_of_isDigit hc]
      rw [step]
      by_cases hv : value * 10 + (c.toNat - '0'.toNat) < limit
      · simp only [hv, if_true]
        rw [ih hv]
        simp [hc]
      · simp only [hv, if_false, reduceCtorEq, false_iff]
        rintro ⟨-, hn, rfl⟩
        have := Text.le_numeralFrom (by decide : 0 < 10) (value * 10 + (c.toNat - '0'.toNat)) rest
        omega
    · rw [if_neg hc]
      simp [hc]

end Position

/-! ## Options and queries -/

namespace Command

/-- What the command is to do: what `Cli` holds. -/
structure Options where
  input : Text
  docs : Option Text
  json : Bool
  symbols : Bool
  hover : Option Position
  definition : Option Position
  deriving DecidableEq, Repr

/-- A question about the document. -/
inductive Query where
  | symbols
  | hover (position : Position)
  | definition (position : Position)
  deriving DecidableEq, Repr

/-- The queries, in the order in which they are answered. -/
def Options.queries (options : Options) : List Query :=
  (if options.symbols then [.symbols] else []) ++ (options.hover.map .hover).toList ++
    (options.definition.map .definition).toList

end Command
end AsmLens
