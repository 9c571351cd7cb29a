import AsmLens.Text

/-!
# Constants

A constant is a number in one of four notations or a quoted literal. What is stored of a number is a word of
sixteen bits; what is shown of a value are its forms in every notation.

* `signed_of_lt_signBit`, `signed_of_word`: what `signed` does to the numbers of one word.
* `signed_unsigned`: the signed reading undoes the unsigned view on the numbers of one word.
* `evaluate_quoted`: a text between quotes stands for its codes unless it is a number, which no
  text that begins with a quote is.
-/
namespace AsmLens.MachineWord

/-!
## Words of sixteen bits

A source text writes numbers of any size, the machine stores sixteen bits in two's complement. A
number that is not negative and has bit 15 set stands for the negative number that lies one
modulus below it. Negative numbers are shown by the bits that the machine would store.
-/

/-- The number of words (`WORD_MODULUS`). -/
def modulus : Int := 65536

/-- The weight of bit 15, the sign bit (`SIGN_BIT`). -/
def signBit : Int := 32768

/-- Whether bit 15 of a number that is not negative is set. -/
def hasSignBit (value : Int) : Bool := value / signBit % 2 == 1

/-- The signed reading (`reinterpret_signed`): one modulus less if the number is not negative and its bit
15 is set, and the number itself otherwise. -/
def signed (value : Int) : Int :=
  if 0 ≤ value ∧ hasSignBit value then value - modulus else value

/-- The unsigned view (`unsigned_view`): the bits of the word for a negative number, and the number
itself otherwise. -/
def unsigned (value : Int) : Nat :=
  if value < 0 then (value % modulus).toNat else value.toNat

theorem hasSignBit_eq_testBit (n : Nat) : hasSignBit n = n.testBit 15 := by
  rw [Nat.testBit_eq_decide_div_mod_eq, Bool.eq_iff_iff]
  simp only [hasSignBit, signBit, beq_iff_eq, decide_eq_true_eq]
  omega

theorem signed_of_lt_signBit {value : Int} (h : value < signBit) : signed value = value := by
  simp only [signed, hasSignBit, signBit, beq_iff_eq] at *
  split <;> omega

theorem signed_of_word {value : Int} (le : signBit ≤ value) (lt : value < modulus) :
    signed value = value - modulus := by
  simp only [signed, hasSignBit, signBit, modulus, beq_iff_eq] at *
  rw [if_pos (by omega)]

theorem signed_unsigned {value : Int} (le : -signBit ≤ value) (lt : value < signBit) :
    signed (unsigned value) = value := by
  simp only [unsigned, signed, hasSignBit, signBit, modulus, beq_iff_eq] at *
  split <;> split <;> omega

end AsmLens.MachineWord

/-!
## Notations

A constant is a number in one of four notations or a quoted literal. The notation shows in the
suffix: `1010b`, `17o`, `7FFFh` (at most four digits, and the suffix in either case), or none for
decimal, which alone may have a minus sign. The number must fit into 64 bits, and it is read as a
machine word. A literal, such as `'Hello'`, stands for the codes of its characters.
-/

namespace AsmLens.Constant
open Text (numeral?)

/-- What stands before the last character, if that is an accepted suffix. -/
def beforeSuffix? (accepts : Char → Bool) (token : Text) : Option Text :=
  if token.getLast?.any accepts then some token.dropLast else none

/-- Binary digits and a `b` (`BINARY`). -/
def binary? (token : Text) : Option Nat :=
  (beforeSuffix? (· == 'b') token).bind (numeral? 2)

/-- Octal digits and an `o` (`OCTAL`). -/
def octal? (token : Text) : Option Nat :=
  (beforeSuffix? (· == 'o') token).bind (numeral? 8)

/-- One to four hexadecimal digits and an `h` of either case (`HEXADECIMAL`). -/
def hexadecimal? (token : Text) : Option Nat :=
  (beforeSuffix? (fun c => c == 'h' || c == 'H') token).bind fun digits =>
    if digits.length ≤ 4 then numeral? 16 digits else none

/-- Decimal digits, with or without a minus sign (`DECIMAL`). -/
def decimal? (token : Text) : Option Int :=
  match token with
  | '-' :: digits => (numeral? 10 digits).map fun (n : Nat) => -(n : Int)
  | digits => (numeral? 10 digits).map fun (n : Nat) => (n : Int)

/-- Two to the power of 63. -/
def bound : Int := 9223372036854775808

/-- Whether the number fits into 64 bits in two's complement. -/
def fits (value : Int) : Bool := -bound ≤ value && value < bound

/-- The number as written, before it is read as a machine word (`evaluate_number`). -/
def written? (token : Text) : Option Int :=
  (((binary? token <|> octal? token <|> hexadecimal? token).map fun (n : Nat) => (n : Int))
    <|> decimal? token).filter fits

/-- The text between two different quotes (`evaluate_literal`). -/
def literal? (token : Text) : Option Text :=
  match token with
  | '\'' :: rest => beforeSuffix? (· == '\'') rest
  | _ => none

/-- The values that the token stands for (`evaluate`): one for a number, one per character for a literal,
and none at all for what is no constant. -/
def evaluate (token : Text) : Option (List Int) :=
  match written? token with
  | some value => some [MachineWord.signed value]
  | none => (literal? token).map fun body => body.map fun c => (c.toNat : Int)

theorem beforeSuffix?_append (accepts : Char → Bool) (text : Text) (c : Char) :
    beforeSuffix? accepts (text ++ [c]) = if accepts c then some text else none := by
  simp [beforeSuffix?]

theorem eq_append_of_beforeSuffix? {accepts : Char → Bool} {token text : Text}
    (h : beforeSuffix? accepts token = some text) :
    ∃ c, accepts c = true ∧ token = text ++ [c] := by
  unfold beforeSuffix? at h
  split at h
  case isFalse => simp at h
  case isTrue hc =>
    obtain rfl := Option.some.inj h
    cases hl : token.getLast? with
    | none => simp [hl] at hc
    | some c =>
      have hne : token ≠ [] := fun e => by simp [e] at hl
      rw [List.getLast?_eq_some_getLast hne] at hl
      refine ⟨c, by simpa [List.getLast?_eq_some_getLast hne, Option.some.inj hl] using hc, ?_⟩
      rw [← Option.some.inj hl, List.dropLast_concat_getLast]

/-- A numeral does not begin with a quote. -/
theorem numeral?_quote (base : Nat) (rest : Text) : numeral? base ('\'' :: rest) = none := by
  unfold numeral?
  rw [if_neg]
  intro h
  have := h.2
  simp [Text.isDigitOf, Text.digitValue?] at this

theorem written?_quote (text : Text) (c : Char) : written? ('\'' :: text ++ [c]) = none := by
  have binary : binary? ('\'' :: text ++ [c]) = none := by
    unfold binary?
    rw [beforeSuffix?_append]
    split <;> simp [numeral?_quote]
  have octal : octal? ('\'' :: text ++ [c]) = none := by
    unfold octal?
    rw [beforeSuffix?_append]
    split <;> simp [numeral?_quote]
  have hexadecimal : hexadecimal? ('\'' :: text ++ [c]) = none := by
    unfold hexadecimal?
    rw [beforeSuffix?_append]
    split <;> simp [numeral?_quote]
  have decimal : decimal? ('\'' :: text ++ [c]) = none := by
    simp [decimal?, numeral?_quote]
  unfold written?
  rw [binary, octal, hexadecimal, decimal]
  rfl

theorem evaluate_quoted (text : Text) :
    evaluate ('\'' :: text ++ ['\'']) = some (text.map fun c => (c.toNat : Int)) := by
  have : literal? ('\'' :: text ++ ['\'']) = some text := by
    simp [literal?, beforeSuffix?_append]
  unfold evaluate
  rw [written?_quote, this]
  rfl

/-!
## Notations one after the other

The number of a token can also be looked for in one notation after the other. A notation finds its
digits in the token, and these are read one by one into 64 bits. If it finds none, or if the number
does not fit as soon as some digit is read, the token is left to the next notation.
-/

open Text (digitValue? isDigitOf)

/-- The integer of the size, with or without a minus sign. -/
def signedBy (negative : Bool) (size : Nat) : Int := if negative then -(size : Int) else size

/-- The number with one digit more, if it fits then. It grows away from zero. -/
def pushDigit? (base : Nat) (negative : Bool) (value : Int) (c : Char) : Option Int := do
  let digit ← (digitValue? c).filter (· < base)
  let longer := value * base + signedBy negative digit
  if fits longer then some longer else none

/-- The number that the digits spell, which may have a minus sign before them. -/
def readDigits? (base : Nat) : Text → Option Int
  | [] => none
  | ['-'] => none
  | '-' :: digits => digits.foldlM (pushDigit? base true) 0
  | digits => digits.foldlM (pushDigit? base false) 0

/-- The text, if it is one or more digits of the base. -/
def onlyDigits? (base : Nat) (text : Text) : Option Text :=
  if text ≠ [] ∧ text.all (isDigitOf base) then some text else none

/-- A notation: the base of its digits, and what it takes for them in a token. -/
structure Form where
  base : Nat
  digits? : Text → Option Text

namespace Form

/-- Digits of the base before a suffix, and no more than the limit. -/
def suffixed (base : Nat) (accepts : Char → Bool) (limit : Option Nat) : Form where
  base := base
  digits? token :=
    ((beforeSuffix? accepts token).filter fun digits => limit.all (digits.length ≤ ·)).bind
      (onlyDigits? base)

/-- Binary digits and a `b`. -/
def binary : Form := suffixed 2 (· == 'b') none

/-- Octal digits and an `o`. -/
def octal : Form := suffixed 8 (· == 'o') none

/-- One to four hexadecimal digits and an `h` of either case. -/
def hexadecimal : Form := suffixed 16 (fun c => c == 'h' || c == 'H') (some 4)

/-- Decimal digits, with or without a minus sign. -/
def decimal : Form where
  base := 10
  digits? token :=
    match token with
    | '-' :: digits => (onlyDigits? 10 digits).map ('-' :: ·)
    | digits => onlyDigits? 10 digits

/-- The notations in the order in which they are tried (`NUMBER_FORMS`). -/
def all : List Form := [binary, octal, hexadecimal, decimal]

/-- The number of the token in the notation. -/
def number? (form : Form) (token : Text) : Option Int :=
  (form.digits? token).bind (readDigits? form.base)

end Form

/-- The number of the token in the first notation that gives one (`evaluate_number`). -/
def firstNumber? (token : Text) : Option Int := Form.all.findSome? fun form => form.number? token

/-- The values that the token stands for, with its number looked for in one notation after the other
(`evaluate`). -/
def evaluateByForms (token : Text) : Option (List Int) :=
  match firstNumber? token with
  | some value => some [MachineWord.signed value]
  | none => (literal? token).map fun body => body.map fun c => (c.toNat : Int)

/-!
## A value in every notation

The forms in which a value is shown to a reader: decimal as it is; hexadecimal and binary by the
unsigned view, with their suffixes; and the character with that code, where there is one.
-/

/-- The notations of one value (`Rendering`). -/
structure Rendering where
  value : Int
  decimal : Text
  hexadecimal : Text
  binary : Text
  character : Option Char
  deriving DecidableEq, Repr

/-- The character whose code the value is. Surrogates and the code `0x10FFFF` have none. -/
def character? (value : Int) : Option Char :=
  if 0 ≤ value ∧ value < 0x10FFFF then
    if h : value.toNat.isValidChar then some (Char.ofNatAux value.toNat h) else none
  else none

namespace Rendering

/-- The notations of the value. Hexadecimal has at least four digits. -/
def ofValue (value : Int) : Rendering where
  value := value
  decimal := Text.signedDecimal value
  hexadecimal := Text.zeroPadded 4 (Text.ofNat 16 (MachineWord.unsigned value)) ++ "h"
  binary := Nat.toDigits 2 (MachineWord.unsigned value) ++ "b"
  character := character? value

/-- The notations in one paragraph. -/
def paragraph (r : Rendering) : Text :=
  "**Dec**: " ++ r.decimal ++ " | **Hex**: " ++ r.hexadecimal ++
    (match r.character with
      | some c => " | **Char**: " ++ [c]
      | none => []) ++
    " | **Bin**: " ++ r.binary

end Rendering
end AsmLens.Constant
