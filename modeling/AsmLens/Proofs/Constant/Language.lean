import AsmLens.Proofs.Constant.Rendering
import Mathlib.Data.List.Basic
import Mathlib.Data.List.Induction
import Mathlib.Data.Nat.Digits.Defs

/-!
# The language of constants

Which tokens are constants, what they are worth, and of which characters they consist. `Spells` says how
numbers are written without saying how they are read; that notations are tried one after the other makes no
difference to it.

Results:
* `foldlM_pushDigit?`, `readDigits?_of_digits`: digits read one by one, with the bound at every step.
* `firstNumber?_eq`: the search through the notations gives the number as written.
* `evaluate_eq_evaluateByForms`: both ways to evaluate a token agree.
* `numeral?_eq_some_iff`: the texts that are read as numerals, and what they are worth.
* `written?_eq_some_iff`: the tokens that are read as numbers.
* `evaluate_language`: the tokens that are constants, with their values, and those that are not.
* `isWordChar_of_spells`: a number without a minus sign is one run of word characters.
* `hexadecimal_of_mem_dropLast`: where a letter is no suffix, the notation is hexadecimal.
* `spells_lt_hundred`, `positional_infix_le`: bounds on numbers, by length and by some of the digits.
* `evaluate_eq_some_iff_of_not_mem`: without quotes there is at most one value.
* `evaluate_singleton_ne`: no character has the value that it has in a literal.
-/
namespace AsmLens.Constant
open Text (digitValue? isDigitOf numeral? numeral numeralFrom)

/-!
## The order of the notations does not matter

Digits are read into 64 bits one by one, and a number that has grown too large never comes back. So
reading them fails exactly when the whole number does not fit. A token that overflows in one notation
is offered to the next, but no other notation has it: its last character belongs to one of them. The search
therefore comes to the number as it is written.
-/

/-! ### Digits into 64 bits -/

theorem signedBy_step (negative : Bool) (base size digit : Nat) :
    signedBy negative size * base + signedBy negative digit =
      signedBy negative (size * base + digit) := by
  cases negative with
  | false => rfl
  | true =>
    show -(size : Int) * base + -(digit : Int) = -((size * base + digit : Nat) : Int)
    rw [Int.natCast_add, Int.natCast_mul, Int.neg_add, Int.neg_mul]

/-- What fits still fits when it is nearer to zero. -/
theorem fits_signedBy_mono {negative : Bool} {n m : Nat} (le : n ≤ m)
    (h : fits (signedBy negative m) = true) : fits (signedBy negative n) = true := by
  rw [fits_iff] at h ⊢
  cases negative <;> simp [signedBy, bound] at h ⊢ <;> omega

theorem pushDigit?_of_isDigitOf {base : Nat} {c : Char} (h : isDigitOf base c = true)
    (negative : Bool) (size : Nat) :
    pushDigit? base negative (signedBy negative size) c =
      (some (signedBy negative (size * base + (digitValue? c).getD 0))).filter fits := by
  obtain ⟨digit, hd, hlt⟩ := (Option.any_eq_true _ _).mp h
  simp only [pushDigit?, hd, Option.filter_some, hlt, if_true, Option.getD_some, bind,
    Option.bind_some, signedBy_step]

theorem foldlM_pushDigit? {base : Nat} (pos : 0 < base) {negative : Bool} {digits : Text}
    (h : ∀ c ∈ digits, isDigitOf base c = true) {size : Nat}
    (hsize : fits (signedBy negative size) = true) :
    digits.foldlM (pushDigit? base negative) (signedBy negative size) =
      (some (signedBy negative (numeralFrom base size digits))).filter fits := by
  induction digits generalizing size with
  | nil =>
    rw [Option.filter_some, numeralFrom, List.foldl_nil, if_pos hsize]
    rfl
  | cons c rest ih =>
    obtain ⟨hc, hrest⟩ := List.forall_mem_cons.mp h
    have hstep : numeralFrom base size (c :: rest) =
        numeralFrom base (size * base + (digitValue? c).getD 0) rest := rfl
    rw [List.foldlM_cons, pushDigit?_of_isDigitOf hc, hstep]
    generalize size * base + (digitValue? c).getD 0 = longer
    by_cases hfits : fits (signedBy negative longer) = true
    · simp only [Option.filter_some, hfits, if_true, bind, Option.bind_some]
      rw [ih hrest hfits, Option.filter_some]
    · -- the number only grows from here, so the whole does not fit either
      have hnever : fits (signedBy negative (numeralFrom base longer rest)) = false :=
        Bool.eq_false_iff.mpr fun hw =>
          hfits (fits_signedBy_mono (Text.le_numeralFrom pos longer rest) hw)
      simp [Option.filter_some, hfits, hnever]

theorem foldlM_pushDigit?_zero {base : Nat} (pos : 0 < base) (negative : Bool) {digits : Text}
    (h : ∀ c ∈ digits, isDigitOf base c = true) :
    digits.foldlM (pushDigit? base negative) 0 =
      (some (signedBy negative (numeral base digits))).filter fits := by
  have hzero : signedBy negative 0 = 0 := by cases negative <;> rfl
  have hfits : fits (signedBy negative 0) = true := by cases negative <;> decide
  rw [← hzero]
  exact foldlM_pushDigit? pos h hfits

/-! ### One notation -/

theorem not_isDigitOf_minus (base : Nat) : isDigitOf base '-' = false := by
  simp [isDigitOf, digitValue?]

theorem readDigits?_of_digits {base : Nat} (pos : 0 < base) {digits : Text} (hne : digits ≠ [])
    (h : digits.all (isDigitOf base) = true) :
    readDigits? base digits = (some (numeral base digits : Int)).filter fits := by
  have hread := foldlM_pushDigit?_zero pos false (List.all_eq_true.mp h)
  unfold readDigits?
  split
  case h_1 => exact absurd rfl hne
  case h_2 => simp [not_isDigitOf_minus] at h
  case h_3 => simp [not_isDigitOf_minus] at h
  case h_4 => exact hread

theorem readDigits?_minus {digits : Text} (hne : digits ≠ [])
    (h : digits.all (isDigitOf 10) = true) :
    readDigits? 10 ('-' :: digits) = (some (-(numeral 10 digits : Int))).filter fits := by
  cases digits with
  | nil => exact absurd rfl hne
  | cons c rest =>
    exact foldlM_pushDigit?_zero (by decide : 0 < 10) true (List.all_eq_true.mp h)

theorem onlyDigits?_bind_readDigits? {base : Nat} (pos : 0 < base) (text : Text) :
    (onlyDigits? base text).bind (readDigits? base) =
      ((numeral? base text).map fun (n : Nat) => (n : Int)).filter fits := by
  unfold onlyDigits? numeral?
  split
  case isTrue h => exact readDigits?_of_digits pos h.1 h.2
  case isFalse => rfl

theorem number?_suffixed {base : Nat} (pos : 0 < base) (accepts : Char → Bool)
    (limit : Option Nat) (digits : Text) (c : Char) :
    (Form.suffixed base accepts limit).number? (digits ++ [c]) =
      if accepts c = true ∧ limit.all (digits.length ≤ ·) = true then
        ((numeral? base digits).map fun (n : Nat) => (n : Int)).filter fits
      else none := by
  simp only [Form.number?, Form.suffixed, beforeSuffix?_append]
  by_cases hc : accepts c = true
  · by_cases hlimit : limit.all (digits.length ≤ ·) = true
    · simp only [hc, hlimit, if_true, Option.filter_some, Option.bind_some, and_self]
      exact onlyDigits?_bind_readDigits? pos digits
    · simp [hc, hlimit, Option.filter_some]
  · simp [hc]

theorem number?_decimal (token : Text) :
    Form.decimal.number? token = (decimal? token).filter fits := by
  simp only [Form.number?, Form.decimal]
  fun_cases decimal? token with
  | case1 digits =>
    simp only [onlyDigits?, numeral?]
    split
    case isTrue h => exact readDigits?_minus h.1 h.2
    case isFalse => rfl
  | case2 token hminus =>
    split
    case h_1 digits => exact (hminus digits rfl).elim
    case h_2 => exact onlyDigits?_bind_readDigits? (by decide : 0 < 10) token

/-! ### All notations -/

theorem firstNumber?_eq_or (token : Text) : firstNumber? token =
    (Form.binary.number? token).or ((Form.octal.number? token).or
      ((Form.hexadecimal.number? token).or (Form.decimal.number? token))) := by
  simp only [firstNumber?, Form.all, List.findSome?_cons, List.findSome?_nil]
  cases Form.binary.number? token <;> cases Form.octal.number? token <;>
    cases Form.hexadecimal.number? token <;> cases Form.decimal.number? token <;> rfl

/-- The last character leaves one notation at most. -/
theorem firstNumber?_concat (digits : Text) (c : Char) :
    firstNumber? (digits ++ [c]) = written? (digits ++ [c]) := by
  rw [firstNumber?_eq_or, written?_concat, number?_decimal, Form.binary, Form.octal,
    Form.hexadecimal, number?_suffixed (by decide), number?_suffixed (by decide),
    number?_suffixed (by decide)]
  by_cases hdigit : isDigitOf 10 c = true
  · have hne : ∀ suffix, isDigitOf 10 suffix = false → c ≠ suffix :=
      fun _ => ne_of_isDigitOf hdigit
    simp [hdigit, hne 'b' (by decide), hne 'o' (by decide), hne 'h' (by decide),
      hne 'H' (by decide)]
  · rw [if_neg hdigit, decimal?_concat_eq_none digits (Bool.eq_false_iff.mpr hdigit)]
    by_cases hb : c = 'b'
    · simp [hb, suffixed?]
    · by_cases ho : c = 'o'
      · simp [ho, suffixed?]
      · by_cases hh : c = 'h' ∨ c = 'H'
        · by_cases hlimit : digits.length ≤ 4 <;> simp [hb, ho, hh, hlimit, suffixed?]
        · simp [hb, ho, hh, suffixed?]

theorem firstNumber?_eq (token : Text) : firstNumber? token = written? token := by
  rcases List.eq_nil_or_concat token with rfl | ⟨digits, c, rfl⟩
  · rfl
  · rw [List.concat_eq_append]
    exact firstNumber?_concat digits c

/-- A token has the same values when its number is looked for in one notation after the other. -/
theorem evaluate_eq_evaluateByForms (token : Text) : evaluate token = evaluateByForms token := by
  rw [evaluateByForms, firstNumber?_eq]
  rfl

end AsmLens.Constant

/-!
## Tokens and their values

`Spells` says how numbers are written without saying how they are read: which characters stand in which
place, and what the digits are worth. `evaluate` accepts these tokens as far as their numbers fit into 64
bits, the quoted texts, and nothing else.

The digits of a base are listed, and a digit is worth its place among them. The value of several digits is
`Nat.ofDigits`, which begins with the lowest one.
-/

namespace AsmLens

namespace Text

/-! ### What digits are worth -/

/-- What a digit is worth: its place among all digits, in either case. -/
def worth (c : Char) : Nat := "0123456789ABCDEF".toList.idxOf c.toUpper

/-- What the digits are worth in the base; the last one counts once. -/
def positional (base : Nat) (digits : Text) : Nat := Nat.ofDigits base (digits.reverse.map worth)

theorem digitValue?_of_not_ascii {c : Char} (h : ¬ c.toNat < 128) : digitValue? c = none := by
  have hnot : ∀ d : Char, d.toNat < 128 → ¬ c ≤ d := fun d hd hle =>
    h (Nat.lt_of_le_of_lt (UInt32.le_iff_toNat_le.mp hle) hd)
  simp [digitValue?, hnot '9' (by decide), hnot 'f' (by decide), hnot 'F' (by decide)]

theorem worth_of_digitValue? {c : Char} {d : Nat} (h : digitValue? c = some d) : worth c = d := by
  have ascii : ∀ n : Fin 128, digitValue? (Char.ofNat n.val) = none ∨
      digitValue? (Char.ofNat n.val) = some (worth (Char.ofNat n.val)) := by decide
  by_cases hc : c.toNat < 128
  · have := ascii ⟨c.toNat, hc⟩
    rw [Char.ofNat_toNat, h] at this
    simpa [eq_comm] using this
  · rw [digitValue?_of_not_ascii hc] at h
    cases h

theorem worth_of_isDigitOf {base : Nat} {c : Char} (h : isDigitOf base c = true) :
    (digitValue? c).getD 0 = worth c := by
  obtain ⟨d, hd, -⟩ := (Option.any_eq_true _ _).mp h
  rw [hd, worth_of_digitValue? hd, Option.getD_some]

theorem numeral_eq_positional {base : Nat} {digits : Text}
    (h : ∀ c ∈ digits, isDigitOf base c = true) : numeral base digits = positional base digits := by
  induction digits using List.reverseRecOn with
  | nil => rfl
  | append_singleton digits c ih =>
    rw [numeral_append_digit, ih fun c hc => h c (List.mem_append_left _ hc),
      worth_of_isDigitOf (h c (by simp))]
    simp [positional, Nat.ofDigits_cons, Nat.mul_comm, Nat.add_comm]

/-! ### The digits of a base -/

/-- The characters are the digits of the base. -/
def AreDigits (alphabet : Text) (base : Nat) : Prop :=
  ∀ c, isDigitOf base c = true ↔ c ∈ alphabet

theorem areDigits_of_ascii {alphabet : Text} {base : Nat}
    (ascii : ∀ n : Fin 128,
      isDigitOf base (Char.ofNat n.val) = alphabet.contains (Char.ofNat n.val))
    (bounded : alphabet.all (fun c => c.toNat < 128) = true) : AreDigits alphabet base := by
  intro c
  by_cases hc : c.toNat < 128
  · have := ascii ⟨c.toNat, hc⟩
    rw [Char.ofNat_toNat] at this
    rw [this, List.contains_iff_mem]
  · refine iff_of_false ?_ fun hmem =>
      hc (of_decide_eq_true (List.all_eq_true.mp bounded c hmem))
    simp [isDigitOf, digitValue?_of_not_ascii hc]

theorem areDigits_binary : AreDigits "01" 2 := areDigits_of_ascii (by decide) (by decide)

theorem areDigits_octal : AreDigits "01234567" 8 := areDigits_of_ascii (by decide) (by decide)

theorem areDigits_decimal : AreDigits "0123456789" 10 := areDigits_of_ascii (by decide) (by decide)

theorem areDigits_hexadecimal : AreDigits "0123456789ABCDEFabcdef" 16 :=
  areDigits_of_ascii (by decide +kernel) (by decide)

theorem numeral?_eq_some_iff {base : Nat} {alphabet text : Text} (h : AreDigits alphabet base)
    {n : Nat} : numeral? base text = some n ↔
      text ≠ [] ∧ text ⊆ alphabet ∧ n = positional base text := by
  have hall : text.all (isDigitOf base) = true ↔ text ⊆ alphabet := by
    rw [List.all_eq_true]
    exact forall₂_congr fun c _ => h c
  rw [numeral?]
  by_cases hdigits : text ≠ [] ∧ text.all (isDigitOf base) = true
  · rw [if_pos hdigits, numeral_eq_positional (List.all_eq_true.mp hdigits.2)]
    simp [hdigits.1, hall.mp hdigits.2, eq_comm]
  · rw [if_neg hdigits]
    rw [hall] at hdigits
    simp only [reduceCtorEq, false_iff]
    rintro ⟨hne, hsub, -⟩
    exact hdigits ⟨hne, hsub⟩

end Text

namespace Constant
open Text (isDigitOf numeral? positional)

/-- The token is a number in one of the notations, and this is the number that it spells. -/
inductive Spells : Text → Int → Prop
  | binary {digits : Text} (ne_nil : digits ≠ []) (all : digits ⊆ "01".toList) :
    Spells (digits ++ ['b']) (positional 2 digits)
  | octal {digits : Text} (ne_nil : digits ≠ []) (all : digits ⊆ "01234567".toList) :
    Spells (digits ++ ['o']) (positional 8 digits)
  | hexadecimal {digits : Text} {suffix : Char} (pos : 1 ≤ digits.length)
    (few : digits.length ≤ 4) (all : digits ⊆ "0123456789ABCDEFabcdef".toList)
    (either : suffix = 'h' ∨ suffix = 'H') :
    Spells (digits ++ [suffix]) (positional 16 digits)
  | decimal {digits : Text} (ne_nil : digits ≠ []) (all : digits ⊆ "0123456789".toList) :
    Spells digits (positional 10 digits)
  | negative {digits : Text} (ne_nil : digits ≠ []) (all : digits ⊆ "0123456789".toList) :
    Spells ('-' :: digits) (-(positional 10 digits : Int))

/-! ### What is read is spelled -/

theorem spells_of_suffixed? {c : Char} {digits : Text} {n : Nat}
    (h : suffixed? c digits = some n) : Spells (digits ++ [c]) n := by
  unfold suffixed? at h
  split at h
  case isTrue hc =>
    obtain ⟨hne, hall, rfl⟩ := (Text.numeral?_eq_some_iff Text.areDigits_binary).mp h
    rw [hc]
    exact Spells.binary hne hall
  case isFalse =>
    split at h
    case isTrue hc =>
      obtain ⟨hne, hall, rfl⟩ := (Text.numeral?_eq_some_iff Text.areDigits_octal).mp h
      rw [hc]
      exact Spells.octal hne hall
    case isFalse =>
      split at h
      case isTrue hc =>
        split at h
        case isTrue hfew =>
          obtain ⟨hne, hall, rfl⟩ := (Text.numeral?_eq_some_iff Text.areDigits_hexadecimal).mp h
          exact Spells.hexadecimal (List.length_pos_iff.mpr hne) hfew hall hc
        case isFalse => cases h
      case isFalse => cases h

theorem spells_of_decimal? {token : Text} {v : Int} (h : decimal? token = some v) :
    Spells token v := by
  by_cases hminus : ∃ digits, token = '-' :: digits
  · obtain ⟨digits, rfl⟩ := hminus
    obtain ⟨n, hn, rfl⟩ := Option.map_eq_some_iff.mp h
    obtain ⟨hne, hall, rfl⟩ := (Text.numeral?_eq_some_iff Text.areDigits_decimal).mp hn
    exact Spells.negative hne hall
  · rw [decimal?_of_ne_minus (not_exists.mp hminus)] at h
    obtain ⟨n, hn, rfl⟩ := Option.map_eq_some_iff.mp h
    obtain ⟨hne, hall, rfl⟩ := (Text.numeral?_eq_some_iff Text.areDigits_decimal).mp hn
    exact Spells.decimal hne hall

theorem spells_of_written? {token : Text} {v : Int} (h : written? token = some v) :
    Spells token v ∧ fits v = true := by
  rcases List.eq_nil_or_concat' token with rfl | ⟨digits, c, rfl⟩
  · cases h
  · rw [written?_concat] at h
    split at h
    case isTrue =>
      obtain ⟨hd, hv⟩ := Option.filter_eq_some_iff.mp h
      exact ⟨spells_of_decimal? hd, hv⟩
    case isFalse =>
      obtain ⟨hd, hv⟩ := Option.filter_eq_some_iff.mp h
      obtain ⟨n, hn, rfl⟩ := Option.map_eq_some_iff.mp hd
      exact ⟨spells_of_suffixed? hn, hv⟩

/-! ### What is spelled is read -/

theorem written?_of_suffixed? {c : Char} {digits : Text} {n : Nat} (hc : isDigitOf 10 c = false)
    (h : suffixed? c digits = some n) (hn : fits n = true) :
    written? (digits ++ [c]) = some (n : Int) := by
  rw [written?_concat, if_neg (Bool.eq_false_iff.mp hc), h, Option.map_some, Option.filter_some,
    if_pos hn]

/-- Decimal digits, with whatever stands before them, are left to the decimal notation. -/
theorem written?_of_decimal? (before : Text) {digits : Text} {v : Int} (hne : digits ≠ [])
    (hall : digits ⊆ "0123456789".toList) (h : decimal? (before ++ digits) = some v)
    (hv : fits v = true) : written? (before ++ digits) = some v := by
  rcases List.eq_nil_or_concat' digits with rfl | ⟨start, c, rfl⟩
  · exact absurd rfl hne
  · have hc : isDigitOf 10 c = true := (Text.areDigits_decimal c).mpr (hall (by simp))
    rw [← List.append_assoc] at h ⊢
    rw [written?_concat, if_pos hc, h, Option.filter_some, if_pos hv]

theorem written?_of_spells {token : Text} {v : Int} (h : Spells token v) (hv : fits v = true) :
    written? token = some v := by
  cases h with
  | binary hne hall =>
    have hread := (Text.numeral?_eq_some_iff Text.areDigits_binary).mpr ⟨hne, hall, rfl⟩
    exact written?_of_suffixed? (by decide) hread hv
  | octal hne hall =>
    have hread := (Text.numeral?_eq_some_iff Text.areDigits_octal).mpr ⟨hne, hall, rfl⟩
    exact written?_of_suffixed? (by decide) hread hv
  | @hexadecimal digits suffix hpos hfew hall heither =>
    have hread := (Text.numeral?_eq_some_iff Text.areDigits_hexadecimal).mpr
      ⟨List.length_pos_iff.mp hpos, hall, rfl⟩
    have hsuffixed : suffixed? suffix digits = some (positional 16 digits) := by
      rcases heither with rfl | rfl <;> simpa [suffixed?, hfew] using hread
    have hc : isDigitOf 10 suffix = false := by rcases heither with rfl | rfl <;> decide
    exact written?_of_suffixed? hc hsuffixed hv
  | decimal hne hall =>
    have hread := (Text.numeral?_eq_some_iff Text.areDigits_decimal).mpr ⟨hne, hall, rfl⟩
    refine written?_of_decimal? [] hne hall ?_ hv
    have hminus : ∀ digits, token ≠ '-' :: digits := fun digits e => by
      rw [e] at hall
      exact absurd (hall List.mem_cons_self) (by decide)
    rw [List.nil_append, decimal?_of_ne_minus hminus, hread, Option.map_some]
  | @negative digits hne hall =>
    have hread := (Text.numeral?_eq_some_iff Text.areDigits_decimal).mpr ⟨hne, hall, rfl⟩
    refine written?_of_decimal? ['-'] hne hall ?_ hv
    show (numeral? 10 digits).map _ = _
    rw [hread, Option.map_some]

theorem written?_eq_some_iff {token : Text} {v : Int} :
    written? token = some v ↔ Spells token v ∧ fits v = true :=
  ⟨spells_of_written?, fun ⟨h, hv⟩ => written?_of_spells h hv⟩

/-! ### Constants -/

theorem literal?_eq_some_iff {token body : Text} :
    literal? token = some body ↔ token = '\'' :: body ++ ['\''] := by
  refine ⟨fun h => ?_, fun h => by simp [h, literal?, beforeSuffix?_append]⟩
  unfold literal? at h
  split at h
  case h_1 rest =>
    obtain ⟨c, hc, rfl⟩ := eq_append_of_beforeSuffix? h
    rw [eq_of_beq hc]
    rfl
  case h_2 => cases h

theorem fits_iff_lt_two_pow {v : Int} : fits v = true ↔ -2 ^ 63 ≤ v ∧ v < 2 ^ 63 := by
  rw [fits_iff, bound]
  rfl

theorem signed_eq_testBit (v : Int) :
    MachineWord.signed v = if 0 ≤ v ∧ v.toNat.testBit 15 then v - 65536 else v := by
  rw [MachineWord.signed, MachineWord.modulus]
  by_cases nonneg : 0 ≤ v
  · rw [← MachineWord.hasSignBit_eq_testBit, Int.toNat_of_nonneg nonneg]
  · simp [nonneg]

theorem evaluate_eq_some_iff {token : Text} {values : List Int} :
    evaluate token = some values ↔
      (∃ v, written? token = some v ∧ values = [MachineWord.signed v]) ∨
        ∃ body, literal? token = some body ∧ values = body.map fun c => (c.toNat : Int) := by
  rw [evaluate]
  cases hw : written? token with
  | some v =>
    -- a number does not begin with a quote
    have hnone : literal? token = none := by
      rw [Option.eq_none_iff_forall_not_mem]
      intro body hbody
      rw [literal?_eq_some_iff.mp hbody, written?_quote] at hw
      cases hw
    simp [hnone, eq_comm]
  | none => simp [eq_comm]

/-- A token has values exactly when it is a number of 64 bits in one of the notations, which has the one
value that sixteen bits make of it, or a text between two quotes, which has the codes of its
characters. Every other token has none, a number beyond 64 bits among them. The same comes of trying
one notation after the other. -/
theorem evaluate_language (token : Text) :
    (∀ values, evaluate token = some values ↔
      (∃ v, Spells token v ∧ -2 ^ 63 ≤ v ∧ v < 2 ^ 63 ∧
          values = [if 0 ≤ v ∧ v.toNat.testBit 15 then v - 65536 else v]) ∨
        ∃ body, token = '\'' :: body ++ ['\''] ∧ values = body.map fun c => (c.toNat : Int)) ∧
      (evaluate token = none ↔
        (∀ v, Spells token v → v < -2 ^ 63 ∨ 2 ^ 63 ≤ v) ∧
          ∀ body, token ≠ '\'' :: body ++ ['\'']) ∧
      evaluateByForms token = evaluate token := by
  have haccepts : ∀ values, evaluate token = some values ↔
      (∃ v, Spells token v ∧ -2 ^ 63 ≤ v ∧ v < 2 ^ 63 ∧
          values = [if 0 ≤ v ∧ v.toNat.testBit 15 then v - 65536 else v]) ∨
        ∃ body, token = '\'' :: body ++ ['\''] ∧ values = body.map fun c => (c.toNat : Int) := by
    intro values
    simp only [evaluate_eq_some_iff, written?_eq_some_iff, fits_iff_lt_two_pow, signed_eq_testBit,
      literal?_eq_some_iff, and_assoc]
  refine ⟨haccepts, ?_, (evaluate_eq_evaluateByForms token).symm⟩
  rw [Option.eq_none_iff_forall_ne_some]
  simp only [ne_eq, haccepts, not_or, not_exists]
  constructor
  · intro h
    refine ⟨fun v hv => ?_, fun body e => (h _).2 body ⟨e, rfl⟩⟩
    by_contra hin
    exact (h _).1 v ⟨hv, by omega, by omega, rfl⟩
  · intro ⟨hnumber, hquoted⟩ values
    refine ⟨fun v ⟨hv, hlow, hhigh, _⟩ => ?_, fun body ⟨e, _⟩ => hquoted body e⟩
    have := hnumber v hv
    omega

example : evaluate "-9223372036854775808" = some [-9223372036854775808] ∧
    evaluate "9223372036854775808" = none ∧ evaluate "00000b" = some [0] ∧
    evaluate "0FFFFh" = none ∧ evaluate "'''" = some [39] ∧ evaluate "'" = none := by decide

end Constant

/-!
## The characters of numbers

What can be said of a number from the characters of which its token consists, and the other way round. All
characters of a number are word characters, apart from a minus sign before it. Letters stand before the last
character in hexadecimal notation only, and the letters of one mnemonic already make that number large;
a number of two characters is small.
-/

namespace Text
variable {base : Nat} {alphabet digits : Text}

theorem positional_append (base : Nat) (a b : Text) :
    positional base (a ++ b) = positional base a * base ^ b.length + positional base b := by
  rw [positional, List.reverse_append, List.map_append, Nat.ofDigits_append, List.length_map,
    List.length_reverse, Nat.add_comm, Nat.mul_comm]
  rfl

/-- A number is at least what some digits of it that stand together are worth. -/
theorem positional_infix_le (pos : 0 < base) (before digits after : Text) :
    positional base digits ≤ positional base (before ++ digits ++ after) := by
  have hpow := Nat.le_mul_of_pos_right (positional base digits) (Nat.pow_pos pos (n := after.length))
  rw [positional_append, positional_append, Nat.add_mul]
  omega

theorem positional_lt (one_lt : 1 < base) (worths : alphabet.all (worth · < base) = true)
    (h : digits ⊆ alphabet) : positional base digits < base ^ digits.length := by
  have hdigits : ∀ d ∈ digits.reverse.map worth, d < base := by
    intro d hd
    obtain ⟨c, hc, rfl⟩ := List.mem_map.mp hd
    exact of_decide_eq_true (List.all_eq_true.mp worths c (h (List.mem_reverse.mp hc)))
  have hlt := Nat.ofDigits_lt_base_pow_length one_lt hdigits
  rwa [List.length_map, List.length_reverse] at hlt

end Text

namespace Constant
open Text (positional worth)
open Unicode (isWordChar)

variable {token : Text} {v : Int}

/-! ### Numbers by their characters -/

theorem isWordChar_of_spells (h : Spells token v) (unsigned : token.head? ≠ some '-') :
    ∀ c ∈ token, isWordChar c = true := by
  have hdigits : ∀ {alphabet digits : Text}, alphabet.all isWordChar = true → digits ⊆ alphabet →
      ∀ c ∈ digits, isWordChar c = true := fun hall hsub c hc =>
    List.all_eq_true.mp hall c (hsub hc)
  have hsuffixed : ∀ {digits : Text} {suffix : Char}, (∀ c ∈ digits, isWordChar c = true) →
      isWordChar suffix = true → ∀ c ∈ digits ++ [suffix], isWordChar c = true :=
    fun hall hsuffix => List.forall_mem_append.mpr ⟨hall, List.forall_mem_singleton.mpr hsuffix⟩
  cases h with
  | binary _ all => exact hsuffixed (hdigits (by decide +kernel) all) (by decide)
  | octal _ all => exact hsuffixed (hdigits (by decide +kernel) all) (by decide)
  | hexadecimal _ _ all either =>
    refine hsuffixed (hdigits (by decide +kernel) all) ?_
    rcases either with rfl | rfl <;> decide
  | decimal _ all => exact hdigits (by decide +kernel) all
  | negative => exact absurd rfl unsigned

/-- A letter that is not the last character makes the notation hexadecimal. -/
theorem hexadecimal_of_mem_dropLast (h : Spells token v) {c : Char} (hc : c ∈ token.dropLast)
    (letter : c ∉ "-0123456789".toList) :
    ∃ digits suffix, token = digits ++ [suffix] ∧ digits.length ≤ 4 ∧
      digits ⊆ "0123456789ABCDEFabcdef".toList ∧ v = positional 16 digits := by
  have hnot : ∀ {alphabet : Text}, alphabet ⊆ "-0123456789".toList → ¬ token.dropLast ⊆ alphabet :=
    fun hsub hall => letter (hsub (hall hc))
  cases h with
  | @hexadecimal digits suffix _ few all _ => exact ⟨digits, suffix, rfl, few, all, rfl⟩
  | binary _ all =>
    rw [List.dropLast_concat] at hnot
    exact absurd all (hnot (by decide))
  | octal _ all =>
    rw [List.dropLast_concat] at hnot
    exact absurd all (hnot (by decide))
  | decimal _ all =>
    exact absurd (List.Subset.trans (List.dropLast_subset _) all) (hnot (by decide))
  | @negative digits _ all =>
    have hsub : '-' :: digits ⊆ "-0123456789".toList :=
      List.cons_subset.mpr ⟨by decide, List.Subset.trans all (by decide)⟩
    exact absurd (List.Subset.trans (List.dropLast_subset _) hsub) (hnot (List.Subset.refl _))

theorem spells_lt_hundred (h : Spells token v) (unsigned : token.head? ≠ some '-')
    (short : token.length ≤ 2) : 0 ≤ v ∧ v < 100 := by
  -- one digit before a suffix
  have hsuffixed : ∀ {digits alphabet : Text} {suffix : Char} (base : Nat),
      (digits ++ [suffix]).length ≤ 2 → 1 < base → base ≤ 16 →
      alphabet.all (worth · < base) = true → digits ⊆ alphabet → positional base digits < 100 := by
    intro digits alphabet suffix base hlen one_lt le_sixteen worths all
    have hlt := Text.positional_lt one_lt worths all
    have hone : digits.length ≤ 1 := by simpa using hlen
    have hpow := Nat.pow_le_pow_right (by omega : 0 < base) hone
    rw [Nat.pow_one] at hpow
    omega
  cases h with
  | binary _ all => have := hsuffixed 2 short (by decide) (by decide) (by decide) all; omega
  | octal _ all => have := hsuffixed 8 short (by decide) (by decide) (by decide) all; omega
  | hexadecimal _ _ all _ =>
    have := hsuffixed 16 short (by decide) (by decide) (by decide) all
    omega
  | decimal _ all =>
    have hlt : positional 10 _ < 10 ^ _ := Text.positional_lt (by decide) (by decide) all
    have hpow := Nat.pow_le_pow_right (by decide : 0 < 10) short
    omega
  | negative => exact absurd rfl unsigned

/-! ### Tokens without quotes -/

theorem evaluate_eq_some_iff_of_not_mem (h : '\'' ∉ token) {values : List Int} :
    evaluate token = some values ↔
      ∃ v, written? token = some v ∧ values = [MachineWord.signed v] := by
  rw [evaluate_eq_some_iff, or_iff_left]
  intro ⟨body, hbody, _⟩
  rw [literal?_eq_some_iff] at hbody
  exact h (hbody ▸ List.mem_cons_self)

/-- A digit is worth less than its code, and no other character alone is a number. -/
theorem evaluate_singleton_ne (c : Char) : evaluate [c] ≠ some [(c.toNat : Int)] := by
  have hdigit : ("0123456789".toList.all fun d =>
      [MachineWord.signed (positional 10 [d])] != [(d.toNat : Int)]) = true := by decide
  intro h
  rcases evaluate_eq_some_iff.mp h with ⟨v, hw, e⟩ | ⟨body, hbody, -⟩
  · have hs := (spells_of_written? hw).1
    generalize htoken : [c] = token at hs
    have hlen := congrArg List.length htoken
    cases hs with
    | binary hne | octal hne => exact hne (by simpa using hlen)
    | hexadecimal pos =>
      rw [List.length_append, List.length_singleton, List.length_singleton] at hlen
      omega
    | decimal _ all =>
      subst htoken
      exact bne_iff_ne.mp (List.all_eq_true.mp hdigit c (all List.mem_cons_self)) e.symm
    | negative hne => exact hne (List.cons.inj htoken).2.symm
  · have hlen := congrArg List.length (literal?_eq_some_iff.mp hbody)
    simp at hlen

end Constant
end AsmLens
