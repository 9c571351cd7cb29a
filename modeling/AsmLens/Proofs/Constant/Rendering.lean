import AsmLens.Constant
import AsmLens.Proofs.Text.Written

/-!
# Numbers and literals, written and read

How a number is written settles what is read; what is shown of a value is written so that it can be read
again; and the sign of what is read is that of a word.

Results:
* `written?_concat`: the last character settles the notation.
* `written?_signedDecimal`: an integer in decimal notation is read back.
* `evaluate_of_written?`, `evaluate_concat_eq_none`: from the number to the value of the token.
* `written?_decimal`, `written?_binary`, `written?_hexadecimal`: the number that is read back.
* `evaluate_rendering`: the value of each rendering, on the words and beyond.
* `paragraph_injective`: no two values are shown in the same paragraph.
* `signed_lt_zero_iff`, `signed_signed_iff`: when it is negative, and when it is final.
* `negative_iff_lt_modulus`: both for the numbers that are written as constants.
* `not_negative_of_wide`: a constant with bit 15 set that is not negative.
* `character?_toNat`: what is shown for the code of a character.
* `literal_spelled_back`: what is shown for a literal.
* `not_spelled_back_of_last`: a literal that is not spelled back.
-/
namespace AsmLens.Constant
open Text (isDigitOf numeral? signedDecimal)

/-!
## How a number is written

The four notations are tried one after the other, yet no token could be read in two of them: the
last character of a token settles its notation. A decimal digit is the last character of a decimal
number, a suffix is that of the others, and whatever ends in another character is no number.
-/

/-- The number that the digits before a suffix spell. -/
def suffixed? (suffix : Char) (digits : Text) : Option Nat :=
  if suffix = 'b' then numeral? 2 digits
  else if suffix = 'o' then numeral? 8 digits
  else if suffix = 'h' ∨ suffix = 'H' then
    if digits.length ≤ 4 then numeral? 16 digits else none
  else none

/-! ### The last character -/

theorem orElse_eq_suffixed? (digits : Text) (c : Char) :
    (binary? (digits ++ [c]) <|> octal? (digits ++ [c]) <|> hexadecimal? (digits ++ [c])) =
      suffixed? c digits := by
  simp only [binary?, octal?, hexadecimal?, beforeSuffix?_append, suffixed?, beq_iff_eq,
    Bool.or_eq_true]
  by_cases hb : c = 'b'
  · subst hb
    simp
  · by_cases ho : c = 'o'
    · subst ho
      simp
    · by_cases hh : c = 'h' ∨ c = 'H' <;> simp [hb, ho, hh]

theorem ne_of_isDigitOf {base : Nat} {c d : Char} (hc : isDigitOf base c = true)
    (hd : isDigitOf base d = false) : c ≠ d := by
  intro e
  rw [e, hd] at hc
  cases hc

theorem suffixed?_of_digit {c : Char} (h : isDigitOf 10 c = true) (digits : Text) :
    suffixed? c digits = none := by
  have hne : ∀ suffix, isDigitOf 10 suffix = false → c ≠ suffix := fun _ => ne_of_isDigitOf h
  simp [suffixed?, hne 'b' (by decide), hne 'o' (by decide), hne 'h' (by decide),
    hne 'H' (by decide)]

theorem decimal?_of_ne_minus {token : Text} (h : ∀ digits, token ≠ '-' :: digits) :
    decimal? token = (numeral? 10 token).map fun (n : Nat) => (n : Int) := by
  unfold decimal?
  split
  case h_1 digits => exact absurd rfl (h digits)
  case h_2 => rfl

theorem decimal?_concat_eq_none (text : Text) {c : Char} (h : isDigitOf 10 c = false) :
    decimal? (text ++ [c]) = none := by
  unfold decimal?
  split
  case h_1 digits e =>
    cases text with
    | nil =>
      obtain rfl : digits = [] := (List.cons.inj e).2.symm
      rfl
    | cons first rest =>
      obtain rfl : digits = rest ++ [c] := (List.cons.inj e).2.symm
      rw [Text.numeral?_concat_eq_none rest h]
      rfl
  case h_2 =>
    rw [Text.numeral?_concat_eq_none text h]
    rfl

theorem written?_concat (digits : Text) (c : Char) :
    written? (digits ++ [c]) =
      if isDigitOf 10 c then (decimal? (digits ++ [c])).filter fits
      else ((suffixed? c digits).map fun (n : Nat) => (n : Int)).filter fits := by
  rw [written?, orElse_eq_suffixed?]
  split
  case isTrue h =>
    rw [suffixed?_of_digit h]
    rfl
  case isFalse h =>
    simp [decimal?_concat_eq_none digits (Bool.eq_false_iff.mpr h)]

/-! ### Decimal numbers -/

theorem decimal?_decimal (n : Nat) : decimal? (Text.decimal n) = some (n : Int) := by
  unfold decimal?
  split
  case h_1 digits e =>
    have hminus : '-' ∈ Text.decimal n := by
      rw [e]
      exact List.mem_cons_self
    have := Text.isDigitOf_of_mem_toDigits (by decide) (by decide) n _ hminus
    cases this
  case h_2 =>
    rw [Text.decimal, Text.numeral?_toDigits (by decide) (by decide)]
    rfl

theorem decimal?_signedDecimal (value : Int) : decimal? (signedDecimal value) = some value := by
  cases value with
  | ofNat n => exact decimal?_decimal n
  | negSucc n =>
    have hread : numeral? 10 (Text.decimal (n + 1)) = some (n + 1) :=
      Text.numeral?_toDigits (by decide) (by decide) (n + 1)
    rw [signedDecimal, decimal?, hread]
    rfl

theorem exists_concat_signedDecimal (value : Int) :
    ∃ text c, signedDecimal value = text ++ [c] ∧ isDigitOf 10 c = true := by
  have hlast : ∀ n, ∃ text c, Text.decimal n = text ++ [c] ∧ isDigitOf 10 c = true := by
    intro n
    have hne : Text.decimal n ≠ [] := Nat.toDigits_ne_nil
    refine ⟨_, _, (List.dropLast_concat_getLast hne).symm, ?_⟩
    exact Text.isDigitOf_of_mem_toDigits (by decide) (by decide) n _ (List.getLast_mem hne)
  cases value with
  | ofNat n => exact hlast n
  | negSucc n =>
    obtain ⟨text, c, e, hc⟩ := hlast (n + 1)
    exact ⟨'-' :: text, c, congrArg ('-' :: ·) e, hc⟩

theorem written?_signedDecimal {value : Int} (h : fits value = true) :
    written? (signedDecimal value) = some value := by
  obtain ⟨text, c, e, hc⟩ := exists_concat_signedDecimal value
  rw [e, written?_concat, if_pos hc, ← e, decimal?_signedDecimal, Option.filter_some, if_pos h]

/-! ### The value of a token -/

theorem evaluate_of_written? {token : Text} {value : Int} (h : written? token = some value) :
    evaluate token = some [MachineWord.signed value] := by
  rw [evaluate, h]

theorem literal?_concat_eq_none (text : Text) {c : Char} (h : c ≠ '\'') :
    literal? (text ++ [c]) = none := by
  cases text with
  | nil =>
    unfold literal?
    split
    case h_1 rest e => exact absurd (List.cons.inj e).1 h
    case h_2 => rfl
  | cons first rest =>
    unfold literal?
    split
    case h_1 body e =>
      obtain rfl : rest ++ [c] = body := (List.cons.inj e).2
      rw [beforeSuffix?_append, if_neg]
      simpa using h
    case h_2 => rfl

/-- What is no number and does not end with a quote has no value. -/
theorem evaluate_concat_eq_none {digits : Text} {c : Char} (h : c ≠ '\'')
    (hw : written? (digits ++ [c]) = none) : evaluate (digits ++ [c]) = none := by
  rw [evaluate, hw, literal?_concat_eq_none digits h]
  rfl

/-!
## Renderings are constants

What a reader is shown for a value can be put back into a source text. In decimal notation the value
itself comes back and is then read as a machine word. The other two notations show the unsigned view,
so that a negative value comes back by its bits. Binary notation takes any width; hexadecimal takes
four digits, which is one word, and what is rendered wider than that is no constant at all.
-/

open MachineWord (signed unsigned)

theorem fits_iff {value : Int} : fits value = true ↔ -bound ≤ value ∧ value < bound := by
  simp [fits]

theorem fits_unsigned {value : Int} (h : fits value = true) : fits (unsigned value) = true := by
  rw [fits_iff] at h ⊢
  simp only [bound, unsigned, MachineWord.modulus] at h ⊢
  split <;> omega

theorem written?_decimal {value : Int} (h : fits value = true) :
    written? (Rendering.ofValue value).decimal = some value :=
  written?_signedDecimal h

theorem written?_binary {value : Int} (h : fits value = true) :
    written? (Rendering.ofValue value).binary = some (unsigned value : Int) := by
  have hsuffix : suffixed? 'b' (Nat.toDigits 2 (unsigned value)) = some (unsigned value) :=
    Text.numeral?_toDigits (by decide) (by decide) (unsigned value)
  refine (written?_concat _ 'b').trans ?_
  rw [if_neg (by decide), hsuffix, Option.map_some, Option.filter_some, if_pos (fits_unsigned h)]

theorem suffixed?_hexadecimal (n : Nat) :
    suffixed? 'h' (Text.zeroPadded 4 (Text.ofNat 16 n)) = if n < 65536 then some n else none := by
  have hread : Text.numeral? 16 (Text.zeroPadded 4 (Text.ofNat 16 n)) = some n := by
    rw [Text.numeral?_zeroPadded (by decide) 4 (Text.ofNat_ne_nil 16 n),
      Text.numeral?_ofNat (by decide) (by decide)]
  have hdigits : (Nat.toDigits 16 n).length ≤ 4 ↔ n < 65536 :=
    Nat.length_toDigits_le_iff (by decide) (by decide)
  have hwidth : (Text.zeroPadded 4 (Text.ofNat 16 n)).length ≤ 4 ↔ n < 65536 := by
    rw [Text.length_zeroPadded, Nat.max_le, and_iff_right (Nat.le_refl 4), Text.length_ofNat,
      hdigits]
  simp only [suffixed?, hwidth, hread]
  rfl

theorem written?_hexadecimal (value : Int) :
    written? (Rendering.ofValue value).hexadecimal =
      if unsigned value < 65536 then some (unsigned value : Int) else none := by
  refine (written?_concat _ 'h').trans ?_
  rw [if_neg (by decide), suffixed?_hexadecimal]
  split
  case isTrue h =>
    have hfits : fits (unsigned value : Int) = true := by
      rw [fits_iff, bound]
      omega
    rw [Option.map_some, Option.filter_some, if_pos hfits]
  case isFalse => rfl

/-- The renderings of a value of 64 bits stand for its signed reading, or that of its unsigned view;
the hexadecimal one does so up to four digits and stands for nothing if it has more. All three stand
for the value itself if it is that of a word. -/
theorem evaluate_rendering (value : Int) (h : fits value = true) :
    let r := Rendering.ofValue value
    evaluate r.decimal = some [signed value] ∧
      evaluate r.binary = some [signed (unsigned value)] ∧
      evaluate r.hexadecimal =
        (if unsigned value < 65536 then some [signed (unsigned value)] else none) ∧
      (-32768 ≤ value → value ≤ 32767 →
        evaluate r.decimal = some [value] ∧ evaluate r.binary = some [value] ∧
          evaluate r.hexadecimal = some [value]) := by
  intro r
  have decimal := evaluate_of_written? (written?_decimal h)
  have binary := evaluate_of_written? (written?_binary h)
  have hexadecimal : evaluate r.hexadecimal =
      if unsigned value < 65536 then some [signed (unsigned value)] else none := by
    have hw := written?_hexadecimal value
    split at hw
    case isTrue hlt => rw [if_pos hlt, evaluate_of_written? hw]
    case isFalse hlt =>
      rw [if_neg hlt]
      exact evaluate_concat_eq_none (by decide) hw
  refine ⟨decimal, binary, hexadecimal, ?_⟩
  intro hle hlt
  have hplain : signed value = value :=
    MachineWord.signed_of_lt_signBit (by rw [MachineWord.signBit]; omega)
  have hword : unsigned value < 65536 := by
    simp only [unsigned, MachineWord.modulus]
    split <;> omega
  have hbits : signed (unsigned value) = value :=
    MachineWord.signed_unsigned (by rw [MachineWord.signBit]; omega)
      (by rw [MachineWord.signBit]; omega)
  rw [if_pos hword, hbits] at hexadecimal
  rw [hbits] at binary
  rw [hplain] at decimal
  exact ⟨decimal, binary, hexadecimal⟩

/-- The least word comes back from all three notations. `12345h` has five digits: the value that it
is the rendering of comes back from the other two only. -/
theorem evaluate_rendering_narrow_and_wide :
    (fits (-32768) = true ∧ -32768 ≤ (-32768 : Int) ∧ (-32768 : Int) ≤ 32767 ∧
      (Rendering.ofValue (-32768)).hexadecimal = "8000h" ∧
      evaluate (Rendering.ofValue (-32768)).hexadecimal = some [-32768]) ∧
    (fits 74565 = true ∧ (Rendering.ofValue 74565).hexadecimal = "12345h" ∧
      evaluate (Rendering.ofValue 74565).hexadecimal = none ∧
      evaluate (Rendering.ofValue 74565).binary = some [74565]) := by
  obtain ⟨-, -, -, narrow⟩ := evaluate_rendering (-32768) (by decide)
  obtain ⟨-, binary, wide, -⟩ := evaluate_rendering 74565 (by decide)
  exact ⟨⟨by decide, by decide, by decide, by decide, (narrow (by decide) (by decide)).2.2⟩,
    by decide, by decide, wide, binary⟩

/-! ### Paragraphs -/

theorem takeWhile_signedDecimal (value : Int) (rest : Text) :
    (Text.signedDecimal value ++ ' ' :: rest).takeWhile (· != ' ') = Text.signedDecimal value := by
  have hdigits : ∀ n, ∀ c ∈ Text.decimal n, (c != ' ') = true := fun n c hc => by
    rw [bne_iff_ne]
    rintro rfl
    exact absurd (Text.isDigitOf_of_mem_toDigits (by decide) (by decide) n _ hc) (by decide)
  have hall : ∀ c ∈ Text.signedDecimal value, (c != ' ') = true := by
    cases value with
    | ofNat n => exact hdigits n
    | negSucc n => exact List.forall_mem_cons.mpr ⟨by decide, hdigits (n + 1)⟩
  rw [List.takeWhile_append_of_pos hall, List.takeWhile_cons_of_neg (by decide), List.append_nil]

theorem exists_paragraph (value : Int) : ∃ rest, (Rendering.ofValue value).paragraph =
    "**Dec**: ".toList ++ (Text.signedDecimal value ++ ' ' :: rest) := by
  have hbar : " | **Hex**: ".toList = ' ' :: "| **Hex**: ".toList := rfl
  unfold Rendering.paragraph
  simp only [List.append_assoc, hbar, List.cons_append]
  exact ⟨_, rfl⟩

/-- A paragraph tells which value it shows: the decimal notation ends at the second blank. -/
theorem paragraph_injective {value other : Int}
    (h : (Rendering.ofValue value).paragraph = (Rendering.ofValue other).paragraph) :
    value = other := by
  obtain ⟨rest, e⟩ := exists_paragraph value
  obtain ⟨rest', e'⟩ := exists_paragraph other
  rw [e, e', List.append_right_inj] at h
  have hdecimal := congrArg (List.takeWhile (· != ' ')) h
  rw [takeWhile_signedDecimal, takeWhile_signedDecimal] at hdecimal
  have hread := congrArg decimal? hdecimal
  rw [decimal?_signedDecimal, decimal?_signedDecimal] at hread
  exact Option.some.inj hread

end AsmLens.Constant

/-!
## The sign of a number

A word is negative when its bit 15 is set. The signed reading takes one modulus off a number with that
bit, which makes every number of one word negative that should be. A constant may be far wider than a
word, and then one modulus is too little: `98304` has bit 15 set, and after the step it is `32768`, which
is not negative and has bit 15 set again.
-/

namespace AsmLens

namespace MachineWord

variable {value : Int}

theorem signed_of_hasSignBit (nonneg : 0 ≤ value) (h : hasSignBit value = true) :
    signed value = value - modulus := by
  rw [signed, if_pos ⟨nonneg, h⟩]

theorem signed_of_not_hasSignBit (h : hasSignBit value = false) : signed value = value := by
  rw [signed, if_neg]
  rintro ⟨-, h'⟩
  rw [h] at h'
  cases h'

/-- A modulus more or less does not touch bit 15. -/
theorem hasSignBit_sub_modulus (value : Int) : hasSignBit (value - modulus) = hasSignBit value := by
  have h : (value - 65536) / 32768 % 2 = value / 32768 % 2 := by omega
  simp only [hasSignBit, signBit, modulus, h]

theorem signed_lt_zero_iff (nonneg : 0 ≤ value) (h : hasSignBit value = true) :
    signed value < 0 ↔ value < modulus := by
  rw [signed_of_hasSignBit nonneg h]
  omega

/-- A number that is wider than a word and has bit 15 set is taken down by one modulus after the
other, and is read as another number every time. -/
theorem signed_signed_ne (wide : modulus ≤ value) (h : hasSignBit value = true) :
    signed (signed value) ≠ signed value := by
  have nonneg : 0 ≤ value := by rw [modulus] at wide; omega
  have again : hasSignBit (value - modulus) = true := by rw [hasSignBit_sub_modulus, h]
  rw [signed_of_hasSignBit nonneg h, signed_of_hasSignBit (by omega) again, modulus]
  omega

theorem signed_signed_iff :
    signed (signed value) = signed value ↔ value < modulus ∨ hasSignBit value = false := by
  constructor
  · intro h
    by_cases hlt : value < modulus
    · exact Or.inl hlt
    · refine Or.inr (Bool.eq_false_iff.mpr fun hbit => ?_)
      exact signed_signed_ne (by omega) hbit h
  · rintro (hlt | hbit)
    · have hstop : signed value < signBit := by
        by_cases hsmall : value < signBit
        · rwa [signed_of_lt_signBit hsmall]
        · rw [signed_of_word (by omega) hlt]
          simp only [signBit, modulus] at hlt ⊢
          omega
      exact signed_of_lt_signBit hstop
    · rw [signed_of_not_hasSignBit hbit, signed_of_not_hasSignBit hbit]

end MachineWord

namespace Constant
open MachineWord (signed modulus)

/-- A number that is written without a minus sign and has bit 15 set has a negative value exactly when
it is less than the modulus. The signed reading of a value is its own signed reading exactly when
the value is less than the modulus or has bit 15 clear. -/
theorem negative_iff_lt_modulus (token : Text) (value : Int) :
    (∀ n : Nat, written? token = some (n : Int) → n.testBit 15 = true →
      ∃ read, evaluate token = some [read] ∧ (read < 0 ↔ (n : Int) < modulus)) ∧
    (signed (signed value) = signed value ↔
      value < modulus ∨ value.toNat.testBit 15 = false) := by
  constructor
  · intro n hw hbit
    have h : MachineWord.hasSignBit n = true := by rw [MachineWord.hasSignBit_eq_testBit, hbit]
    exact ⟨_, evaluate_of_written? hw, MachineWord.signed_lt_zero_iff (Int.natCast_nonneg n) h⟩
  · rw [MachineWord.signed_signed_iff]
    by_cases nonneg : 0 ≤ value
    · rw [← MachineWord.hasSignBit_eq_testBit, Int.toNat_of_nonneg nonneg]
    · have hlt : value < modulus := by rw [modulus]; omega
      simp only [hlt, true_or]

/-- The largest word is negative, and a number with one bit more is not. -/
theorem negative_iff_lt_modulus_both_ways :
    (written? "FFFFh" = some 65535 ∧ Nat.testBit 65535 15 = true ∧
      (∃ read, evaluate "FFFFh" = some [read] ∧ read < 0) ∧
      signed (signed 65535) = signed 65535) ∧
    (written? "11000000000000000b" = some 98304 ∧ Nat.testBit 98304 15 = true ∧
      (∃ read, evaluate "11000000000000000b" = some [read] ∧ ¬ read < 0) ∧
      ¬ signed (signed 98304) = signed 98304) := by
  have narrow : written? "FFFFh" = some 65535 := by decide
  have wide : written? "11000000000000000b" = some 98304 := by decide
  obtain ⟨hnarrow, hfinal⟩ := negative_iff_lt_modulus "FFFFh" 65535
  obtain ⟨hwide, hagain⟩ := negative_iff_lt_modulus "11000000000000000b" 98304
  obtain ⟨v, hv, hneg⟩ := hnarrow 65535 narrow (by decide)
  obtain ⟨w, hw, hpos⟩ := hwide 98304 wide (by decide)
  refine ⟨⟨narrow, by decide, ⟨v, hv, hneg.mpr (by decide)⟩, hfinal.mpr (by decide)⟩, wide,
    by decide, ⟨w, hw, fun h => absurd (hpos.mp h) (by decide)⟩, ?_⟩
  rw [hagain]
  decide

/-- `98304` has bit 15 set, its value is not negative, and the signed reading of that value is another
one. -/
theorem not_negative_of_wide :
    written? "98304" = some 98304 ∧ Nat.testBit 98304 15 = true ∧
      evaluate "98304" = some [32768] ∧ signed (signed 98304) ≠ signed 98304 := by
  decide

end Constant
end AsmLens

/-!
## Literals spelled back

A literal stands for the codes of its characters, and each code is shown with the character that has
it. So what is shown for a literal spells it, quotes inside it included, with one exception: codes are
shown as characters below `0x10FFFF` only, and that is the code of the last character there is.
-/

namespace AsmLens.Constant

/-- The character with the greatest code. -/
def lastCharacter : Char := Char.ofNat 0x10FFFF

theorem toNat_le (c : Char) : c.toNat ≤ 0x10FFFF := by
  have hvalid : c.toNat.isValidChar := c.valid
  unfold Nat.isValidChar at hvalid
  omega

theorem eq_lastCharacter_iff {c : Char} : c = lastCharacter ↔ c.toNat = 0x10FFFF := by
  constructor
  · intro h
    rw [h]
    rfl
  · intro h
    rw [← Char.ofNat_toNat c, h, lastCharacter]

theorem ofNatAux_eq {n : Nat} (hvalid : n.isValidChar) {c : Char} (h : n = c.toNat) :
    Char.ofNatAux n hvalid = c := by
  subst h
  have hchar : Char.ofNat c.toNat = Char.ofNatAux c.toNat hvalid := dif_pos hvalid
  rw [← hchar, Char.ofNat_toNat]

/-- No character has the code of a surrogate, so the greatest code is the only one that is lost. -/
theorem character?_toNat (c : Char) :
    character? (c.toNat : Int) = if c = lastCharacter then none else some c := by
  have hle := toNat_le c
  have hcode : (c.toNat : Int).toNat = c.toNat := Int.toNat_natCast _
  have hvalid : (c.toNat : Int).toNat.isValidChar := hcode ▸ c.valid
  unfold character?
  by_cases h : 0 ≤ (c.toNat : Int) ∧ (c.toNat : Int) < 0x10FFFF
  · have hne : c ≠ lastCharacter := by
      rw [ne_eq, eq_lastCharacter_iff]
      omega
    rw [if_pos h, dif_pos hvalid, if_neg hne, ofNatAux_eq hvalid hcode]
  · rw [if_neg h, if_pos (eq_lastCharacter_iff.mpr (by omega))]

theorem character_ofValue (value : Int) : (Rendering.ofValue value).character = character? value :=
  rfl

/-- Any text between quotes is a constant with one value for each character of the text. What is shown
for a value is the character, unless it is the last one, for which nothing is shown. So the text is
spelled back exactly if it does not hold that character. -/
theorem literal_spelled_back (text : Text) :
    ∃ values, evaluate ('\'' :: text ++ ['\'']) = some values ∧ values.length = text.length ∧
      (values.map fun v => (Rendering.ofValue v).character) =
        text.map (fun c => if c = lastCharacter then none else some c) ∧
      ((values.map fun v => (Rendering.ofValue v).character) = text.map some ↔
        lastCharacter ∉ text) := by
  have hshown : ((text.map fun c => (c.toNat : Int)).map fun v => (Rendering.ofValue v).character) =
      text.map fun c => if c = lastCharacter then none else some c := by
    rw [List.map_map]
    apply List.map_congr_left
    intro c _
    rw [Function.comp_apply, character_ofValue, character?_toNat]
  refine ⟨text.map fun c => (c.toNat : Int), evaluate_quoted text, List.length_map _, hshown, ?_⟩
  rw [hshown, List.map_inj_left]
  constructor
  · intro h hmem
    exact absurd (h lastCharacter hmem) (by simp)
  · intro h c hc
    exact if_neg (ne_of_mem_of_not_mem hc h)

/-- The last character has a value in a literal, but that value is shown without a character. -/
theorem not_spelled_back_of_last :
    ¬ ∃ values, evaluate ['\'', Char.ofNat 0x10FFFF, '\''] = some values ∧
      (values.map fun v => (Rendering.ofValue v).character) = [some (Char.ofNat 0x10FFFF)] := by
  intro h
  obtain ⟨values, hvalues, hshown⟩ := h
  have hcode : evaluate ['\'', Char.ofNat 0x10FFFF, '\''] = some [0x10FFFF] := by decide
  rw [hcode] at hvalues
  cases hvalues
  exact absurd hshown (by decide)

end AsmLens.Constant
