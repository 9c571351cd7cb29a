import AsmLens.Text
import Mathlib.Tactic.SplitIfs

/-!
# What is written can be read back

Numbers by their digits, and pieces of text that show where they end.

Results:
* `numeral?_asciiUpper`, `numeral?_zeroPadded`: the two liberties.
* `numeral?_toDigits`, `numeral?_ofNat`: a number that is written is read back.
* `numeral?_concat_eq_none`: one character that is no digit spoils the whole.
* `append_inj_of_all`: a stretch of characters of one sort ends where another sort begins.
* `decimal_append_inj`, `padLeft_decimal_append_inj`: a number and what follows it.
* `unescape?_append`: an escaped character is read back, whatever follows it.
* `Quoted.encodeWith_append_inj`, `Quoted.newline_not_mem_encodeWith`: quoted text and what follows it,
  and that it stays on its line.
-/
namespace AsmLens.Text

/-!
## Numbers and their digits

A numeral is read digit by digit, and what it spells grows with every digit in the way in which the
number was taken apart to write it. Two liberties of the reader matter to the writer: the case of
the digits and the zeros before them change nothing.
-/

/-! ### Case and leading zeros -/

/-- A character beyond ASCII has no upper case here. -/
theorem toUpper_of_not_ascii {c : Char} (h : ¬ c.toNat < 128) : c.toUpper = c := by
  have hz : ¬ c.val ≤ 'z'.val := by
    rw [UInt32.le_iff_toNat_le]
    intro hle
    exact h (Nat.lt_of_le_of_lt hle (by decide))
  exact dif_neg fun hc => hz hc.2

/-- What holds of the ASCII characters and of those without an upper case holds of all. -/
theorem ascii_or_toUpper (c : Char) : (∃ n : Fin 128, c = Char.ofNat n.val) ∨ c.toUpper = c := by
  by_cases h : c.toNat < 128
  · exact Or.inl ⟨⟨c.toNat, h⟩, (Char.ofNat_toNat c).symm⟩
  · exact Or.inr (toUpper_of_not_ascii h)

theorem digitValue?_toUpper (c : Char) : digitValue? c.toUpper = digitValue? c := by
  have ascii : ∀ n : Fin 128,
      digitValue? (Char.ofNat n.val).toUpper = digitValue? (Char.ofNat n.val) := by decide
  rcases ascii_or_toUpper c with ⟨n, rfl⟩ | h
  · exact ascii n
  · rw [h]

theorem isDigitOf_toUpper (base : Nat) (c : Char) : isDigitOf base c.toUpper = isDigitOf base c := by
  rw [isDigitOf, isDigitOf, digitValue?_toUpper]

theorem numeral_asciiUpper (base : Nat) (digits : Text) :
    numeral base (asciiUpper digits) = numeral base digits := by
  simp only [numeral, numeralFrom, asciiUpper, List.foldl_map, digitValue?_toUpper]

theorem numeral?_asciiUpper (base : Nat) (text : Text) :
    numeral? base (asciiUpper text) = numeral? base text := by
  have hall : (asciiUpper text).all (isDigitOf base) = text.all (isDigitOf base) := by
    simp only [asciiUpper, List.all_map, Function.comp_def, isDigitOf_toUpper]
  have hnil : asciiUpper text ≠ [] ↔ text ≠ [] := not_congr List.map_eq_nil_iff
  simp only [numeral?, hall, hnil, numeral_asciiUpper]

theorem length_zeroPadded (width : Nat) (digits : Text) :
    (zeroPadded width digits).length = max width digits.length := by
  simp only [zeroPadded, List.length_append, List.length_replicate]
  omega

theorem numeral?_zeroPadded {base : Nat} (pos : 0 < base) (width : Nat) {text : Text}
    (h : text ≠ []) : numeral? base (zeroPadded width text) = numeral? base text := by
  have hnil : zeroPadded width text ≠ [] := by simp [zeroPadded, h]
  have hzero : isDigitOf base '0' = true := by simpa [isDigitOf, digitValue?] using pos
  have hall : (zeroPadded width text).all (isDigitOf base) = text.all (isDigitOf base) := by
    simp [zeroPadded, hzero]
  simp only [numeral?, hall, numeral_zeroPadded, hnil, h, ne_eq, not_false_eq_true, true_and]

/-! ### Reading what is written -/

theorem numeral_toDigits {base : Nat} (two_le : 2 ≤ base) (le_sixteen : base ≤ 16) (n : Nat) :
    numeral base (Nat.toDigits base n) = n := by
  induction n using Nat.strongRecOn with
  | ind n ih =>
    rw [Nat.toDigits_eq_if (by omega)]
    split
    case isTrue h =>
      have hn : digitValue? n.digitChar = some n := digitValue?_digitChar (by omega)
      simp only [numeral, numeralFrom, List.foldl_cons, List.foldl_nil, hn, Nat.zero_mul,
        Nat.zero_add, Option.getD_some]
    case isFalse h =>
      have hdiv : n / base < n := Nat.div_lt_self (by omega) (by omega)
      have hmod : n % base < 16 := Nat.lt_of_lt_of_le (Nat.mod_lt n (by omega)) le_sixteen
      rw [numeral_append_digit, ih _ hdiv, digitValue?_digitChar hmod, Option.getD_some]
      exact Nat.div_add_mod' n base

theorem numeral?_toDigits {base : Nat} (two_le : 2 ≤ base) (le_sixteen : base ≤ 16) (n : Nat) :
    numeral? base (Nat.toDigits base n) = some n := by
  have hall := List.all_eq_true.mpr (isDigitOf_of_mem_toDigits two_le le_sixteen n)
  rw [numeral?, if_pos ⟨Nat.toDigits_ne_nil, hall⟩, numeral_toDigits two_le le_sixteen]

theorem numeral?_ofNat {base : Nat} (two_le : 2 ≤ base) (le_sixteen : base ≤ 16) (n : Nat) :
    numeral? base (ofNat base n) = some n := by
  rw [ofNat, numeral?_asciiUpper, numeral?_toDigits two_le le_sixteen]

theorem length_ofNat (base n : Nat) : (ofNat base n).length = (Nat.toDigits base n).length :=
  List.length_map _

theorem ofNat_ne_nil (base n : Nat) : ofNat base n ≠ [] :=
  fun h => Nat.toDigits_ne_nil (List.map_eq_nil_iff.mp h)

theorem numeral?_concat_eq_none {base : Nat} (text : Text) {c : Char}
    (h : isDigitOf base c = false) : numeral? base (text ++ [c]) = none := by
  rw [numeral?, if_neg]
  rintro ⟨-, hall⟩
  rw [List.all_append, List.all_cons, h, Bool.false_and, Bool.and_false] at hall
  cases hall

/-!
## Texts that show where they end

Pieces that are put one behind another can be told apart if each shows by itself where it ends: a number
ends with its digits, and quoted text with the first double quote that no backslash announces. All that the
latter needs of the characters between the quotes is `Escapes`: each stands for itself, which a backslash, a
double quote and a newline cannot, or is written as one of the escapes. Which characters are escaped does
not matter.
-/

/-! ### Stretches and numbers -/

section
variable {a b r s : Text} {c d : Char} {m n width : Nat}

theorem takeWhile_append_of_all {test : Char → Bool} (ha : a.all test = true) (hc : test c = false) :
    (a ++ c :: r).takeWhile test = a := by
  rw [List.takeWhile_append_of_pos (List.all_eq_true.mp ha)]
  simp [hc]

/-- A stretch of characters that pass a test ends where a character stands that does not. -/
theorem append_inj_of_all {test : Char → Bool} (ha : a.all test = true) (hb : b.all test = true)
    (hc : test c = false) (hd : test d = false) (h : a ++ c :: r = b ++ d :: s) :
    a = b ∧ c :: r = d :: s := by
  have hab : a = b := by rw [← takeWhile_append_of_all ha hc, h, takeWhile_append_of_all hb hd]
  subst hab
  exact ⟨rfl, List.append_cancel_left h⟩

theorem all_isDigitOf_decimal (n : Nat) : (decimal n).all (isDigitOf 10) = true :=
  List.all_eq_true.mpr (isDigitOf_of_mem_toDigits (by decide) (by decide) n)

theorem decimal_append_inj (hc : isDigitOf 10 c = false) (hd : isDigitOf 10 d = false)
    (h : decimal m ++ c :: r = decimal n ++ d :: s) : m = n ∧ c :: r = d :: s := by
  obtain ⟨hdigits, hrest⟩ :=
    append_inj_of_all (all_isDigitOf_decimal m) (all_isDigitOf_decimal n) hc hd h
  refine ⟨?_, hrest⟩
  have hvalue := congrArg (numeral 10) hdigits
  rwa [decimal, decimal, numeral_toDigits (by decide) (by decide),
    numeral_toDigits (by decide) (by decide)] at hvalue

theorem exists_decimal_eq_cons (n : Nat) : ∃ c digits, decimal n = c :: digits ∧ c ≠ ' ' := by
  have hall := all_isDigitOf_decimal n
  cases hn : decimal n with
  | nil => exact absurd hn Nat.toDigits_ne_nil
  | cons c digits =>
    rw [hn, List.all_cons, Bool.and_eq_true] at hall
    refine ⟨c, digits, rfl, ?_⟩
    intro e
    rw [e] at hall
    exact absurd hall.1 (by decide)

/-- The blanks before a number are no part of it. -/
theorem padLeft_decimal_append_inj (hc : isDigitOf 10 c = false) (hd : isDigitOf 10 d = false)
    (h : padLeft width (decimal m) ++ c :: r = padLeft width (decimal n) ++ d :: s) :
    m = n ∧ c :: r = d :: s := by
  have blanks : ∀ k, (List.replicate k ' ').all (· == ' ') = true := by simp
  obtain ⟨first, digits, hm, hfirst⟩ := exists_decimal_eq_cons m
  obtain ⟨other, others, hn, hother⟩ := exists_decimal_eq_cons n
  have hnumber : decimal m ++ c :: r = decimal n ++ d :: s := by
    rw [padLeft, padLeft, List.append_assoc, List.append_assoc, hm, hn, List.cons_append,
      List.cons_append] at h
    rw [hm, hn, List.cons_append, List.cons_append]
    exact (append_inj_of_all (blanks _) (blanks _) (by simpa using hfirst) (by simpa using hother) h).2
  exact decimal_append_inj hc hd hnumber

end

/-! ### Quoted text -/

namespace Quoted

/-- The characters that are written as a backslash and a letter. -/
def shortEscapes : List (Char × Char) :=
  [('t', '\t'), ('r', '\r'), ('n', '\n'), ('0', '\x00'), ('\\', '\\'), ('"', '"')]

/-- The character may be written like this between double quotes: as itself, unless it is a backslash, a
double quote or a newline, as a short escape, or by its code point. -/
inductive Escapes (c : Char) : Text → Prop where
  | itself : c ≠ '\\' → c ≠ '"' → c ≠ '\n' → Escapes c [c]
  | short {letter : Char} : (letter, c) ∈ shortEscapes → Escapes c ['\\', letter]
  | braced : Escapes c (bracedCodePoint c)

theorem escapes_escape (c : Char) : Escapes c (escape c) := by
  unfold escape
  split_ifs with htab hreturn hnewline hzero hslash hquote
  · exact htab ▸ .short (by decide)
  · exact hreturn ▸ .short (by decide)
  · exact hnewline ▸ .short (by decide)
  · exact hzero ▸ .short (by decide)
  · exact hslash ▸ .short (by decide)
  · exact hquote ▸ .short (by decide)
  · exact .itself hslash hquote hnewline
  · exact .braced

/-- The character that an escape stands for, by what follows the backslash, and the text behind it. -/
def escaped? : Text → Option (Char × Text)
  | [] => none
  | letter :: rest =>
    if letter = 'u' then
      let digits := (rest.drop 1).takeWhile (isDigitOf 16)
      some (Char.ofNat (numeral 16 digits), rest.drop (digits.length + 2))
    else (shortEscapes.lookup letter).map fun c => (c, rest)

/-- The first character between double quotes and the text behind it; nothing at the closing quote. -/
def unescape? : Text → Option (Char × Text)
  | [] => none
  | c :: rest =>
    if c = '\\' then escaped? rest else if c = '"' then none else some (c, rest)

variable {c d : Char} {e r s : Text}

theorem unescape?_append (h : Escapes c e) (r : Text) : unescape? (e ++ r) = some (c, r) := by
  cases h with
  | itself hslash hquote _ => simp [unescape?, hslash, hquote]
  | @short letter hmem =>
    have hread : ∀ escape ∈ shortEscapes,
        escape.1 ≠ 'u' ∧ shortEscapes.lookup escape.1 = some escape.2 := by decide
    have hletter := hread _ hmem
    simp [unescape?, escaped?, hletter.1, hletter.2]
  | braced =>
    have hbrace : isDigitOf 16 '\x7d' = false := by decide
    have hdigits : (codePointDigits c ++ '\x7d' :: r).takeWhile (isDigitOf 16) = codePointDigits c :=
      takeWhile_append_of_all
        (List.all_eq_true.mpr (isDigitOf_of_mem_toDigits (by decide) (by decide) c.toNat)) hbrace
    have hvalue : Char.ofNat (numeral 16 (codePointDigits c)) = c := by
      rw [codePointDigits, numeral_toDigits (by decide) (by decide), Char.ofNat_toNat]
    have hcons : bracedCodePoint c ++ r =
        '\\' :: 'u' :: '\x7b' :: (codePointDigits c ++ '\x7d' :: r) := by
      simp [bracedCodePoint]
    simp [hcons, unescape?, escaped?, hdigits, hvalue, List.drop_append]

/-- Whatever writes the characters, two texts that are closed by a double quote, and what follows. -/
theorem flatMap_append_inj {write : Char → Text} (hwrite : ∀ c, Escapes c (write c)) {a b : Text}
    (h : a.flatMap write ++ '"' :: r = b.flatMap write ++ '"' :: s) : a = b ∧ r = s := by
  induction a generalizing b with
  | nil =>
    cases b with
    | nil => exact ⟨rfl, by simpa using h⟩
    | cons d b =>
      have hread := congrArg unescape? h
      simp only [List.flatMap_nil, List.nil_append, List.flatMap_cons, List.append_assoc,
        unescape?_append (hwrite d)] at hread
      simp [unescape?] at hread
  | cons c a ih =>
    have hread := congrArg unescape? h
    simp only [List.flatMap_cons, List.append_assoc, unescape?_append (hwrite c)] at hread
    cases b with
    | nil => simp [unescape?] at hread
    | cons d b =>
      simp only [List.flatMap_cons, List.append_assoc, unescape?_append (hwrite d),
        Option.some.injEq, Prod.mk.injEq] at hread
      obtain ⟨rfl, hrest⟩ := hread
      obtain ⟨rfl, hrs⟩ := ih hrest
      exact ⟨rfl, hrs⟩

theorem encodeWith_append_inj {write : Char → Text} (hwrite : ∀ c, Escapes c (write c)) {a b : Text}
    (h : encodeWith write a ++ r = encodeWith write b ++ s) : a = b ∧ r = s := by
  simp only [encodeWith, List.cons_append, List.append_assoc, List.cons.injEq, true_and] at h
  exact flatMap_append_inj hwrite h

theorem newline_not_mem_of_escapes (h : Escapes c e) : '\n' ∉ e := by
  cases h with
  | itself _ _ hnewline => simpa using hnewline.symm
  | @short letter hmem =>
    have hletters : ∀ escape ∈ shortEscapes, '\n' ≠ escape.1 := by decide
    simpa using hletters _ hmem
  | braced =>
    have digits : '\n' ∉ codePointDigits c := not_mem_codePointDigits (by decide) c
    simp [bracedCodePoint, digits]

theorem newline_not_mem_encodeWith {write : Char → Text} (hwrite : ∀ c, Escapes c (write c))
    (text : Text) : '\n' ∉ encodeWith write text := by
  simp [encodeWith, fun c => newline_not_mem_of_escapes (hwrite c)]

end Quoted
end AsmLens.Text
